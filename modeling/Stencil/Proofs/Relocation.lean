import Stencil.Proofs.InputCopies
import Stencil.Proofs.SameTexts

/-!
# Content at Other Addresses

Values with the same content resemble each other, so they have the same texts.

What is found at an object under other addresses is what was found at the object,
under other addresses: that is so for each object by itself, and a lookup only goes
from one object to the next. In another store it may go on for longer, but there is
no need to, as the prototypes stay in a set that has fewer objects than the store.

A text can still depend on where an object is. Whatever is called may look at the
rest of the store, or compare the objects that it is given. So nothing may be called
for the objects that a value leads to. `Candid` says this of one object. Besides
what is called while it is written, there is what is called while it is refused:
then the name of its type is said, and that can be computed.

## Main definitions

* `Found.rename`: What is found, at other addresses.
* `Store.Candid`: Objects for which nothing is called, be they written or refused.

## Theorems

* `Object.own?_rename`: What an object has itself, at other addresses.
* `Store.Matches.find?_eq`, `Store.Matches.inherits_eq`: Lookups at other addresses.
* `Store.Matches.resemblance`: The same content is a resemblance.
* `Store.Matches.candid`, `Store.Candid.extends`: Nothing is called for the objects
  there either.
-/

namespace Stencil

/-! ### Objects -/

/-- What is found, at other addresses. -/
def Found.rename (f : Ref → Ref) : Found → Found
  | property p holder => property (p.rename f) (f holder)
  | native n holder => native n (holder.rename f)

section

variable {f : Ref → Ref} {o : Object} {b : Body} {v : Value}

theorem Prototype.rename_eq_none {p : Prototype} : p.rename f = .none ↔ p = .none := by
  cases p <;> simp only [rename, reduceCtorEq]

theorem Body.isForeign_rename : (b.rename f).isForeign = b.isForeign := by
  cases b with
  | function p => cases p <;> rfl
  | _ => rfl

theorem Body.rename_eq_record : b.rename f = .record ↔ b = .record := by
  cases b with
  | function p => cases p <;> simp only [rename, reduceCtorEq]
  | _ => simp only [rename, reduceCtorEq]

/-- Simple values have no addresses. -/
theorem Value.rename_of_simple (simple : v.wrapper = .string ∨ v.wrapper = .number
      ∨ v.wrapper = .boolean) : v.rename f = v := by
  cases v with
  | object r => rcases simple with h | h | h <;> cases h
  | _ => rfl

namespace Object

theorem isFunction_rename : (o.rename f).isFunction = o.isFunction := by
  rw [isFunction, isFunction, rename]
  cases o.body with
  | function p => cases p <;> rfl
  | _ => rfl

/-- The values under texts, at other addresses. -/
theorem dataEntries_rename (body : o.body = .record) :
    (o.rename f).dataEntries = o.dataEntries.map fun e => (e.1, e.2.rename f) := by
  refine dataEntries_map (g := Property.rename f) rfl (fun p => rfl) (fun p => ?_) body
    (Body.rename_eq_record.mpr body)
  rcases p with ⟨_, _ | _⟩ <;> rfl

theorem indexed_rename : (o.rename f).indexed = o.indexed.map (Option.map (Value.rename f)) := by
  rw [indexed, indexed, rename]
  cases o.body with
  | array elements => rfl
  | boxed v =>
      cases v with
      | text s =>
          change (textElements s).map some = ((textElements s).map some).map _
          simp only [textElements, List.map_map]
          rfl
      | _ => rfl
  | octets c w =>
      cases c with
      | dataView => rfl
      | _ =>
          change w.visible.map _ = (w.visible.map _).map _
          rw [List.map_map]
          rfl
  | cells c w =>
      change w.visible.map _ = (w.visible.map _).map _
      rw [List.map_map]
      rfl
  | function p => cases p <;> rfl
  | _ => rfl

theorem element_rename (v : Value) :
    (o.rename f).element (v.rename f) = (o.element v).rename f := by
  rw [element, element, rename]
  cases o.body with
  | function p => cases p <;> rfl
  | _ => rfl

theorem length?_rename : (o.rename f).length? = o.length?.map (Property.rename f) := by
  rw [length?, length?, rename]
  cases o.body with
  | array elements =>
      change some _ = some _
      rw [List.length_map]
      rfl
  | boxed v => cases v <;> rfl
  | function p => cases p <;> rfl
  | _ => rfl

theorem usualProperty?_rename (name : String) :
    (o.rename f).usualProperty? name = (o.usualProperty? name).map (Property.rename f) := by
  rw [usualProperty?, usualProperty?]
  cases indexOf? name with
  | some i =>
      simp only [indexed_rename, List.getElem?_map]
      rcases o.indexed[i]? with _ | _ | v
      · rfl
      · rfl
      · exact congrArg some (element_rename v)
  | none =>
      by_cases length : name = "length"
      · simp only [length, if_true]
        exact length?_rename
      · simp only [length, if_false, rename]
        cases o.body with
        | pattern p l =>
            simp only [Body.rename]
            split <;> rfl
        | template t =>
            simp only [Body.rename]
            split
            · rfl
            · split <;> rfl
        | function p => cases p <;> rfl
        | _ => rfl

/-- What an object has itself under a key, at other addresses. -/
theorem own?_rename (key : Key) : (o.rename f).own? key = (o.own? key).map (Property.rename f) := by
  have field : (o.rename f).fields.get? key = (o.fields.get? key).map (Property.rename f) :=
    Keyed.get?_map (Property.rename f) o.fields key
  unfold own?
  rw [field]
  cases o.fields.get? key with
  | some p => rfl
  | none =>
      cases key with
      | symbol label => rfl
      | text name =>
          change (o.rename f).bodyProperty? name = (o.bodyProperty? name).map (Property.rename f)
          rw [bodyProperty?, bodyProperty?, usualProperty?_rename, Option.map_map, Option.map_map]
          rfl

theorem ownNative?_rename (key : Key) : (o.rename f).ownNative? key = o.ownNative? key := by
  rcases o with ⟨_, _, _, body⟩
  cases body with
  | template t => cases key <;> rfl
  | function p => cases p <;> rfl
  | _ => rfl

end Object

end

namespace Store

/-- Objects for which nothing is called, neither when they are written nor when the name of
    their type is said. -/
structure Candid (st : Store) (r : Ref) : Prop where
  calm : st.Calm r
  names : (st.get r).isFunction = false → st.NamesType r

namespace Matches

variable {interp : Interpretation} {f : Ref → Ref} {S : Set Ref} {st st' : Store} {r : Ref}
  {v : Value} {key : Key}

/-! ### Lookups -/

theorem prototype_mem (h : Matches f S st st') (hr : r ∈ S) {q : Ref}
    (next : (st.get r).prototype = .object q) : q ∈ S := by
  refine h.closed r hr q ?_
  rw [Object.refs, next]
  exact List.mem_append_left _ (List.mem_append_left _ List.mem_cons_self)

theorem findWithin_eq (h : Matches f S st st') (hr : r ∈ S) (key : Key) (n : Nat) :
    st'.findWithin key n (f r) = (st.findWithin key n r).map (Found.rename f) := by
  induction n generalizing r with
  | zero => rfl
  | succ n ih =>
      rw [findWithin, findWithin, h.get_eq r hr, Object.own?_rename, Object.ownNative?_rename]
      cases (st.get r).own? key with
      | some p => rfl
      | none =>
          cases (st.get r).ownNative? key with
          | some m => rfl
          | none =>
              cases next : (st.get r).prototype with
              | none => simp only [Option.map_none, Object.rename, next, Prototype.rename]
              | family g =>
                  simp only [Option.map_none, Object.rename, next, Prototype.rename]
                  cases key with
                  | symbol label => rfl
                  | text name =>
                      rw [Family.find?, Option.map_map]
                      rfl
              | object q =>
                  simp only [Option.map_none, Object.rename, next, Prototype.rename]
                  exact ih (h.prototype_mem hr next)

/-- What is found at an object under other addresses is what was found, under other
    addresses. -/
theorem find?_eq (h : Matches f S st st') (size_le : st.objects.size ≤ st'.objects.size)
    (hr : r ∈ S) (key : Key) : st'.find? (f r) key = (st.find? r key).map (Found.rename f) := by
  have follows := st.followsPrototypes_findWithin key
  have stays : ∀ q ∈ S, ∀ p, (st.get q).prototype = .object p → p ∈ S :=
    fun q hq _ next => h.prototype_mem hq next
  rw [find?, find?, h.findWithin_eq hr, follows.of_size_le_on h.inside stays hr (by omega),
    follows.of_size_le_on h.inside stays hr (Nat.le_succ _)]

/-- What a property that is found holds is in the set as well. -/
theorem mem_of_data (h : Matches f S st st') (hr : r ∈ S) {p : Property} {holder q : Ref}
    (here : st.find? r key = some (.property p holder)) (slot : p.slot = .data v)
    (hq : q ∈ v.refs) : q ∈ S := by
  refine mem_of_found h.closed hr here q ?_
  rw [slot]
  exact hq

theorem rootFamilyWithin_eq (h : Matches f S st st') (hr : r ∈ S) (n : Nat) :
    st'.rootFamilyWithin n (f r) = st.rootFamilyWithin n r := by
  induction n generalizing r with
  | zero => rfl
  | succ n ih =>
      rw [rootFamilyWithin, rootFamilyWithin, h.get_eq r hr, Object.rename]
      cases next : (st.get r).prototype with
      | object q => exact ih (h.prototype_mem hr next)
      | _ => rfl

/-- What an object derives from does not depend on addresses. -/
theorem inherits_eq (h : Matches f S st st') (size_le : st.objects.size ≤ st'.objects.size)
    (hr : r ∈ S) (g : Family) : st'.inherits (f r) g = st.inherits r g := by
  have follows := st.followsPrototypes_rootFamilyWithin
  have stays : ∀ q ∈ S, ∀ p, (st.get q).prototype = .object p → p ∈ S :=
    fun q hq _ next => h.prototype_mem hq next
  rw [inherits, inherits, rootFamily?, rootFamily?, h.rootFamilyWithin_eq hr,
    follows.of_size_le_on h.inside stays hr (by omega),
    follows.of_size_le_on h.inside stays hr (Nat.le_succ _)]

theorem isFunction_eq (h : Matches f S st st') (hr : r ∈ S) :
    (st'.get (f r)).isFunction = (st.get r).isFunction := by
  rw [h.get_eq r hr, Object.isFunction_rename]

theorem ordinary (h : Matches f S st st') (hr : r ∈ S) (ordinary : st.Ordinary r) :
    st'.Ordinary (f r) := by
  have next' : ∀ {r : Ref}, r ∈ S → ∀ {p : Prototype}, (st.get r).prototype = p →
      (st'.get (f r)).prototype = p.rename f := by
    rintro r hr _ rfl
    rw [h.get_eq r hr]
    rfl
  induction ordinary with
  | none next => exact .none (next' hr next)
  | family next other => exact .family (next' hr next) other
  | object next inside rest ih =>
      have there := h.prototype_mem hr next
      exact .object (next' hr next) (h.target _ there) (ih there)

/-! ### What is called -/

/-- An object without a method for JSON has none at another address. -/
theorem lacksJson (h : Matches f S st st') (size_le : st.objects.size ≤ st'.objects.size)
    (hr : r ∈ S) (lacks : st.LacksJson r) : st'.LacksJson (f r) := by
  intro found' mem'
  rw [h.find?_eq size_le hr] at mem'
  rcases Option.map_eq_some_iff.mp mem' with ⟨found, here, rfl⟩
  rcases lacks found here with ⟨p, holder, v, rfl, slot, simple⟩
  refine ⟨p.rename f, f holder, v.rename f, rfl, Property.slot_rename_of_data slot, ?_⟩
  cases v with
  | object c =>
      have covered : c ∈ S := h.mem_of_data hr here slot List.mem_cons_self
      rw [functionRef?] at simple
      rw [Value.rename, functionRef?, h.isFunction_eq covered]
      split at simple
      · cases simple
      · next object => rw [if_neg object]
  | _ => rfl

/-- A constructor that is found has the same name at another address. -/
theorem sameMaker (h : Matches f S st st') (size_le : st.objects.size ≤ st'.objects.size)
    (covered : ∀ q ∈ v.refs, q ∈ S)
    (data : ∀ c ∈ v.refs, ∀ q holder,
      st.find? c (.text "name") = some (.property q holder) → ∃ w, q.slot = .data w) :
    SameMaker st st' v (v.rename f) := by
  cases v with
  | object c =>
      refine .object c (f c) ?_
      rw [h.find?_eq size_le (covered c List.mem_cons_self)]
      cases here : st.find? c (.text "name") with
      | none => exact .nothing
      | some found =>
          cases found with
          | property p holder =>
              rcases data c List.mem_cons_self p holder here with ⟨u, slot⟩
              exact .data holder (f holder) slot (Property.slot_rename_of_data slot)
                (by cases u <;> rfl)
          | native n holder => exact .native n holder (holder.rename f)
  | _ => exact .simple _ rfl

/-- The name of a type does not depend on addresses. -/
theorem typeName_eq (h : Matches f S st st') (size_le : st.objects.size ≤ st'.objects.size)
    (hr : r ∈ S) (names : (st.get r).isFunction = false → st.NamesType r) :
    ∃ name, st.typeName interp (.object r) = .ok name
      ∧ st'.typeName interp (.object (f r)) = .ok name := by
  refine typeName_same (h.isFunction_eq hr) ?_ fun object => ?_
  · rw [h.get_eq r hr]
    exact Prototype.rename_eq_none
  · rw [h.find?_eq size_le hr]
    cases here : st.find? r (.text "constructor") with
    | none => exact .nothing
    | some found =>
        cases found with
        | property p holder =>
            rcases names object p holder here with ⟨v, slot, data⟩
            exact .data holder (f holder) slot (Property.slot_rename_of_data slot)
              (h.sameMaker size_le (fun q hq => h.mem_of_data hr here slot hq) data)
        | native n holder => exact .native n holder (holder.rename f)

/-- A name that is not computed is not computed at another address. -/
theorem namesType (h : Matches f S st st') (size_le : st.objects.size ≤ st'.objects.size)
    (hr : r ∈ S) (names : st.NamesType r) : st'.NamesType (f r) := by
  intro p' holder' found'
  rw [h.find?_eq size_le hr] at found'
  rcases Option.map_eq_some_iff.mp found' with ⟨found, here, same⟩
  cases found with
  | native n holder => cases same
  | property p holder =>
      cases same
      rcases names p holder here with ⟨v, slot, named⟩
      refine ⟨v.rename f, Property.slot_rename_of_data slot, fun c' hc' q' holder' found' => ?_⟩
      rw [Value.refs_rename] at hc'
      rcases List.mem_map.mp hc' with ⟨c, hc, rfl⟩
      have there : c ∈ S := h.mem_of_data hr here slot hc
      rw [h.find?_eq size_le there] at found'
      rcases Option.map_eq_some_iff.mp found' with ⟨found, here, same⟩
      cases found with
      | native n holder => cases same
      | property q holder =>
          cases same
          rcases named c hc q holder here with ⟨w, slot⟩
          exact ⟨w.rename f, Property.slot_rename_of_data slot⟩

/-! ### Kinds -/

theorem get_bare (h : Matches f S st st') (hr : r ∈ S) {b : Body} {integrity : Integrity}
    (there : st.get r = .bare b integrity) (family : (b.rename f).family = b.family) :
    st'.get (f r) = .bare (b.rename f) integrity := by
  rw [h.get_eq r hr, there, Object.rename_bare family]

/-- A wrapped value is the same at another address. -/
theorem get_boxed (h : Matches f S st st') (hr : r ∈ S) {integrity : Integrity}
    (simple : v.wrapper = .string ∨ v.wrapper = .number ∨ v.wrapper = .boolean)
    (there : st.get r = .bare (.boxed v) integrity) :
    st'.get (f r) = .bare (.boxed v) integrity := by
  have same : (Body.boxed v).rename f = .boxed v := by
    rw [Body.rename, Value.rename_of_simple simple]
  have there' := h.get_bare hr there (by rw [same])
  rwa [same] at there'

/-- Objects are of the kinds that values are made of wherever they are. -/
theorem regular (h : Matches f S st st') (size_le : st.objects.size ≤ st'.objects.size)
    (hr : r ∈ S) (regular : st.Regular r) : st'.Regular (f r) := by
  have get_eq := h.get_eq r hr
  cases regular with
  | record body plain data lacks =>
      refine .record ?_ ?_ ?_ (h.lacksJson size_le hr lacks)
      · rw [get_eq]
        exact Body.rename_eq_record.mpr body
      · rw [get_eq, Object.isPlain_rename, plain]
      · rw [get_eq]
        exact Object.data_rename data
  | derived foreign other ordinary lacks =>
      refine .derived ?_ ?_ (h.ordinary hr ordinary) (h.lacksJson size_le hr lacks)
      · rw [get_eq]
        exact Body.isForeign_rename.trans foreign
      · rw [get_eq, Object.isPlain_rename, other]
  | array elements there => exact .array _ (h.get_bare hr there rfl)
  | map entries there => exact .map _ (h.get_bare hr there rfl)
  | set elements there => exact .set _ (h.get_bare hr there rfl)
  | date instant there => exact .date instant (h.get_bare hr there rfl)
  | pattern p l there => exact .pattern p _ (h.get_bare hr there rfl)
  | url href there => exact .url href (h.get_bare hr there rfl)
  | boxed v simple there => exact .boxed v simple (h.get_boxed hr simple there)
  | octets c w there => exact .octets c w (h.get_bare hr there rfl)
  | function callable lacks =>
      exact .function ((h.isFunction_eq hr).trans callable) (h.lacksJson size_le hr lacks)

/-- An object and the one at the other address are of the same kind. -/
theorem counterpart (h : Matches f S st st') (hr : r ∈ S) (regular : st.Regular r) :
    Counterpart f st st' r := by
  have get_eq := h.get_eq r hr
  -- An instance of a class is a record as well, only not a plain one.
  have record : (st.get r).body = .record → Counterpart f st st' r := by
    intro body
    refine .record body ?_ ?_ ?_
    · rw [get_eq]
      exact Body.rename_eq_record.mpr body
    · rw [get_eq, Object.isPlain_rename]
    · rw [get_eq, Object.dataEntries_rename body]
  cases regular with
  | record body _ _ _ => exact record body
  | derived foreign other _ _ =>
      by_cases body : (st.get r).body = .record
      · exact record body
      · refine .foreign ⟨body, foreign⟩ ⟨?_, ?_⟩ other ?_
        · rw [get_eq]
          exact fun same => body (Body.rename_eq_record.mp same)
        · rw [get_eq]
          exact Body.isForeign_rename.trans foreign
        · rw [get_eq, Object.isPlain_rename, other]
  | array elements there =>
      refine .array elements _ there (h.get_bare hr there rfl) ?_
      rw [List.map_map, List.map_map]
      refine List.map_congr_left fun element _ => ?_
      cases element <;> rfl
  | map entries there => exact .map entries there (h.get_bare hr there rfl)
  | set elements there => exact .set elements there (h.get_bare hr there rfl)
  | date instant there => exact .date instant there (h.get_bare hr there rfl)
  | pattern p l there => exact .pattern p l _ there (h.get_bare hr there rfl)
  | url href there => exact .url href there (h.get_bare hr there rfl)
  | boxed v simple there => exact .boxed v simple there (h.get_boxed hr simple there)
  | octets c w there => exact .octets c w there (h.get_bare hr there rfl)
  | function callable _ => exact .function callable ((h.isFunction_eq hr).trans callable)

/-- Nothing is called for an object at another address either. -/
theorem candid (h : Matches f S st st') (size_le : st.objects.size ≤ st'.objects.size)
    (hr : r ∈ S) (candid : st.Candid r) : st'.Candid (f r) := by
  refine ⟨⟨h.regular size_le hr candid.calm.regular, fun foreign => ?_⟩, fun object => ?_⟩
  · rw [h.get_eq r hr] at foreign
    rw [h.inherits_eq size_le hr]
    exact candid.calm.noBytes (Body.isForeign_rename.symm.trans foreign)
  · rw [h.isFunction_eq hr] at object
    exact h.namesType size_le hr (candid.names object)

/-- The same content is a resemblance, where nothing is called. -/
theorem resemblance (h : Matches f S st st') (size_le : st.objects.size ≤ st'.objects.size)
    (candid : ∀ r ∈ S, st.Candid r) : Resemblance interp f S st st' where
  injective := h.injective
  size_le := size_le
  inside := h.inside
  closed r hr _ q hq := h.closed r hr q (Object.mem_refs_of_mem_held hq)
  counterpart r hr := h.counterpart hr (candid r hr).calm.regular
  calm r hr := (candid r hr).calm
  calm' r hr := (h.candid size_le hr (candid r hr)).calm
  typeName r hr := h.typeName_eq size_le hr (candid r hr).names

end Matches

/-- Nothing is called for an object that is still there in a store that has grown. -/
theorem Candid.extends {st st' : Store} {r : Ref} (candid : st.Candid r) (closed : st.Closed)
    (inside : r.index < st.objects.size) (grown : st.Extends st') : st'.Candid r := by
  have still : Matches id {q | q.index < st.objects.size} st st' :=
    matches_id closed (fun _ hq => hq) grown.size_le grown.get_eq
  exact still.candid grown.size_le inside candid

end Store

end Stencil
