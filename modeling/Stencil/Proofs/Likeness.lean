import Stencil.Proofs.Manners

/-!
# What Is Found at a Likeness

Objects that stand for others in another store, and lookups on them.

A deep copy holds copies of what an object holds, so a lookup that ends at the
copy itself finds something else than one on the object. But it goes on along
the same prototypes, which are not copied, and there it finds the same. So what
is found under a name is what the object has, carried over, or the same thing.

Next to a copy there is another case: an object that is still there in a store
that has changed elsewhere. It stands for itself. `Likeness` covers both. It
says how all objects of a closed set are represented in another store, and that
lookups on whatever else there was have the same outcome there.

What is called while an object is looked at may tell the two apart, since it is
given the object. `Faithful` collects the objects for which nothing is called:
they have no method for JSON, and the name of their type is not computed.

## Main definitions

* `Store.NamesType`: Objects the name of whose type is not computed.
* `Store.Faithful`: Objects for which nothing is called.
* `Store.Direct`: Objects that derive from nothing but what is built in.
* `Object.StandsFor`: An object in the place of another one.
* `Store.Likeness`: Objects that stand for those of a closed set.
* `Store.SameMaker`: Constructors with the same name.

## Theorems

* `Store.Likeness.foundAlike`: What is found at an object in the place of another.
* `Store.Likeness.lacksJson`: It has a method for JSON only if the other has.
* `Store.typeName_same`: Types with the same constructor have the same name.
* `Store.Likeness.typeName_eq`: The name of its type.
-/

namespace Stencil

/-- Looking up what stands under a key and then changing it. -/
theorem Keyed.get?_map {α β : Type} (g : α → β) (entries : Keyed α) (key : Key) :
    Keyed.get? (entries.map fun e => (e.1, g e.2)) key = (entries.get? key).map g := by
  induction entries with
  | nil => rfl
  | cons e entries ih =>
      rw [get?, get?] at ih
      rw [get?, get?, List.map_cons, List.lookup_cons, List.lookup_cons, ih]
      split <;> rfl

/-- Names under which no object has more than its properties: no indices, and
    nothing that a kind of object has by itself or that is computed. -/
structure IsOutward (name : String) : Prop where
  uncomputed : IsUncomputed name
  noIndex : indexOf? name = none
  noLength : name ≠ "length"
  noPosition : name ≠ "lastIndex"

theorem isOutward_of_mem {name : String} (mem : name ∈ ["constructor", "name", "toJSON"]) :
    IsOutward name := by
  have uncomputed : IsUncomputed name := by
    constructor
    · revert mem name
      decide
    · intro f
      revert mem name
      cases f with
      | octets c => cases c <;> decide
      | template v => cases v <;> decide
      | cells c => cases c <;> decide
      | error kind => cases kind <;> decide
      | _ => decide
  refine ⟨uncomputed, ?_, ?_, ?_⟩
  all_goals
    clear uncomputed
    revert mem name
    decide

namespace Object

variable {o : Object} {name : String}

/-- Under such a name, an object has nothing but its properties. -/
theorem own?_outward (outward : IsOutward name) (noTemplate : ∀ t, o.body ≠ .template t) :
    o.own? (.text name) = o.fields.get? (.text name) ∧ o.ownNative? (.text name) = none := by
  have none : o.bodyProperty? name = none := by
    rw [bodyProperty?, Option.map_eq_none_iff, usualProperty?, outward.noIndex]
    simp only [outward.noLength, outward.noPosition, if_false]
    split
    · rfl
    · next t body => exact absurd body (noTemplate t)
    · rfl
  constructor
  · rw [own?]
    cases o.fields.get? (.text name) with
    | none => exact none
    | some p => rfl
  · unfold ownNative?
    split
    · next t _ body _ => exact absurd body (noTemplate t)
    · rfl

/-- An object stands in the place of another one: it has the same prototype, and
    holds other addresses. It may be locked, what is missing in an array may be
    there, and a pattern may start elsewhere. -/
structure StandsFor (f : Ref → Ref) (o o' : Object) : Prop where
  prototype_eq : o'.prototype = o.prototype
  fields_eq : o'.fields = o.fields.map fun e => (e.1, e.2.carry f)
  body_eq : o'.body.settled = o.body.settled.rename f

theorem StandsFor.noTemplate {f : Ref → Ref} {o' : Object} (stands : o.StandsFor f o')
    (none : ∀ t, o.body ≠ .template t) (t : Template) : o'.body ≠ .template t := by
  intro body
  have settled := stands.body_eq
  rw [body] at settled
  cases here : o.body with
  | template u => exact none u here
  | function p =>
      rw [here] at settled
      cases p <;> cases settled
  | _ =>
      rw [here] at settled
      cases settled

theorem StandsFor.isFunction {f : Ref → Ref} {o' : Object} (stands : o.StandsFor f o')
    (object : o.isFunction = false) : o'.isFunction = false := by
  rw [Object.isFunction] at object ⊢
  split
  · next p body =>
      have settled := stands.body_eq
      rw [body] at settled
      cases here : o.body with
      | function p =>
          rw [here] at object
          cases object
      | _ =>
          rw [here] at settled
          cases settled
  · rfl

end Object

namespace Store

/-- What an object has as its constructor, and as the name of that, is not
    computed. -/
def NamesType (st : Store) (r : Ref) : Prop :=
  ∀ p holder, st.find? r (.text "constructor") = some (.property p holder) →
    ∃ v, p.slot = .data v ∧ ∀ c ∈ v.refs, ∀ q holder,
      st.find? c (.text "name") = some (.property q holder) → ∃ w, q.slot = .data w

/-- Objects for which nothing is called when they are copied or written. -/
inductive Faithful (st : Store) (r : Ref) : Prop
  /-- A plain object that computes no properties, or an instance of a class. -/
  | record (body : (st.get r).body = .record) (descends : st.Descends r)
      (data : (st.get r).isPlain = true → ∀ e ∈ (st.get r).fields, ∃ v, e.2.slot = .data v)
      (lacks : st.LacksJson r) (names : st.NamesType r)
  /-- Elements may be missing. -/
  | array (elements : List (Option Value)) {integrity : Integrity}
      (there : st.get r = .bare (.array elements) integrity)
  | map (entries : List (Value × Value)) (distinct : Distinct (entries.map Prod.fst))
      {integrity : Integrity} (there : st.get r = .bare (.map entries) integrity)
  | set (elements : List Value) (distinct : Distinct elements) {integrity : Integrity}
      (there : st.get r = .bare (.set elements) integrity)
  | date (instant : Option Instant)
      (within : ∀ ms ∈ instant, -Instant.reach ≤ ms ∧ ms ≤ Instant.reach)
      {integrity : Integrity} (there : st.get r = .bare (.date instant) integrity)
  | pattern (p : Pattern) (lastIndex : Value) (normal : p.IsNormal) {integrity : Integrity}
      (there : st.get r = .bare (.pattern p lastIndex) integrity)
  | url (href : String) (normal : Link.IsNormal href) {integrity : Integrity}
      (there : st.get r = .bare (.url href) integrity)
  | boxed (v : Value) (simple : v.wrapper = .string ∨ v.wrapper = .number ∨ v.wrapper = .boolean)
      {integrity : Integrity} (there : st.get r = .bare (.boxed v) integrity)
  /-- A view of bytes that is no buffer. -/
  | octets (c : OctetClass) (w : Window UInt8) (other : c ≠ .buffer) {integrity : Integrity}
      (there : st.get r = .bare (.octets c w) integrity)
  | function (callable : (st.get r).isFunction = true) (lacks : st.LacksJson r)

/-- Objects for which nothing is called, at the addresses of a set that what they
    hold is in. -/
structure FaithfulOn (st : Store) (S : Set Ref) : Prop where
  faithful : ∀ r ∈ S, st.Faithful r
  inside : ∀ r ∈ S, r.index < st.objects.size
  closed : ∀ r ∈ S, (st.get r).isFunction = false → ∀ q ∈ (st.get r).held, q ∈ S

/-- The objects of a closed set have others in their places in another store, and
    whatever else there was is found there as well. -/
structure Likeness (f : Ref → Ref) (S : Set Ref) (st st' : Store) : Prop where
  on : st.FaithfulOn S
  closed : st.Closed
  lookups : st.SameLookups st'
  injective : Set.InjOn f S
  functions : ∀ r ∈ S, (st.get r).isFunction = true → f r = r
  objects : ∀ r ∈ S, (st.get r).isFunction = false → (st.get r).StandsFor f (st'.get (f r))
  inside : ∀ r ∈ S, (f r).index < st'.objects.size

/-- What is found at an object and what at the one in its place: something that the
    object itself has, or the same. -/
inductive FoundAlike (f : Ref → Ref) (S : Set Ref) (st : Store) :
    Option Found → Option Found → Prop
  | nothing : FoundAlike f S st none none
  | own (p : Property) (holder holder' : Ref) (held : ∀ v, p.slot = .data v → ∀ q ∈ v.refs, q ∈ S) :
      FoundAlike f S st (some (.property p holder)) (some (.property (p.carry f) holder'))
  | shared (p : Property) (holder : Ref) (held : ∀ q ∈ p.slot.refs, q.index < st.objects.size) :
      FoundAlike f S st (some (.property p holder)) (some (.property p holder))
  | native (n : Native) (holder : Prototype) :
      FoundAlike f S st (some (.native n holder)) (some (.native n holder))

variable {interp : Interpretation} {st st' : Store} {r : Ref} {f : Ref → Ref} {S : Set Ref}

/-! ### Kinds -/

/-- The native members that a bare object has as its constructor compute nothing. -/
theorem namesType_bare {b : Body} {integrity : Integrity} (there : st.get r = .bare b integrity)
    (noTemplate : ∀ t, (st.get r).body ≠ .template t) : st.NamesType r := by
  intro p holder found
  have outward : IsOutward "constructor" := isOutward_of_mem (by decide)
  rcases Object.own?_outward outward noTemplate with ⟨own, state⟩
  rw [find?, findWithin, own, state, there] at found
  change b.family.find? _ = _ at found
  rw [Family.find?] at found
  rcases Option.map_eq_some_iff.mp found with ⟨_, _, same⟩
  cases same

namespace Faithful

theorem noTemplate (faithful : st.Faithful r) (t : Template) : (st.get r).body ≠ .template t := by
  cases faithful with
  | record body _ _ _ _ => rw [body]; exact nofun
  | function callable _ =>
      intro body
      rw [Object.isFunction, body] at callable
      cases callable
  | _ => simp only [*, Object.body_bare, ne_eq, reduceCtorEq, not_false_eq_true]

theorem namesType (faithful : st.Faithful r) (object : (st.get r).isFunction = false) :
    st.NamesType r := by
  have bare : ∀ {b : Body} {integrity : Integrity}, st.get r = .bare b integrity →
      st.NamesType r := fun there => namesType_bare there faithful.noTemplate
  cases faithful with
  | record _ _ _ _ names => exact names
  | function callable _ =>
      rw [object] at callable
      cases callable
  | array elements there => exact bare there
  | map entries _ there => exact bare there
  | set elements _ there => exact bare there
  | date instant _ there => exact bare there
  | pattern p lastIndex _ there => exact bare there
  | url href _ there => exact bare there
  | boxed v _ there => exact bare there
  | octets c w _ there => exact bare there

end Faithful

/-! ### Lookups -/

variable {name : String}

/-- Objects whose properties are values and that derive from nothing but what is built
    in. -/
structure Direct (st : Store) (r : Ref) : Prop where
  noTemplate : ∀ t, (st.get r).body ≠ .template t
  data : ∀ e ∈ (st.get r).fields, ∃ v, e.2.slot = .data v
  prototype : (st.get r).prototype = .none ∨ ∃ g, (st.get r).prototype = .family g

namespace Direct

theorem of_bare {b : Body} {integrity : Integrity} (there : st.get r = .bare b integrity)
    (noTemplate : ∀ t, b ≠ .template t) : st.Direct r where
  noTemplate := by rwa [there]
  data := by rw [there]; exact nofun
  prototype := .inr ⟨b.family, by rw [there]; rfl⟩

/-- What is found is a property, or what is built in. -/
theorem find?_eq (direct : st.Direct r) (outward : IsOutward name) :
    st.find? r (.text name) = match (st.get r).fields.get? (.text name) with
      | some p => some (.property p r)
      | none => match (st.get r).prototype with
        | .family g => g.find? (.text name)
        | _ => none := by
  rcases Object.own?_outward outward direct.noTemplate with ⟨own, state⟩
  rw [find?, findWithin, own, state]
  rcases direct.prototype with none | ⟨g, family⟩
  · rw [none]
    cases (st.get r).fields.get? (.text name) <;> rfl
  · rw [family]
    cases (st.get r).fields.get? (.text name) <;> rfl

/-- A property that is found is a value that the object holds. -/
theorem found (direct : st.Direct r) (outward : IsOutward name) {p : Property} {holder : Ref}
    (found : st.find? r (.text name) = some (.property p holder)) :
    ∃ v, p.slot = .data v ∧ ∀ q ∈ v.refs, q ∈ (st.get r).held := by
  rw [direct.find?_eq outward] at found
  split at found
  · next p' field =>
      cases found
      have mem := mem_of_lookup field
      rcases direct.data _ mem with ⟨v, slot⟩
      refine ⟨v, slot, fun q hq => ?_⟩
      have part : v ∈ p.parts := by
        rcases p with ⟨_⟩
        cases slot
        exact List.mem_cons_self
      refine List.mem_flatMap.mpr ⟨v, List.mem_append_left _ ?_, hq⟩
      exact List.mem_flatMap.mpr ⟨_, mem, part⟩
  · split at found
    · rcases Option.map_eq_some_iff.mp found with ⟨_, _, same⟩
      cases same
    · cases found

/-- A plain object that holds no functions has no method for JSON. -/
theorem lacksJson (direct : st.Direct r) (plain : (st.get r).isPlain = true)
    (objects : ∀ q ∈ (st.get r).held, (st.get q).isFunction = false) : st.LacksJson r := by
  have outward : IsOutward "toJSON" := isOutward_of_mem (by decide)
  intro found mem
  cases found with
  | property p holder =>
      rcases direct.found outward mem with ⟨v, slot, held⟩
      refine ⟨p, holder, v, rfl, slot, ?_⟩
      cases v with
      | object q =>
          rw [functionRef?, objects q (held q List.mem_cons_self)]
          rfl
      | _ => rfl
  | native n holder =>
      -- Nothing built in is found, since a plain object derives from no other kind.
      have native := (direct.find?_eq outward).symm.trans mem
      split at native
      · cases native
      · rcases Object.isPlain_iff.mp plain with root | none
        · simp only [root] at native
          cases native
        · simp only [none] at native
          cases native

/-- The name of a type is not computed if what an object holds computes nothing either. -/
theorem namesType (direct : st.Direct r) (objects : ∀ q ∈ (st.get r).held, st.Direct q) :
    st.NamesType r := by
  intro p holder found
  rcases direct.found (isOutward_of_mem (by decide)) found with ⟨v, slot, held⟩
  refine ⟨v, slot, fun c hc q holder found => ?_⟩
  rcases (objects c (held c hc)).found (isOutward_of_mem (by decide)) found with ⟨w, slot, -⟩
  exact ⟨w, slot⟩

end Direct

namespace Likeness

theorem foundAlike_refl (h : Likeness f S st st')
    (inside : r.index < st.objects.size) :
    FoundAlike f S st (st.find? r (.text name)) (st.find? r (.text name)) := by
  cases found : st.find? r (.text name) with
  | none => exact .nothing
  | some at_ =>
      cases at_ with
      | property p holder => exact .shared p holder (h.closed.found inside found)
      | native n holder => exact .native n holder

/-- What is found at an object, and at the one in its place. -/
theorem foundAlike (h : Likeness f S st st') (hr : r ∈ S) (outward : IsOutward name) :
    FoundAlike f S st (st.find? r (.text name)) (st'.find? (f r) (.text name)) := by
  have inside := h.on.inside r hr
  by_cases function : (st.get r).isFunction = true
  · rw [h.functions r hr function, h.lookups.find?_eq h.closed inside]
    exact h.foundAlike_refl inside
  · have object := Bool.eq_false_iff.mpr function
    have stands := h.objects r hr object
    have noTemplate := (h.on.faithful r hr).noTemplate
    rcases Object.own?_outward outward noTemplate with ⟨own, state⟩
    rcases Object.own?_outward outward (stands.noTemplate noTemplate) with ⟨own', state'⟩
    rw [stands.fields_eq, Keyed.get?_map] at own'
    rw [find?, findWithin, own, state, find?, findWithin, own', state']
    cases field : (st.get r).fields.get? (.text name) with
    | some p =>
        refine .own p r (f r) fun v data q hq => ?_
        have part : v ∈ p.parts := by
          rcases p with ⟨slot⟩
          cases data
          exact List.mem_cons_self
        refine h.on.closed r hr object q (List.mem_flatMap.mpr ⟨v, ?_, hq⟩)
        exact List.mem_append_left _ (List.mem_flatMap.mpr ⟨_, mem_of_lookup field, part⟩)
    | none =>
        simp only [Option.map_none, stands.prototype_eq]
        cases next : (st.get r).prototype with
        | none => exact .nothing
        | family g =>
            change FoundAlike f S st (g.find? _) (g.find? _)
            cases found : g.find? (.text name) with
            | none => exact .nothing
            | some at_ =>
                rcases Option.map_eq_some_iff.mp found with ⟨_, _, rfl⟩
                exact .native _ _
        | object q =>
            -- From here on the lookup is the same.
            have there := h.closed.prototype inside next
            have follows := st.followsPrototypes_findWithin (.text name)
            have rest : st.findWithin (.text name) st.objects.size q = st.find? q (.text name) := by
              rw [find?, follows.of_size_le h.closed there (Nat.le_succ _)]
            have rest' : st'.findWithin (.text name) st'.objects.size q
                = st.find? q (.text name) := by
              rw [h.lookups.findWithin_eq h.closed there,
                follows.of_size_le h.closed there h.lookups.size_le, rest]
            simp only [rest, rest']
            exact h.foundAlike_refl there

theorem isFunction_eq (h : Likeness f S st st') (hr : r ∈ S) :
    (st'.get (f r)).isFunction = (st.get r).isFunction := by
  by_cases function : (st.get r).isFunction = true
  · rw [h.functions r hr function, h.lookups.isFunction_eq r (h.on.inside r hr)]
  · have object := Bool.eq_false_iff.mpr function
    rw [object, (h.objects r hr object).isFunction object]

/-- In the place of an object that is no template there is none. -/
theorem noTemplate (h : Likeness f S st st') (hr : r ∈ S) (t : Template) :
    (st'.get (f r)).body ≠ .template t := by
  by_cases function : (st.get r).isFunction = true
  · intro body
    rw [← h.isFunction_eq hr, Object.isFunction, body] at function
    cases function
  · exact (h.objects r hr (Bool.eq_false_iff.mpr function)).noTemplate
      (h.on.faithful r hr).noTemplate t

variable {v w : Value}

theorem noTemplate_rename (h : Likeness f S st st') (covered : ∀ q ∈ v.refs, q ∈ S) :
    ∀ q ∈ (v.rename f).refs, ∀ t, (st'.get q).body ≠ .template t := by
  intro q hq
  rw [Value.refs_rename] at hq
  rcases List.mem_map.mp hq with ⟨p, hp, rfl⟩
  exact h.noTemplate (covered p hp)

theorem functionRef?_rename (h : Likeness f S st st') (covered : ∀ q ∈ v.refs, q ∈ S)
    (none : st.functionRef? v = none) : st'.functionRef? (v.rename f) = Option.none := by
  cases v with
  | object c =>
      rw [functionRef?] at none
      rw [Value.rename, functionRef?, h.isFunction_eq (covered c List.mem_cons_self)]
      split at none
      · cases none
      · next object => rw [if_neg object]
  | _ => rfl

theorem functionRef?_eq_none (h : Likeness f S st st') (inside : st.Holds v)
    (none : st.functionRef? v = none) : st'.functionRef? v = Option.none := by
  cases v with
  | object c =>
      rw [functionRef?] at none ⊢
      rwa [h.lookups.isFunction_eq c (inside c List.mem_cons_self)]
  | _ => rfl

/-- An object in the place of one without a method for JSON has none. -/
theorem lacksJson (h : Likeness f S st st') (hr : r ∈ S) (lacks : st.LacksJson r) :
    st'.LacksJson (f r) := by
  intro found' mem'
  have outward : IsOutward "toJSON" := isOutward_of_mem (by decide)
  have alike := h.foundAlike hr outward
  rw [mem'] at alike
  generalize here : st.find? r (.text "toJSON") = found at alike
  cases alike with
  | own p holder holder' held =>
      rcases lacks _ here with ⟨_, _, v, same, slot, simple⟩
      cases same
      refine ⟨p.carry f, holder', v.rename f, rfl, ?_, h.functionRef?_rename (held v slot) simple⟩
      rw [Property.carry, slot, Slot.carry]
  | shared p holder held =>
      rcases lacks _ here with ⟨_, _, v, same, slot, simple⟩
      cases same
      refine ⟨p, holder, v, rfl, slot, h.functionRef?_eq_none (fun q hq => held q ?_) simple⟩
      rw [slot]
      exact hq
  | native n holder =>
      rcases lacks _ here with ⟨_, _, _, same, -⟩
      cases same

end Likeness

/-! ### Names of types -/

/-- Lookups in two stores that find the same: nothing, values in a relation, or the
    same native member. -/
inductive SameFound (R : Value → Value → Prop) : Option Found → Option Found → Prop
  | nothing : SameFound R none none
  | data {p q : Property} (holder holder' : Ref) (slot : p.slot = .data v)
      (slot' : q.slot = .data w) (related : R v w) :
      SameFound R (some (.property p holder)) (some (.property q holder'))
  | native (n : Native) (holder holder' : Prototype) :
      SameFound R (some (.native n holder)) (some (.native n holder'))

/-- Constructors in two stores that have the same name, or both none. -/
inductive SameMaker (st st' : Store) : Value → Value → Prop
  | simple (v : Value) (simple : v.refs = []) : SameMaker st st' v v
  | object (c d : Ref)
      (found : SameFound (fun x y => nameOrObject (some y) = nameOrObject (some x))
        (st.find? c (.text "name")) (st'.find? d (.text "name"))) :
      SameMaker st st' (.object c) (.object d)

theorem SameMaker.member_name (same : SameMaker st st' v w) (there : v ≠ .undefined ∧ v ≠ .null) :
    ∃ x y, st.member interp v "name" = .ok (st, x) ∧ st'.member interp w "name" = .ok (st', y)
      ∧ nameOrObject (some y) = nameOrObject (some x) := by
  cases same with
  | simple _ simple =>
      cases v with
      | undefined => exact absurd rfl there.1
      | null => exact absurd rfl there.2
      | object c => cases simple
      | _ => exact ⟨_, _, rfl, rfl, rfl⟩
  | object c d found =>
      have outward : IsOutward "name" := isOutward_of_mem (by decide)
      change ∃ x y, st.read interp c (.text "name") = .ok (st, x)
        ∧ st'.read interp d (.text "name") = .ok (st', y) ∧ _
      rw [read, readWithin, read, readWithin]
      generalize here : st.find? c (.text "name") = a at found
      generalize st'.find? d (.text "name") = b at found
      cases found with
      | nothing => exact ⟨_, _, rfl, rfl, rfl⟩
      | data holder holder' slot slot' related =>
          refine ⟨_, _, ?_, ?_, related⟩
          · simp only [slot, readSlot]
          · simp only [slot', readSlot]
      | native n holder holder' =>
          cases n with
          | part p => exact absurd here (findWithin_uncomputed outward.uncomputed _ c p holder)
          | _ => exact ⟨_, _, rfl, rfl, rfl⟩

/-- The name of a constructor that is found as a value. -/
theorem makerNameValue?_data {p : Property} {holder : Ref}
    (found : st.find? r (.text "constructor") = some (.property p holder))
    (slot : p.slot = .data v) :
    st.makerNameValue? interp r
      = if v ≠ .undefined ∧ v ≠ .null then
          (st.member interp v "name").map fun e => (e.1, some e.2)
        else .ok (st, none) := by
  rw [makerNameValue?, found]
  simp only [slot, readSlot, bind, Except.bind]
  by_cases there : v ≠ .undefined ∧ v ≠ .null
  · rw [if_pos there, if_neg (by simpa using there)]
    cases st.member interp v "name" <;> rfl
  · rw [if_neg there, if_pos (by simpa [or_iff_not_and_not] using there)]
    rfl

/-- Objects with the same constructor have the same name for it, or both have none. -/
theorem makerNameValue?_eq {q : Ref} (same : SameFound (SameMaker st st')
      (st.find? r (.text "constructor")) (st'.find? q (.text "constructor"))) :
    ∃ x y, st.makerNameValue? interp r = .ok (st, x)
      ∧ st'.makerNameValue? interp q = .ok (st', y) ∧ nameOrObject y = nameOrObject x := by
  generalize here : st.find? r (.text "constructor") = a at same
  generalize elsewhere : st'.find? q (.text "constructor") = b at same
  cases same with
  | nothing =>
      rw [makerNameValue?, here, makerNameValue?, elsewhere]
      exact ⟨none, none, rfl, rfl, rfl⟩
  | @data v w _ _ holder holder' slot slot' related =>
      rw [makerNameValue?_data here slot, makerNameValue?_data elsewhere slot']
      have both : w ≠ .undefined ∧ w ≠ .null ↔ v ≠ .undefined ∧ v ≠ .null := by
        cases related with
        | simple _ _ => rfl
        | object c d _ => exact iff_of_true ⟨nofun, nofun⟩ ⟨nofun, nofun⟩
      by_cases there : v ≠ .undefined ∧ v ≠ .null
      · have named : ∃ x y, st.member interp v "name" = .ok (st, x)
            ∧ st'.member interp w "name" = .ok (st', y)
            ∧ nameOrObject (some y) = nameOrObject (some x) := related.member_name there
        rcases named with ⟨x, y, read, read', name⟩
        rw [if_pos there, if_pos (both.mpr there), read, read']
        exact ⟨some x, some y, rfl, rfl, name⟩
      · rw [if_neg there, if_neg (both.not.mpr there)]
        exact ⟨none, none, rfl, rfl, rfl⟩
  | native n holder holder' =>
      rw [makerNameValue?, here, makerNameValue?, elsewhere]
      cases n <;> exact ⟨_, _, rfl, rfl, rfl⟩

/-- The types of objects with the same constructor have the same name. -/
theorem typeName_same {q : Ref} (function : (st'.get q).isFunction = (st.get r).isFunction)
    (root : (st'.get q).prototype = .none ↔ (st.get r).prototype = .none)
    (same : (st.get r).isFunction = false → SameFound (SameMaker st st')
      (st.find? r (.text "constructor")) (st'.find? q (.text "constructor"))) :
    ∃ name, st.typeName interp (.object r) = .ok name
      ∧ st'.typeName interp (.object q) = .ok name := by
  rw [typeName, typeName]
  simp only [function, root]
  by_cases callable : (st.get r).isFunction = true
  · exact ⟨"Function", if_pos callable, if_pos callable⟩
  · rw [if_neg callable, if_neg callable]
    by_cases none : (st.get r).prototype = .none
    · exact ⟨"Object", if_pos none, if_pos none⟩
    · have maker : ∃ x y, st.makerNameValue? interp r = .ok (st, x)
          ∧ st'.makerNameValue? interp q = .ok (st', y)
          ∧ nameOrObject y = nameOrObject x :=
        makerNameValue?_eq (same (Bool.eq_false_iff.mpr callable))
      rcases maker with ⟨x, y, here, elsewhere, name⟩
      rw [if_neg none, if_neg none, constructorName, here, constructorName, elsewhere]
      exact ⟨nameOrObject x, rfl, congrArg Except.ok name⟩

namespace Likeness

/-- A constructor has the same name as what stands for it, or both have none. -/
theorem sameMaker (h : Likeness f S st st')
    (alike : (w = v.rename f ∧ ∀ q ∈ v.refs, q ∈ S) ∨ (w = v ∧ st.Holds v))
    (data : ∀ c ∈ v.refs, ∀ q holder,
      st.find? c (.text "name") = some (.property q holder) → ∃ w, q.slot = .data w) :
    SameMaker st st' v w := by
  cases v with
  | object c =>
      have outward : IsOutward "name" := isOutward_of_mem (by decide)
      -- In its place there is what looks the same, or the constructor itself.
      have found : ∃ d, w = .object d
          ∧ FoundAlike f S st (st.find? c (.text "name")) (st'.find? d (.text "name")) := by
        rcases alike with ⟨rfl, covered⟩ | ⟨rfl, inside⟩
        · exact ⟨f c, rfl, h.foundAlike (covered c List.mem_cons_self) outward⟩
        · refine ⟨c, rfl, ?_⟩
          rw [h.lookups.find?_eq h.closed (inside c List.mem_cons_self)]
          exact h.foundAlike_refl (inside c List.mem_cons_self)
      rcases found with ⟨d, rfl, found⟩
      refine .object c d ?_
      generalize here : st.find? c (.text "name") = a at found ⊢
      generalize st'.find? d (.text "name") = b at found ⊢
      cases found with
      | nothing => exact .nothing
      | own p holder holder' _ =>
          rcases data c List.mem_cons_self p holder here with ⟨u, slot⟩
          have slot' : (p.carry f).slot = .data (u.rename f) := by
            rw [Property.carry, slot, Slot.carry]
          exact .data holder holder' slot slot' (by cases u <;> rfl)
      | shared p holder _ =>
          rcases data c List.mem_cons_self p holder here with ⟨u, slot⟩
          exact .data holder holder slot slot rfl
      | native n holder => exact .native n holder holder
  | _ => rcases alike with ⟨rfl, -⟩ | ⟨rfl, -⟩ <;> exact .simple _ rfl

/-- An object and the one in its place have the same constructor. -/
theorem sameFound_constructor (h : Likeness f S st st') (hr : r ∈ S)
    (object : (st.get r).isFunction = false) :
    SameFound (SameMaker st st') (st.find? r (.text "constructor"))
      (st'.find? (f r) (.text "constructor")) := by
  have names := (h.on.faithful r hr).namesType object
  have outward : IsOutward "constructor" := isOutward_of_mem (by decide)
  have alike := h.foundAlike hr outward
  generalize here : st.find? r (.text "constructor") = a at alike ⊢
  generalize st'.find? (f r) (.text "constructor") = b at alike ⊢
  cases alike with
  | nothing => exact .nothing
  | own p holder holder' held =>
      rcases names p holder here with ⟨v, slot, data⟩
      have slot' : (p.carry f).slot = .data (v.rename f) := by
        rw [Property.carry, slot, Slot.carry]
      exact .data holder holder' slot slot' (h.sameMaker (.inl ⟨rfl, held v slot⟩) data)
  | shared p holder held =>
      rcases names p holder here with ⟨v, slot, data⟩
      exact .data holder holder slot slot
        (h.sameMaker (.inr ⟨rfl, fun q hq => held q (by rw [slot]; exact hq)⟩) data)
  | native n holder => exact .native n holder holder

/-- The type of a value has the same name as that of the value in its place. -/
theorem typeName_eq (h : Likeness f S st st') (covered : ∀ q ∈ v.refs, q ∈ S) :
    ∃ name, st.typeName interp v = .ok name ∧ st'.typeName interp (v.rename f) = .ok name := by
  cases v with
  | object r =>
      have hr := covered r List.mem_cons_self
      refine typeName_same (h.isFunction_eq hr) ?_ (h.sameFound_constructor hr)
      by_cases function : (st.get r).isFunction = true
      · rw [h.functions r hr function, h.lookups.prototype_eq r (h.on.inside r hr)]
      · rw [(h.objects r hr (Bool.eq_false_iff.mpr function)).prototype_eq]
  | _ => exact ⟨_, rfl, rfl⟩

end Likeness

end Store

end Stencil
