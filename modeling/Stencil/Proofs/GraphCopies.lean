import Stencil.Proofs.Clones
import Stencil.Proofs.Entries

/-!
# Copies of Graphs

A deep copy is an isomorphic image of what it was made from.

What can be reached from a value may be shared and may contain itself, so what
is shown of one step of copying cannot be that its result is finished.
`Copying.Sound` is what holds at all times: the copies known so far are new
objects, one for each object copied, and nothing else is new. `Copying.Goes`
relates two times: between them, everything that became known was filled as
well. An object that is still being copied is known from the start, and whoever
asked for it fills it.

A copy holds the copies of what the object holds, and functions stand for
themselves; its prototype and the functions that compute properties are those of
the object. So what is put under other addresses is not all that an object
refers to, and `Object.carry` is not a renaming. For some kinds a copy starts from
less than the object, and then it is that which is carried over.

Each nested call knows one more object, all of them from the store at the
start. So the bound on the depth, which is greater than that store, is never
used up.

## Main definitions

* `Object.held`: The addresses that an object holds.
* `Object.carry`: An object that holds other addresses.
* `Body.Fillable`: Bodies that are filled with what they hold.
* `Store.StartsOn`: Objects at the addresses of a closed set, with what their copies
  start from.
* `Store.ClonesOn`, `Store.GraphOn`: Objects that can be copied, at the addresses of
  a closed set.
* `Copying.target`: Where the copy of an object is.
* `Copying.Sound`: What holds of the copies at all times.
* `Copying.Filled`, `Copying.Formed`: The copy of an object when it is finished.
* `Copying.Goes`: What happened between two times.

## Theorems

* `Object.withParts_carry`: Filling with other addresses.
* `Copying.value_eq`: Copying a value.
* `Store.copy_starts`, `Store.copy_clones`, `Store.copy_graph`: A deep copy of the
  objects of a closed set.
-/

namespace Stencil

/-! ### Filling -/

/-- A map that is filled with entries whose keys are kept apart has these
    entries. -/
theorem entriesOf_eq {entries : List (Value × Value)} (distinct : Distinct (entries.map Prod.fst)) :
    entriesOf entries = entries := by
  -- A key that is not there yet is put at the end.
  have appended : ∀ (known : List (Value × Value)) (key v : Value), key.asKey = key →
      key ∉ known.map Prod.fst → setEntry key v known = known ++ [(key, v)] := by
    intro known key v normal
    induction known with
    | nil =>
        intro _
        rw [setEntry, normal, List.nil_append]
    | cons e known ih =>
        intro absent
        rw [List.map_cons, List.mem_cons, not_or] at absent
        rw [setEntry, normal, if_neg fun same => absent.1 same.symm, ih absent.2, List.cons_append]
  -- For the induction, some entries are there already, and are kept apart from the
  -- others.
  have filled : ∀ (entries known : List (Value × Value)),
      Distinct ((known ++ entries).map Prod.fst) →
      entries.foldl (fun entries e => setEntry e.1 e.2 entries) known = known ++ entries := by
    intro entries
    induction entries with
    | nil =>
        intro known _
        rw [List.foldl_nil, List.append_nil]
    | cons e entries ih =>
        intro known distinct
        have normal : e.1.asKey = e.1 :=
          distinct.normal e.1 (List.mem_map_of_mem (List.mem_append_right _ List.mem_cons_self))
        have absent : e.1 ∉ known.map Prod.fst := by
          have nodup := distinct.nodup
          rw [List.map_append, List.map_cons] at nodup
          exact fun mem => (List.nodup_append.mp nodup).2.2 e.1 mem e.1 List.mem_cons_self rfl
        have regrouped : known ++ e :: entries = (known ++ [(e.1, e.2)]) ++ entries := by
          rw [List.append_assoc, List.singleton_append]
        rw [List.foldl_cons, appended known e.1 e.2 normal absent, ih _ (regrouped ▸ distinct),
          regrouped]
  exact filled entries [] distinct

/-- A set that is filled with elements that are kept apart has these elements. -/
theorem elementsOf_eq {elements : List Value} (distinct : Distinct elements) :
    elementsOf elements = elements := by
  have filled : ∀ (elements known : List Value), Distinct (known ++ elements) →
      elements.foldl (fun elements v => addElement v elements) known = known ++ elements := by
    intro elements
    induction elements with
    | nil =>
        intro known _
        rw [List.foldl_nil, List.append_nil]
    | cons v elements ih =>
        intro known distinct
        have normal : v.asKey = v :=
          distinct.normal v (List.mem_append_right _ List.mem_cons_self)
        have absent : v ∉ known := fun mem =>
          (List.nodup_append.mp distinct.nodup).2.2 v mem v List.mem_cons_self rfl
        have added : addElement v known = known ++ [v] := by
          rw [addElement, normal, if_neg]
          rw [List.contains_iff_mem]
          exact absent
        have regrouped : known ++ v :: elements = (known ++ [v]) ++ elements := by
          rw [List.append_assoc, List.singleton_append]
        rw [List.foldl_cons, added, ih _ (regrouped ▸ distinct), regrouped]
  exact filled elements [] distinct

theorem pairUp_flatMap (entries : List (Value × Value)) :
    pairUp (entries.flatMap fun (k, v) => [k, v]) = entries := by
  induction entries with
  | nil => rfl
  | cons e entries ih =>
      rw [List.flatMap_cons]
      change e :: pairUp (entries.flatMap fun (k, v) => [k, v]) = _
      rw [ih]

/-- Bodies that refer to nothing but what they hold, and that can be filled with
    it. -/
inductive Body.Fillable : Body → Prop
  | record : Fillable .record
  | array (elements : List Value) : Fillable (.array (elements.map some))
  | map (entries : List (Value × Value)) (distinct : Distinct (entries.map Prod.fst)) :
      Fillable (.map entries)
  | set (elements : List Value) (distinct : Distinct elements) : Fillable (.set elements)
  | date (instant : Option Instant) : Fillable (.date instant)
  | pattern (p : Pattern) (n : Number) : Fillable (.pattern p (.number n))
  | url (href : String) : Fillable (.url href)
  | boxed (v : Value) (simple : v.refs = []) : Fillable (.boxed v)
  | octets (c : OctetClass) (w : Window UInt8) : Fillable (.octets c w)

/-- What a copy starts from can be filled. -/
theorem Store.Clonable.fillable {st : Store} {r : Ref} (clonable : st.Clonable r) :
    (st.get r).settled.body.Fillable := by
  cases clonable with
  | record body _ =>
      simp only [Object.settled, body, Object.unlocked, Body.settled]
      exact .record
  | array elements there =>
      rw [there]
      change (Body.array (elements.map (some ∘ _))).Fillable
      rw [← List.map_map]
      exact .array _
  | map entries distinct there => exact there ▸ .map entries distinct
  | set elements distinct there => exact there ▸ .set elements distinct
  | date instant _ there => exact there ▸ .date instant
  | pattern p lastIndex _ there => exact there ▸ .pattern p _
  | url href _ there => exact there ▸ .url href
  | boxed v simple there =>
      refine there ▸ .boxed v ?_
      cases v with
      | object q => rcases simple with h | h | h <;> cases h
      | _ => rfl
  | octets c w there =>
      rw [there]
      cases c <;> exact .octets _ w

/-- What a copy starts from holds what the object holds. -/
theorem Store.Clonable.parts_settled {st : Store} {r : Ref} (clonable : st.Clonable r) :
    (st.get r).settled.parts = (st.get r).parts := by
  cases clonable with
  | record body ordinary =>
      have copyable : st.Copyable r := .record body ordinary
      rw [copyable.settled_eq]
      rfl
  | array elements there =>
      rw [there]
      change (elements.map (fun element => some (element.getD .undefined))).map _ = elements.map _
      rw [List.map_map]
      rfl
  | octets c w there =>
      rw [there]
      cases c <;> rfl
  | _ => simp only [Object.settled, *, Object.body_bare]; rfl

/-- A slot that holds another address. -/
def Slot.carry (f : Ref → Ref) : Slot → Slot
  | data v => data (v.rename f)
  | accessor getter setter => accessor getter setter

/-- A property that holds another address. -/
def Property.carry (f : Ref → Ref) (p : Property) : Property :=
  { p with slot := p.slot.carry f }

namespace Object

/-- An object that holds other addresses, with the same prototype, the same keys and
    attributes, and the same functions for computed properties. It is open to
    changes. -/
def carry (f : Ref → Ref) (o : Object) : Object :=
  { o with
    fields := o.fields.map fun e => (e.1, e.2.carry f)
    integrity := {}
    body := o.body.rename f }

/-- The addresses that an object holds. -/
def held (o : Object) : List Ref :=
  o.parts.flatMap Value.refs

end Object

section

variable {f g : Ref → Ref}

theorem Property.parts_carry (p : Property) :
    (p.carry f).parts = p.parts.map (Value.rename f) := by
  rcases p with ⟨_, _ | _⟩ <;> rfl

theorem Property.withParts_carry (p : Property) (rest : List Value) :
    p.withParts (p.parts.map (Value.rename f) ++ rest) = (p.carry f, rest) := by
  rcases p with ⟨_, _ | _⟩ <;> rfl

theorem Property.carry_congr {p : Property} (same : ∀ q ∈ p.parts.flatMap Value.refs, f q = g q) :
    p.carry f = p.carry g := by
  rcases p with ⟨_, v | _⟩
  · have values : v.rename f = v.rename g := Value.rename_congr fun q hq =>
      same q (List.mem_append_left _ hq)
    rw [carry, carry, Slot.carry, Slot.carry, values]
  · rfl

/-- Properties that are filled with what they hold, under other addresses. -/
theorem Keyed.withParts_carry (fields : Keyed Property) (rest : List Value) :
    Keyed.withParts fields (fields.parts.map (Value.rename f) ++ rest)
      = (fields.map fun e => (e.1, e.2.carry f), rest) := by
  induction fields with
  | nil => rfl
  | cons e fields ih =>
      rcases e with ⟨key, p⟩
      have parts : Keyed.parts ((key, p) :: fields) = p.parts ++ Keyed.parts fields := rfl
      rw [parts, List.map_append, List.append_assoc, Keyed.withParts, Property.withParts_carry]
      simp only [ih, List.map_cons]

theorem Keyed.parts_carry (fields : Keyed Property) :
    Keyed.parts (fields.map fun e => (e.1, e.2.carry f))
      = (Keyed.parts fields).map (Value.rename f) := by
  rw [Keyed.parts, Keyed.parts, List.flatMap_map, List.map_flatMap]
  exact List.flatMap_congr fun e _ => e.2.parts_carry

namespace Body

theorem parts_rename (b : Body) : (b.rename f).parts = b.parts.map (Value.rename f) := by
  cases b with
  | array elements =>
      rw [rename, parts, parts, List.map_map, List.map_map]
      refine List.map_congr_left fun element _ => ?_
      cases element <;> rfl
  | map entries =>
      rw [rename, parts, parts, List.flatMap_map, List.map_flatMap]
      rfl
  | function p => cases p <;> rfl
  | template t =>
      change Value.object (f t.journal.root) :: (t.defaults.map _).map Prod.snd = _
      rw [List.map_map]
      change _ = Value.object (f t.journal.root) :: (t.defaults.map Prod.snd).map _
      rw [List.map_map]
      rfl
  | _ => rfl

variable {b : Body}

theorem Fillable.refs_eq (fillable : b.Fillable) : b.refs = b.parts.flatMap Value.refs := by
  cases fillable with
  | array elements =>
      rw [refs, parts, List.flatMap_map, List.map_map, List.flatMap_map]
      rfl
  | map entries _ =>
      rw [refs, parts, List.flatMap_assoc]
      refine List.flatMap_congr fun e _ => ?_
      exact congrArg (e.1.refs ++ ·) (List.append_nil e.2.refs).symm
  | boxed v simple => exact simple
  | _ => rfl

/-- Filling a body with what it holds, under other addresses, is renaming it. -/
theorem Fillable.withParts_rename (fillable : b.Fillable)
    (injective : Set.InjOn f {q | q ∈ b.refs}) :
    b.withParts (b.parts.map (Value.rename f)) = b.rename f := by
  cases fillable with
  | array elements =>
      rw [parts, withParts, rename, List.map_map, List.map_map, List.map_map, List.map_map]
      rfl
  | map entries distinct =>
      have keys : (entries.map fun e => (e.1.rename f, e.2.rename f)).map Prod.fst
          = (entries.map Prod.fst).map (Value.rename f) := by
        rw [List.map_map, List.map_map]
        rfl
      -- Keys that are kept apart remain so, since no two addresses become the same.
      have distinct' : Distinct
          ((entries.map fun e => (e.1.rename f, e.2.rename f)).map Prod.fst) := by
        rw [keys]
        refine distinct.rename (injective.mono ?_)
        rintro q ⟨v, hv, hq⟩
        rcases List.mem_map.mp hv with ⟨e, he, rfl⟩
        exact List.mem_flatMap.mpr ⟨e, he, List.mem_append_left _ hq⟩
      have paired : (entries.flatMap fun (k, v) => [k, v]).map (Value.rename f)
          = (entries.map fun e => (e.1.rename f, e.2.rename f)).flatMap fun (k, v) => [k, v] := by
        rw [List.map_flatMap, List.flatMap_map]
        rfl
      rw [parts, withParts, rename, paired, pairUp_flatMap, entriesOf_eq distinct']
  | set elements distinct =>
      rw [parts, withParts, rename, elementsOf_eq]
      refine distinct.rename (injective.mono ?_)
      rintro q ⟨v, hv, hq⟩
      exact List.mem_flatMap.mpr ⟨v, hv, hq⟩
  | boxed v simple =>
      have same : v.rename f = v := by
        cases v with
        | object q => cases simple
        | _ => rfl
      change Body.boxed v = Body.boxed (v.rename f)
      rw [same]
  | _ => rfl

end Body

namespace Object

variable {o : Object}

theorem held_eq (o : Object) :
    o.held = o.fields.parts.flatMap Value.refs ++ o.body.parts.flatMap Value.refs := by
  rw [held, parts, List.flatMap_append]

theorem parts_carry (o : Object) : (o.carry f).parts = o.parts.map (Value.rename f) := by
  rw [parts, parts, List.map_append, carry, Keyed.parts_carry, Body.parts_rename]

theorem isFunction_carry (o : Object) : (o.carry f).isFunction = o.isFunction := by
  rw [isFunction, isFunction, carry]
  cases o.body with
  | function p => cases p <;> rfl
  | _ => rfl

/-- Only the addresses that an object holds matter. -/
theorem carry_congr (fillable : o.body.Fillable) (same : ∀ q ∈ o.held, f q = g q) :
    o.carry f = o.carry g := by
  rw [held_eq] at same
  have fields : o.fields.map (fun e => (e.1, e.2.carry f))
      = o.fields.map fun e => (e.1, e.2.carry g) := by
    refine List.map_congr_left fun e he => ?_
    rw [Property.carry_congr fun q hq => same q (List.mem_append_left _ ?_)]
    rw [Keyed.parts, List.flatMap_assoc]
    exact List.mem_flatMap.mpr ⟨e, he, hq⟩
  have body : o.body.rename f = o.body.rename g := by
    refine Body.rename_congr fun q hq => same q (List.mem_append_right _ ?_)
    rw [← fillable.refs_eq]
    exact hq
  rw [carry, carry, fields, body]

/-- Filling an object with what it holds, under other addresses. -/
theorem withParts_carry (fillable : o.body.Fillable) (injective : Set.InjOn f {q | q ∈ o.held}) :
    o.unlocked.withParts (o.parts.map (Value.rename f)) = o.carry f := by
  have below : ∀ q ∈ o.body.refs, q ∈ o.held := by
    intro q hq
    rw [held_eq, ← fillable.refs_eq]
    exact List.mem_append_right _ hq
  have body := fillable.withParts_rename (injective.mono below)
  have fields : o.unlocked.fields = o.fields := rfl
  rw [withParts, parts, List.map_append, fields, Keyed.withParts_carry]
  exact congrArg (fun b => { o.unlocked with
    fields := o.fields.map fun (e : Key × Property) => (e.1, e.2.carry f), body := b }) body

/-- What a copy starts from is open to changes. -/
theorem unlocked_settled (o : Object) : o.settled.unlocked = o.settled := by
  rw [settled]
  split <;> rfl

end Object

end

/-! ### Copying -/

namespace Store

/-- Objects at the addresses of a closed set, with what the copy of each starts from,
    in this store and in all that come from it. What that holds besides is
    functions. -/
structure StartsOn (interp : Interpretation) (st : Store) (S : Set Ref) (start : Ref → Object) :
    Prop where
  shell_eq : ∀ r ∈ S, ∀ st', st.Extends st' → st'.shell interp r = .ok (st', .object (start r))
  fillable : ∀ r ∈ S, (start r).body.Fillable
  unlocked_eq : ∀ r ∈ S, (start r).unlocked = start r
  object : ∀ r ∈ S, (st.get r).isFunction = false
  inside : ∀ r ∈ S, r.index < st.objects.size
  closed : ∀ r ∈ S, ∀ q ∈ (start r).held, q ∈ S ∨ (st.get q).isFunction = true

/-- Objects that can be copied, at the addresses of a closed set. What they hold
    besides is functions. -/
structure ClonesOn (st : Store) (S : Set Ref) : Prop where
  clonable : ∀ r ∈ S, st.Clonable r
  inside : ∀ r ∈ S, r.index < st.objects.size
  closed : ∀ r ∈ S, ∀ q ∈ (st.get r).held, q ∈ S ∨ (st.get q).isFunction = true

/-- The same for objects that are copied as they are. -/
structure GraphOn (st : Store) (S : Set Ref) : Prop where
  copyable : ∀ r ∈ S, st.Copyable r
  inside : ∀ r ∈ S, r.index < st.objects.size
  closed : ∀ r ∈ S, ∀ q ∈ (st.get r).held, q ∈ S ∨ (st.get q).isFunction = true

theorem GraphOn.clones {st : Store} {S : Set Ref} (on : st.GraphOn S) : st.ClonesOn S where
  clonable r hr := (on.copyable r hr).clonable
  inside := on.inside
  closed := on.closed

theorem index_lt_of_isFunction {st : Store} {r : Ref}
    (function : (st.get r).isFunction = true) : r.index < st.objects.size := by
  by_contra outside
  rw [get_of_size_le (Nat.le_of_not_lt outside)] at function
  cases function

theorem ClonesOn.object {st : Store} {S : Set Ref} (on : st.ClonesOn S) :
    ∀ r ∈ S, (st.get r).isFunction = false :=
  fun r hr => (on.clonable r hr).isFunction

/-- Copies of objects that can be copied start from what these look like. -/
theorem ClonesOn.startsOn {st : Store} {S : Set Ref} (on : st.ClonesOn S)
    (interp : Interpretation) : st.StartsOn interp S fun r => (st.get r).settled where
  shell_eq r hr st' h := by
    rw [shell_settled ((on.clonable r hr).extends (on.inside r hr) h), h.get_eq r (on.inside r hr)]
  fillable r hr := (on.clonable r hr).fillable
  unlocked_eq r _ := Object.unlocked_settled _
  object := on.object
  inside := on.inside
  closed r hr := by
    rw [Object.held, (on.clonable r hr).parts_settled]
    exact on.closed r hr

end Store

namespace Copying

/-- Where the copy of the object at an address is. -/
def target (state : Copying) (r : Ref) : Ref :=
  (state.copies.lookup r).getD r

/-- The objects that have a copy. -/
def known (state : Copying) : List Ref :=
  state.copies.map Prod.fst

/-- What holds of the copies at all times: each object has one copy, which is
    new, and nothing else is new. -/
structure Sound (base : Store) (S : Set Ref) (state : Copying) : Prop where
  grown : base.Extends state.store
  sources : ∀ r ∈ state.known, r ∈ S
  distinct : state.known.Nodup
  fresh : ∀ e ∈ state.copies,
    base.objects.size ≤ e.2.index ∧ e.2.index < state.store.objects.size
  apart : (state.copies.map Prod.snd).Nodup
  complete : ∀ r, base.objects.size ≤ r.index → r.index < state.store.objects.size →
    r ∈ state.copies.map Prod.snd

/-- An address is that of a known object, or of a function. -/
def Settled (base : Store) (state : Copying) (r : Ref) : Prop :=
  r ∈ state.known ∨ (base.get r).isFunction = true

/-- A copy holds copies of what it started from holds. -/
structure Filled (base : Store) (start : Ref → Object) (state : Copying) (e : Ref × Ref) :
    Prop where
  settled : ∀ q ∈ (start e.1).held, Settled base state q
  get_eq : state.store.get e.2 = (start e.1).carry state.target

/-- A copy holds copies of what the object holds. -/
structure Formed (base : Store) (state : Copying) (e : Ref × Ref) : Prop where
  settled : ∀ q ∈ (base.get e.1).held, Settled base state q
  get_eq : state.store.get e.2 = (base.get e.1).settled.carry state.target

/-- Between two times, what became known was filled. -/
structure Goes (base : Store) (start : Ref → Object) (state state' : Copying) : Prop where
  grown : state.store.Extends state'.store
  added : ∃ more, state'.copies = more ++ state.copies ∧ ∀ e ∈ more, Filled base start state' e

variable {interp : Interpretation} {base : Store} {S : Set Ref} {start : Ref → Object}
  {state state' state'' : Copying} {r c : Ref}

/-- The copy of a known object is where it says. -/
theorem mem_copies_target (mem : r ∈ state.known) : (r, state.target r) ∈ state.copies := by
  rw [target]
  cases found : state.copies.lookup r with
  | none => exact absurd mem (lookup_eq_none_iff_keys.mp found)
  | some c => exact mem_of_lookup found

/-- What is not known stands for itself. -/
theorem target_of_not_mem (unknown : r ∉ state.known) : state.target r = r := by
  rw [target, lookup_eq_none_iff_keys.mpr unknown, Option.getD_none]

namespace Sound

theorem eq_target (sound : Sound base S state) {e : Ref × Ref} (he : e ∈ state.copies) :
    e.2 = state.target e.1 := by
  have mem : e.1 ∈ state.known := List.mem_map_of_mem he
  have same := List.inj_on_of_nodup_map sound.distinct he (mem_copies_target mem) rfl
  exact congrArg Prod.snd same

/-- Functions stand for themselves. -/
theorem target_of_function (sound : Sound base S state)
    (object : ∀ r ∈ S, (base.get r).isFunction = false)
    (function : (base.get r).isFunction = true) : state.target r = r := by
  refine target_of_not_mem fun known => ?_
  rw [object r (sound.sources r known)] at function
  cases function

/-- Different objects have different copies, and no copy is a function that was
    there. -/
theorem injOn_settled (sound : Sound base S state)
    (object : ∀ r ∈ S, (base.get r).isFunction = false) :
    Set.InjOn state.target {r | Settled base state r} := by
  have new : ∀ r ∈ state.known, base.objects.size ≤ (state.target r).index :=
    fun r hr => (sound.fresh _ (mem_copies_target hr)).1
  intro r hr q hq same
  -- Copies are new and functions are not, so a copy is never confused with a function.
  rcases hr with hr | hr
  · rcases hq with hq | hq
    · have entry := List.inj_on_of_nodup_map sound.apart (mem_copies_target hr)
        (mem_copies_target hq) same
      exact congrArg Prod.fst entry
    · have above := new r hr
      rw [same, sound.target_of_function object hq] at above
      exact absurd (Store.index_lt_of_isFunction hq) (Nat.not_lt_of_le above)
  · rw [sound.target_of_function object hr] at same
    rcases hq with hq | hq
    · have above := new q hq
      rw [← same] at above
      exact absurd (Store.index_lt_of_isFunction hr) (Nat.not_lt_of_le above)
    · rw [same, sound.target_of_function object hq]

/-- There are no more copies than objects at the start. -/
theorem length_le (sound : Sound base S state) (inside : ∀ r ∈ S, r.index < base.objects.size) :
    state.copies.length ≤ base.objects.size := by
  -- The known objects are different ones, and all of them were there at the start.
  have distinct : (state.known.map Ref.index).Nodup :=
    List.Nodup.map (fun _ _ same => Ref.eq_of_index same) sound.distinct
  have among : state.known.map Ref.index ⊆ List.range base.objects.size := by
    intro i hi
    rcases List.mem_map.mp hi with ⟨r, hr, rfl⟩
    exact List.mem_range.mpr (inside r (sound.sources r hr))
  have length := (List.subperm_of_subset distinct among).length_le
  rwa [List.length_map, known, List.length_map, List.length_range] at length

end Sound

namespace Goes

theorem refl (base : Store) (start : Ref → Object) (state : Copying) :
    Goes base start state state :=
  ⟨.refl _, [], rfl, fun _ mem => absurd mem List.not_mem_nil⟩

theorem known_mono (goes : Goes base start state state') (hr : r ∈ state.known) :
    r ∈ state'.known := by
  rcases goes.added with ⟨more, split, -⟩
  rw [known, split, List.map_append]
  exact List.mem_append_right _ hr

theorem length_le (goes : Goes base start state state') :
    state.copies.length ≤ state'.copies.length := by
  rcases goes.added with ⟨more, split, -⟩
  rw [split, List.length_append]
  exact Nat.le_add_left _ _

/-- What is settled keeps its place. -/
theorem target_eq (goes : Goes base start state state') (on : base.StartsOn interp S start)
    (sound : Sound base S state) (sound' : Sound base S state') (settled : Settled base state r) :
    state'.target r = state.target r := by
  rcases settled with hr | function
  · rcases goes.added with ⟨more, split, -⟩
    have mem : (r, state.target r) ∈ state'.copies := by
      rw [split]
      exact List.mem_append_right _ (mem_copies_target hr)
    exact (sound'.eq_target mem).symm
  · rw [sound.target_of_function on.object function, sound'.target_of_function on.object function]

theorem settled_mono (goes : Goes base start state state') (settled : Settled base state r) :
    Settled base state' r :=
  settled.imp goes.known_mono id

/-- What is filled remains so. -/
theorem filled (goes : Goes base start state state') (on : base.StartsOn interp S start)
    (sound : Sound base S state) (sound' : Sound base S state') {e : Ref × Ref}
    (he : e ∈ state.copies) (filled : Filled base start state e) :
    Filled base start state' e := by
  refine ⟨fun q hq => goes.settled_mono (filled.settled q hq), ?_⟩
  -- Its content is given by the places of what it holds, and these do not change any
  -- more.
  rw [goes.grown.get_eq e.2 (sound.fresh e he).2, filled.get_eq]
  refine Object.carry_congr (on.fillable e.1 ?_) fun q hq =>
    (goes.target_eq on sound sound' (filled.settled q hq)).symm
  exact sound.sources e.1 (List.mem_map_of_mem he)

theorem trans (first : Goes base start state state') (second : Goes base start state' state'')
    (on : base.StartsOn interp S start) (sound : Sound base S state')
    (sound' : Sound base S state'') :
    Goes base start state state'' := by
  refine ⟨first.grown.trans second.grown, ?_⟩
  rcases first.added with ⟨more, split, filled⟩
  rcases second.added with ⟨more', split', filled'⟩
  refine ⟨more' ++ more, by rw [split', split, List.append_assoc], fun e he => ?_⟩
  rcases List.mem_append.mp he with later | earlier
  · exact filled' e later
  · have there : e ∈ state'.copies := by
      rw [split]
      exact List.mem_append_left _ earlier
    exact second.filled on sound sound' there (filled e earlier)

end Goes

/-- A value was copied, and with it everything at the addresses that it holds. -/
structure Copied (base : Store) (S : Set Ref) (start : Ref → Object) (state state' : Copying)
    (refs : List Ref) : Prop where
  sound : Sound base S state'
  goes : Goes base start state state'
  settled : ∀ q ∈ refs, Settled base state' q

/-- Copying values one after the other, if each is copied. -/
theorem each_eq {copy : Copying → Value → Except Thrown (Copying × Value)} {bound : Nat}
    (on : base.StartsOn interp S start)
    (copies : ∀ {state : Copying} {v : Value}, Sound base S state →
      base.objects.size < bound + state.copies.length →
      (∀ q ∈ v.refs, q ∈ S ∨ (base.get q).isFunction = true) →
      ∃ state', copy state v = .ok (state', v.rename state'.target)
        ∧ Copied base S start state state' v.refs)
    (vs : List Value) (sound : Sound base S state)
    (deep : base.objects.size < bound + state.copies.length)
    (reached : ∀ q ∈ vs.flatMap Value.refs, q ∈ S ∨ (base.get q).isFunction = true) :
    ∃ state', each copy state vs = .ok (state', vs.map (Value.rename state'.target))
      ∧ Copied base S start state state' (vs.flatMap Value.refs) := by
  induction vs generalizing state with
  | nil =>
      exact ⟨state, rfl, sound, .refl base start state, fun _ mem => absurd mem List.not_mem_nil⟩
  | cons v vs ih =>
      rw [List.flatMap_cons] at reached
      rcases copies sound deep fun q hq => reached q (List.mem_append_left _ hq) with
        ⟨first, gives, copied⟩
      have deeper := copied.goes.length_le
      rcases ih copied.sound (by omega) fun q hq => reached q (List.mem_append_right _ hq) with
        ⟨last, rest, others⟩
      -- What was settled keeps its place, so the first value need not be copied again.
      have same : v.rename first.target = v.rename last.target := Value.rename_congr fun q hq =>
        (others.goes.target_eq on copied.sound others.sound (copied.settled q hq)).symm
      have goes := copied.goes.trans others.goes on copied.sound others.sound
      refine ⟨last, ?_, others.sound, goes, ?_⟩
      · rw [each, gives]
        change each copy first vs >>= _ = _
        rw [rest, same]
        rfl
      · intro q hq
        rcases List.mem_append.mp hq with here | there
        · exact others.goes.settled_mono (copied.settled q here)
        · exact others.settled q there

/-- An object gets a shell, which makes it known. -/
theorem sound_shell (sound : Sound base S state) (hr : r ∈ S) (new : r ∉ state.known) (o : Object) :
    Sound base S
      { store := state.store.push o, copies := (r, state.store.next) :: state.copies } where
  grown := sound.grown.trans (Store.extends_push _ o)
  sources q hq := by
    rcases List.mem_cons.mp hq with rfl | hq
    · exact hr
    · exact sound.sources q hq
  distinct := List.nodup_cons.mpr ⟨new, sound.distinct⟩
  fresh e he := by
    rw [Store.size_push]
    rcases List.mem_cons.mp he with rfl | he
    · exact ⟨sound.grown.size_le, Nat.lt_succ_self _⟩
    · have range := sound.fresh e he
      exact ⟨range.1, Nat.lt_succ_of_lt range.2⟩
  apart := by
    refine List.nodup_cons.mpr ⟨fun mem => ?_, sound.apart⟩
    rcases List.mem_map.mp mem with ⟨e, he, same⟩
    have range := (sound.fresh e he).2
    rw [same] at range
    exact Nat.lt_irrefl _ range
  complete q above below := by
    rw [Store.size_push] at below
    by_cases last : q.index = state.store.objects.size
    · rw [show q = state.store.next from Ref.eq_of_index last]
      exact List.mem_cons_self
    · exact List.mem_cons_of_mem _ (sound.complete q above (by omega))

/-- The shell is filled once everything that the object holds was copied. -/
theorem copied_filled {o : Object} (sound : Sound base S state)
    (copied : Copied base S start
      { store := state.store.push o, copies := (r, state.store.next) :: state.copies } state'
      (start r).held) :
    Copied base S start state
      { state' with
        store := state'.store.write state.store.next ((start r).carry state'.target) }
      [r] := by
  rcases copied with ⟨sound', goes, settled⟩
  rcases goes.added with ⟨more, split, filled⟩
  have mem : (r, state.store.next) ∈ state'.copies := by
    rw [split]
    exact List.mem_append_right _ List.mem_cons_self
  have inside := (sound'.fresh _ mem).2
  -- Writing the shell makes no object, so all that is said of addresses stays.
  have size : (state'.store.write state.store.next
      ((start r).carry state'.target)).objects.size = state'.store.objects.size :=
    Store.size_write
  refine ⟨?_, ⟨?_, ?_⟩, ?_⟩
  · refine ⟨sound'.grown.write sound.grown.size_le _, sound'.sources, sound'.distinct, ?_,
      sound'.apart, ?_⟩
    · intro e he
      rw [size]
      exact sound'.fresh e he
    · intro q above below
      rw [size] at below
      exact sound'.complete q above below
  · exact ((Store.extends_push state.store o).trans goes.grown).write (Nat.le_refl _) _
  · refine ⟨more ++ [(r, state.store.next)], ?_, fun e he => ?_⟩
    · rw [split, List.append_assoc, List.singleton_append]
    · rcases List.mem_append.mp he with other | here
      · -- The copies of others are at other addresses, so filling this one spares them.
        refine ⟨(filled e other).settled, ?_⟩
        have apart : e.2 ≠ state.store.next := by
          intro same
          have distinct := sound'.apart
          rw [split, List.map_append, List.nodup_append] at distinct
          exact distinct.2.2 e.2 (List.mem_map_of_mem other) _ List.mem_cons_self same
        rw [Store.get_write_ne apart]
        exact (filled e other).get_eq
      · rcases List.mem_singleton.mp here with rfl
        exact ⟨settled, Store.get_write_self inside⟩
  · intro q hq
    rcases List.mem_singleton.mp hq with rfl
    exact .inl (List.mem_map_of_mem mem)

/-- A function is its own copy. -/
theorem value_function (on : base.StartsOn interp S start) (bound : Nat)
    (sound : Sound base S state) (function : (base.get r).isFunction = true) :
    ∃ state', value interp (bound + 1) state (.object r)
        = .ok (state', (Value.object r).rename state'.target)
      ∧ Copied base S start state state' [r] := by
  have there : state.store.get r = base.get r :=
    sound.grown.get_eq r (Store.index_lt_of_isFunction function)
  refine ⟨state, ?_, sound, .refl base start state, fun q hq => ?_⟩
  · rw [value]
    simp only [there, function, if_true]
    rw [Value.rename, sound.target_of_function on.object function]
  · rw [List.mem_singleton.mp hq]
    exact .inr function

/-- What is known already is not copied again. -/
theorem value_known (bound : Nat) (sound : Sound base S state)
    (object : (state.store.get r).isFunction = false) (found : state.copies.lookup r = some c) :
    ∃ state', value interp (bound + 1) state (.object r)
        = .ok (state', (Value.object r).rename state'.target)
      ∧ Copied base S start state state' [r] := by
  have mem := mem_of_lookup found
  refine ⟨state, ?_, sound, .refl base start state, fun q hq => ?_⟩
  · rw [value]
    simp only [object, found, Bool.false_eq_true, if_false]
    rw [Value.rename, ← sound.eq_target mem]
  · rw [List.mem_singleton.mp hq]
    exact .inl (List.mem_map_of_mem mem)

/-- Copying succeeds, and gives the value under the addresses of the copies. -/
theorem value_eq (on : base.StartsOn interp S start) (bound : Nat) {v : Value}
    (sound : Sound base S state) (deep : base.objects.size < bound + state.copies.length)
    (reached : ∀ q ∈ v.refs, q ∈ S ∨ (base.get q).isFunction = true) :
    ∃ state', value interp bound state v = .ok (state', v.rename state'.target)
      ∧ Copied base S start state state' v.refs := by
  induction bound generalizing state v with
  | zero =>
      -- Everything at the start would have a copy.
      have few := sound.length_le on.inside
      omega
  | succ bound ih =>
      cases v with
      | object r =>
          rcases reached r List.mem_cons_self with hr | function
          · have there : state.store.get r = base.get r := sound.grown.get_eq r (on.inside r hr)
            have object : (state.store.get r).isFunction = false := there ▸ on.object r hr
            cases found : state.copies.lookup r with
            | some c => exact value_known bound sound object found
            | none =>
                -- The shell makes the object known before what it holds is copied.
                have new := lookup_eq_none_iff_keys.mp found
                have sound' := sound_shell sound hr new (start r)
                rcases each_eq on (fun s d h => ih s d h) (start r).parts sound'
                  (by rw [List.length_cons]; omega) (on.closed r hr) with ⟨state', gives, copied⟩
                have filled := copied_filled sound copied
                have injective := (copied.sound.injOn_settled on.object).mono copied.settled
                have mem : (r, state.store.next) ∈ state'.copies := by
                  rcases copied.goes.added with ⟨more, split, -⟩
                  rw [split]
                  exact List.mem_append_right _ List.mem_cons_self
                refine ⟨_, ?_, filled⟩
                rw [value]
                simp only [object, found, Bool.false_eq_true, if_false]
                rw [on.shell_eq r hr state.store sound.grown]
                change each (value interp bound)
                  { store := state.store.push (start r),
                    copies := (r, state.store.next) :: state.copies } (start r).parts >>= _ = _
                have address : state.store.next = state'.target r := copied.sound.eq_target mem
                rw [gives, ← Object.withParts_carry (on.fillable r hr) injective,
                  on.unlocked_eq r hr]
                exact congrArg (fun c => Except.ok (_, Value.object c)) address
          · exact value_function on bound sound function
      | _ =>
          exact ⟨state, rfl, sound, .refl base start state,
            fun _ mem => absurd mem List.not_mem_nil⟩

end Copying

namespace Store

variable {interp : Interpretation} {st : Store} {S : Set Ref} {start : Ref → Object} {v : Value}

/-- A deep copy of objects with what the copy of each starts from: each object of the
    graph that was met has a copy, which is new and holds the copies of what the start
    holds. -/
theorem copy_starts (on : st.StartsOn interp S start)
    (reached : ∀ q ∈ v.refs, q ∈ S ∨ (st.get q).isFunction = true) :
    ∃ state : Copying, st.copy interp v = .ok (state.store, v.rename state.target)
      ∧ Copying.Sound st S state ∧ (∀ e ∈ state.copies, Copying.Filled st start state e)
      ∧ ∀ q ∈ v.refs, Copying.Settled st state q := by
  have sound : Copying.Sound st S { store := st } := by
    refine ⟨.refl st, ?_, List.nodup_nil, ?_, List.nodup_nil, ?_⟩
    · exact fun _ mem => absurd mem List.not_mem_nil
    · exact fun _ mem => absurd mem List.not_mem_nil
    · exact fun r above below => absurd below (Nat.not_lt_of_le above)
  rcases Copying.value_eq on (st.objects.size + 1) sound (Nat.lt_succ_self _) reached with
    ⟨state, gives, sound, goes, settled⟩
  have filled : ∀ e ∈ state.copies, Copying.Filled st start state e := by
    rcases goes.added with ⟨more, split, filled⟩
    rw [split, List.append_nil]
    exact filled
  refine ⟨state, ?_, sound, filled, settled⟩
  rw [copy, gives]
  rfl

/-- A deep copy of what can be copied. -/
theorem copy_clones (interp : Interpretation) (on : st.ClonesOn S)
    (reached : ∀ q ∈ v.refs, q ∈ S ∨ (st.get q).isFunction = true) :
    ∃ state : Copying, st.copy interp v = .ok (state.store, v.rename state.target)
      ∧ Copying.Sound st S state ∧ (∀ e ∈ state.copies, Copying.Formed st state e)
      ∧ ∀ q ∈ v.refs, Copying.Settled st state q := by
  rcases copy_starts (on.startsOn interp) reached with ⟨state, gives, sound, filled, settled⟩
  refine ⟨state, gives, sound, fun e he => ⟨fun q hq => (filled e he).settled q ?_,
    (filled e he).get_eq⟩, settled⟩
  have clonable := on.clonable e.1 (sound.sources e.1 (List.mem_map_of_mem he))
  rw [Object.held, clonable.parts_settled]
  exact hq

/-- A deep copy of objects that are copied as they are. -/
theorem copy_graph (interp : Interpretation) (on : st.GraphOn S)
    (reached : ∀ q ∈ v.refs, q ∈ S ∨ (st.get q).isFunction = true) :
    ∃ state : Copying, st.copy interp v = .ok (state.store, v.rename state.target)
      ∧ Copying.Sound st S state ∧ (∀ e ∈ state.copies, Copying.Filled st st.get state e)
      ∧ ∀ q ∈ v.refs, Copying.Settled st state q := by
  rcases copy_clones interp on.clones reached with ⟨state, gives, sound, formed, settled⟩
  refine ⟨state, gives, sound, fun e he => ⟨(formed e he).settled, ?_⟩, settled⟩
  have copyable := on.copyable e.1 (sound.sources e.1 (List.mem_map_of_mem he))
  rw [(formed e he).get_eq, copyable.settled_eq]
  rfl

end Store

end Stencil
