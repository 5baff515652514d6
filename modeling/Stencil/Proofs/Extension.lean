import Stencil.Proofs.Depth
import Stencil.Proofs.Entries
import Stencil.Proofs.Writing

/-!
# Stores That Grow

What stays the same when objects are added to a store.

Nothing that templates do to one another changes an object that was there
before, other than a template that is given defaults. `Extends` says that all
of a store is found in another one, and `ExtendsBut` leaves out one address.

That the objects are the same is not enough for what is said about them. What
an object derives from is decided by others, and if one of these is only
allocated later, then the answer changes. In a closed store no object refers to
an address that nothing was allocated at, and there the answers stay. The bound
on the number of prototypes grows with the store as well, but no lookup needs
more of it than there were objects.

## Main definitions

* `Store.Extends`, `Store.ExtendsBut`: A store with more objects.
* `Object.refs`: The addresses that an object refers to.
* `Store.Closed`: All addresses that objects refer to were allocated.
* `Store.Intact`: A closed store in which nobody has reached into a template.
* `Store.FollowsPrototypes`: Lookups along prototypes.
* `Store.SameLookups`: A store in which objects have the same properties.
* `Action.Looks`: Nothing changes, or something was added before a failure.

## Theorems

* `Store.extends_push`, `Store.extends_settle`: What is added extends a store.
* `Store.Extends.write`: What was not there may be changed.
* `Store.FollowsPrototypes.of_size_le`: How far a lookup goes at most.
* `Store.SameLookups.rootFamily?_eq`, `Store.SameLookups.find?_eq`: What an object
  derives from and what is found at it stays.
* `Store.Extends.templateRef?_eq`: Which values are templates stays.
* `Action.looks_bind`, `Template.looks_write`: Actions that look.
-/

namespace Stencil

namespace Store

/-- All objects of a store, and perhaps more. -/
structure Extends (st st' : Store) : Prop where
  size_le : st.objects.size ≤ st'.objects.size
  get_eq : ∀ r, r.index < st.objects.size → st'.get r = st.get r

/-- All objects of a store except for the one at an address, and perhaps
    more. -/
structure ExtendsBut (except : Ref) (st st' : Store) : Prop where
  size_le : st.objects.size ≤ st'.objects.size
  get_eq : ∀ r, r.index < st.objects.size → r ≠ except → st'.get r = st.get r

variable {st st' st'' : Store} {r : Ref} {o : Object}

/-! ### Allocating and writing -/

@[simp] theorem size_push : (st.push o).objects.size = st.objects.size + 1 :=
  Array.size_push o

theorem index_next_lt (st : Store) (o : Object) : st.next.index < (st.push o).objects.size := by
  rw [size_push]
  exact Nat.lt_succ_self _

@[simp] theorem size_write : (st.write r o).objects.size = st.objects.size := by
  rw [write, Array.size_setIfInBounds]

theorem get_push (inside : r.index < st.objects.size) : (st.push o).get r = st.get r := by
  rw [get, push, Array.getElem?_push_lt inside, get, Array.getElem?_eq_getElem inside]

@[simp] theorem get_push_next : (st.push o).get st.next = o := by
  rw [get, push, next, Array.getElem?_push_size, Option.getD_some]

theorem get_write_self (inside : r.index < st.objects.size) : (st.write r o).get r = o := by
  rw [get, write, Array.getElem?_setIfInBounds_self_of_lt inside, Option.getD_some]

theorem get_write_ne {q : Ref} (apart : q ≠ r) : (st.write r o).get q = st.get q := by
  have indices : r.index ≠ q.index := fun same => apart (Ref.eq_of_index same.symm)
  rw [get, write, Array.getElem?_setIfInBounds_ne indices, get]

/-! ### Extensions -/

namespace Extends

theorem refl (st : Store) : st.Extends st :=
  ⟨Nat.le_refl _, fun _ _ => rfl⟩

theorem trans (first : st.Extends st') (second : st'.Extends st'') : st.Extends st'' := by
  refine ⟨Nat.le_trans first.size_le second.size_le, fun r inside => ?_⟩
  rw [second.get_eq r (Nat.lt_of_lt_of_le inside first.size_le), first.get_eq r inside]

/-- Nothing is lost by changing what was not there. -/
theorem write (h : st.Extends st') (fresh : st.objects.size ≤ r.index) (o : Object) :
    st.Extends (st'.write r o) := by
  refine ⟨by rw [size_write]; exact h.size_le, fun q inside => ?_⟩
  have apart : q ≠ r := fun same => by
    rw [same] at inside
    omega
  rw [get_write_ne apart, h.get_eq q inside]

theorem but (h : st.Extends st') (except : Ref) : st.ExtendsBut except st' :=
  ⟨h.size_le, fun r inside _ => h.get_eq r inside⟩

end Extends

theorem extends_push (st : Store) (o : Object) : st.Extends (st.push o) := by
  refine ⟨?_, fun r inside => get_push inside⟩
  rw [size_push]
  exact Nat.le_succ _

theorem extends_settle (st : Store) (answer : Answer) : st.Extends (answer.settle st).1 := by
  cases answer with
  | existing v => exact .refl st
  | fresh o => exact extends_push st o

namespace ExtendsBut

variable {except : Ref}

theorem trans (first : st.ExtendsBut except st') (second : st'.ExtendsBut except st'') :
    st.ExtendsBut except st'' := by
  refine ⟨Nat.le_trans first.size_le second.size_le, fun r inside apart => ?_⟩
  rw [second.get_eq r (Nat.lt_of_lt_of_le inside first.size_le) apart, first.get_eq r inside apart]

/-- What is left out may be something new. -/
theorem after (h : st'.ExtendsBut except st'') (before : st.Extends st')
    (fresh : st.objects.size ≤ except.index) : st.Extends st'' := by
  refine ⟨Nat.le_trans before.size_le h.size_le, fun r inside => ?_⟩
  have apart : r ≠ except := fun same => by
    rw [same] at inside
    omega
  rw [h.get_eq r (Nat.lt_of_lt_of_le inside before.size_le) apart, before.get_eq r inside]

end ExtendsBut

theorem extendsBut_write (st : Store) (r : Ref) (o : Object) : st.ExtendsBut r (st.write r o) :=
  ⟨Nat.le_of_eq size_write.symm, fun _ _ apart => get_write_ne apart⟩

end Store

/-! ### Addresses -/

/-- The address that a value is. -/
def Value.refs : Value → List Ref
  | object r => [r]
  | _ => []

/-- The address that a slot refers to. -/
def Slot.refs : Slot → List Ref
  | data v => v.refs
  | accessor getter setter => getter.toList ++ setter.toList

/-- The address at which a lookup continues. -/
def Prototype.refs : Prototype → List Ref
  | object r => [r]
  | _ => []

/-- The addresses that a body refers to. -/
def Body.refs : Body → List Ref
  | array elements => elements.flatMap fun element => (element.getD .undefined).refs
  | map entries => entries.flatMap fun e => e.1.refs ++ e.2.refs
  | set elements => elements.flatMap Value.refs
  | pattern _ lastIndex => lastIndex.refs
  | boxed v => v.refs
  | function (.constant v) | function (.raising v) => v.refs
  | template t => t.serializer.toList ++ t.journal.root :: t.defaults.flatMap fun e => e.2.refs
  | _ => []

/-- The addresses that an object refers to. -/
def Object.refs (o : Object) : List Ref :=
  o.prototype.refs ++ o.fields.flatMap (fun e => e.2.slot.refs) ++ o.body.refs

namespace Object

theorem refs_of_mem_indexed {o : Object} {v : Value} (mem : some v ∈ o.indexed) {q : Ref}
    (hq : q ∈ v.refs) : q ∈ o.body.refs := by
  rw [indexed] at mem
  split at mem
  · next elements body =>
      rw [body]
      exact List.mem_flatMap.mpr ⟨some v, mem, hq⟩
  · rcases List.mem_map.mp mem with ⟨w, text, same⟩
    cases same
    rcases List.mem_map.mp text with ⟨u, -, rfl⟩
    cases hq
  · cases mem
  · rcases List.mem_map.mp mem with ⟨b, -, same⟩
    cases same
    cases hq
  · rcases List.mem_map.mp mem with ⟨n, -, same⟩
    cases same
    cases hq
  · cases mem

/-- What the body of an object gives it refers to what the body refers to. -/
theorem refs_of_usualProperty? {o : Object} {name : String} {p : Property}
    (has : o.usualProperty? name = some p) {q : Ref} (hq : q ∈ p.slot.refs) :
    q ∈ o.body.refs := by
  rw [usualProperty?] at has
  split at has
  · rcases Option.map_eq_some_iff.mp has with ⟨v, found, rfl⟩
    have slot : (o.element v).slot = .data v := by
      rw [element]
      split <;> rfl
    rw [slot] at hq
    rw [Option.join_eq_some_iff] at found
    exact refs_of_mem_indexed (List.mem_of_getElem? found) hq
  · split at has
    · -- A length is a number.
      rw [length?] at has
      split at has
      · cases has
        cases hq
      · cases has
        cases hq
      · cases has
    · split at has
      · next p' lastIndex body =>
          split at has
          · cases has
            rw [body]
            exact hq
          · cases has
      · split at has
        · cases has
          cases hq
        · split at has
          · cases has
            cases hq
          · cases has
      · cases has

/-- Other attributes refer to nothing else. -/
theorem refs_of_bodyProperty? {o : Object} {name : String} {p : Property}
    (has : o.bodyProperty? name = some p) {q : Ref} (hq : q ∈ p.slot.refs) : q ∈ o.body.refs := by
  rcases Option.map_eq_some_iff.mp has with ⟨p', found, rfl⟩
  exact refs_of_usualProperty? found hq

/-- What an object has itself refers to what the object refers to. -/
theorem refs_of_own? {o : Object} {key : Key} {p : Property} (has : o.own? key = some p) {q : Ref}
    (hq : q ∈ p.slot.refs) : q ∈ o.refs := by
  unfold own? at has
  cases field : o.fields.get? key with
  | some p' =>
      rw [field] at has
      cases has
      refine List.mem_append_left _ (List.mem_append_right _ ?_)
      exact List.mem_flatMap.mpr ⟨_, mem_of_lookup field, hq⟩
  | none =>
      rw [field] at has
      cases key with
      | symbol label => cases has
      | text name => exact List.mem_append_right _ (refs_of_bodyProperty? has hq)

end Object

namespace Store

/-- No object refers to an address that nothing was allocated at. -/
def Closed (st : Store) : Prop :=
  ∀ r, r.index < st.objects.size → ∀ q ∈ (st.get r).refs, q.index < st.objects.size

/-- A value is not an address that nothing was allocated at. -/
def Holds (st : Store) (v : Value) : Prop :=
  ∀ q ∈ v.refs, q.index < st.objects.size

/-- A closed store in which nobody has reached into any template. -/
structure Intact (st : Store) : Prop where
  closed : st.Closed
  untouched : st.Untouched

variable {st st' st'' : Store} {r q : Ref} {v : Value}

theorem closed_iff : st.Closed ↔ ∀ i < st.objects.size, ∀ q ∈ (st.get ⟨i⟩).refs,
    q.index < st.objects.size :=
  ⟨fun h i => h ⟨i⟩, fun h r => h r.index⟩

instance : Decidable (st.Holds v) :=
  inferInstanceAs (Decidable (∀ q ∈ v.refs, q.index < st.objects.size))

instance : Decidable st.Closed :=
  decidable_of_iff _ closed_iff.symm

instance : Decidable st.Intact :=
  decidable_of_iff (st.Closed ∧ st.Untouched)
    ⟨fun h => ⟨h.1, h.2⟩, fun h => ⟨h.closed, h.untouched⟩⟩

instance {values : Value} {supplied : List (String × Value)} :
    Decidable (st.Supplies values supplied) :=
  decidable_of_iff (∃ r ∈ values.refs, (st.get r).HoldsData
      ∧ supplied = (st.get r).dataEntries.filter fun (_, v) => v ≠ .undefined) <| by
    constructor
    · rintro ⟨r, address, h⟩
      cases values with
      | object q => exact ⟨r, by rw [List.mem_singleton.mp address], h⟩
      | _ => cases address
    · rintro ⟨r, rfl, h⟩
      exact ⟨r, List.mem_singleton_self r, h⟩

theorem Closed.prototype (closed : st.Closed) (inside : r.index < st.objects.size)
    (next : (st.get r).prototype = .object q) : q.index < st.objects.size := by
  refine closed r inside q ?_
  rw [Object.refs, next]
  exact List.mem_append_left _ (List.mem_append_left _ List.mem_cons_self)

theorem Closed.body (closed : st.Closed) (inside : r.index < st.objects.size)
    (held : q ∈ (st.get r).body.refs) : q.index < st.objects.size :=
  closed r inside q (List.mem_append_right _ held)

/-- An object supplies the same in a greater store. -/
theorem Supplies.extends {supplied : List (String × Value)} (supplies : st.Supplies v supplied)
    (held : st.Holds v) (h : st.Extends st') : st'.Supplies v supplied := by
  rcases supplies with ⟨r, rfl, data, same⟩
  have object := h.get_eq r (held r List.mem_cons_self)
  exact ⟨r, rfl, object ▸ data, object ▸ same⟩

/-- A template is at an address that something was allocated at. -/
theorem index_lt_of_template? {t : Template} (held : st.template? r = some t) :
    r.index < st.objects.size := by
  by_contra outside
  rw [template?, get_of_size_le (Nat.le_of_not_lt outside)] at held
  cases held

/-- An object of which more is known than that it might be at any address. -/
theorem index_lt_of_body (other : (st.get r).body ≠ .record) : r.index < st.objects.size := by
  by_contra outside
  rw [get_of_size_le (Nat.le_of_not_lt outside)] at other
  exact other rfl

theorem body_of_template? {t : Template} (held : st.template? r = some t) :
    (st.get r).body = .template t := by
  rw [template?] at held
  split at held
  · next u body =>
      rw [body, Option.some.inj held]
  · cases held

/-- The defaults of templates are held by a closed store. -/
theorem Closed.default (closed : st.Closed) {t : Template} (held : st.template? r = some t)
    {e : String × Value} (mem : e ∈ t.defaults) : st.Holds e.2 := by
  intro q hq
  refine closed.body (index_lt_of_template? held) ?_
  rw [body_of_template? held]
  refine List.mem_append_right _ (List.mem_cons_of_mem _ ?_)
  exact List.mem_flatMap.mpr ⟨e, mem, hq⟩

/-! ### Lookups -/

section

variable {α : Type} {look : Nat → Ref → Option α}

/-- A lookup follows prototypes: at each object it ends, or goes on at the next
    one. -/
structure FollowsPrototypes (st : Store) (look : Nat → Ref → Option α) : Prop where
  nothing : ∀ r, look 0 r = none
  step : ∀ r, (∃ x, ∀ n, look (n + 1) r = x)
    ∨ ∃ q, (st.get r).prototype = .object q ∧ ∀ n, look (n + 1) r = look n q

namespace FollowsPrototypes

theorem succ (follows : st.FollowsPrototypes look) {n : Nat} {a : α} (found : look n r = some a) :
    look (n + 1) r = some a := by
  induction n generalizing r with
  | zero =>
      rw [follows.nothing] at found
      cases found
  | succ n ih =>
      rcases follows.step r with ⟨x, ends⟩ | ⟨q, -, goes⟩
      · rw [ends, ← ends n, found]
      · rw [goes] at found ⊢
        exact ih found

theorem of_le (follows : st.FollowsPrototypes look) {m n : Nat} {a : α} (le : m ≤ n)
    (found : look m r = some a) : look n r = some a := by
  induction le with
  | refl => exact found
  | step _ ih => exact follows.succ ih

/-- There is no need to follow more prototypes than there are objects, as long as they
    stay among these. -/
theorem of_size_le_on (follows : st.FollowsPrototypes look) {S : Set Ref}
    (inside : ∀ q ∈ S, q.index < st.objects.size)
    (closed : ∀ q ∈ S, ∀ p, (st.get q).prototype = .object p → p ∈ S) (hr : r ∈ S) {n : Nat}
    (le : st.objects.size ≤ n) : look n r = look st.objects.size r := by
  cases found : look n r with
  | none =>
      cases early : look st.objects.size r with
      | none => rfl
      | some a =>
          rw [follows.of_le le early] at found
          cases found
  | some a =>
      -- A lookup that goes on longer meets an address for each step, so the bound suffices.
      have enough : r ∈ S ∧ (look st.objects.size r).isSome = true := by
        refine succeeds_within (P := fun m q => q ∈ S ∧ (look m q).isSome = true) ?_ ?_ ?_
          (n := n) ⟨hr, by rw [found]; rfl⟩
        · rintro m q ⟨hq, some⟩
          rcases Option.isSome_iff_exists.mp some with ⟨b, hb⟩
          exact ⟨hq, by rw [follows.succ hb]; rfl⟩
        · exact fun m q h => inside q h.1
        · rintro m q ⟨hq, some⟩ short
          rcases follows.step q with ⟨x, ends⟩ | ⟨p, next, goes⟩
          · -- What ends here does so with any allowance, so nothing was short of it.
            rw [ends] at some
            exact absurd ⟨hq, by rw [ends]; exact some⟩ short
          · rw [goes] at some short
            exact ⟨p, ⟨closed q hq p next, some⟩, fun h => short ⟨hq, h.2⟩⟩
      rcases Option.isSome_iff_exists.mp enough.2 with ⟨b, hb⟩
      rw [hb, ← found, follows.of_le le hb]

/-- In a closed store all prototypes are among the objects. -/
theorem of_size_le (follows : st.FollowsPrototypes look) (closed : st.Closed)
    (inside : r.index < st.objects.size) {n : Nat} (le : st.objects.size ≤ n) :
    look n r = look st.objects.size r :=
  follows.of_size_le_on (S := {q | q.index < st.objects.size}) (fun _ hq => hq)
    (fun _ hq _ next => closed.prototype hq next) inside le

end FollowsPrototypes

end

theorem followsPrototypes_rootFamilyWithin (st : Store) :
    st.FollowsPrototypes st.rootFamilyWithin where
  nothing _ := rfl
  step r := by
    cases next : (st.get r).prototype with
    | none => exact .inl ⟨none, fun n => by rw [rootFamilyWithin, next]⟩
    | family f => exact .inl ⟨some f, fun n => by rw [rootFamilyWithin, next]⟩
    | object q => exact .inr ⟨q, rfl, fun n => by rw [rootFamilyWithin, next]⟩

theorem followsPrototypes_findWithin (st : Store) (key : Key) :
    st.FollowsPrototypes (st.findWithin key) where
  nothing _ := rfl
  step r := by
    cases own : (st.get r).own? key with
    | some p => exact .inl ⟨some (.property p r), fun n => by rw [findWithin, own]⟩
    | none =>
        cases state : (st.get r).ownNative? key with
        | some m =>
            exact .inl ⟨some (.native m (.object r)), fun n => by rw [findWithin, own, state]⟩
        | none =>
            cases next : (st.get r).prototype with
            | none => exact .inl ⟨none, fun n => by simp only [findWithin, own, state, next]⟩
            | family f =>
                exact .inl ⟨f.find? key, fun n => by simp only [findWithin, own, state, next]⟩
            | object q =>
                exact .inr ⟨q, rfl, fun n => by simp only [findWithin, own, state, next]⟩

/-- A property that is found in a closed set refers to objects in it. -/
theorem mem_of_found {S : Set Ref} (closed : ∀ r ∈ S, ∀ q ∈ (st.get r).refs, q ∈ S) (hr : r ∈ S)
    {key : Key} {p : Property} {holder : Ref}
    (found : st.find? r key = some (.property p holder)) : ∀ q ∈ p.slot.refs, q ∈ S := by
  -- The search goes along the prototypes, none of which leaves the set.
  rw [find?] at found
  generalize st.objects.size + 1 = n at found
  induction n generalizing r with
  | zero => cases found
  | succ n ih =>
      rw [findWithin] at found
      cases has : (st.get r).own? key with
      | some p' =>
          rw [has] at found
          cases found
          exact fun q hq => closed _ hr q (Object.refs_of_own? has hq)
      | none =>
          rw [has] at found
          cases state : (st.get r).ownNative? key with
          | some m =>
              rw [state] at found
              cases found
          | none =>
              simp only [state] at found
              cases next : (st.get r).prototype with
              | none =>
                  rw [next] at found
                  cases found
              | family g =>
                  rw [next] at found
                  cases key with
                  | symbol label => cases found
                  | text name =>
                      rcases Option.map_eq_some_iff.mp found with ⟨_, _, same⟩
                      cases same
              | object q =>
                  rw [next] at found
                  refine ih (closed r hr q ?_) found
                  rw [Object.refs, next]
                  exact List.mem_append_left _ (List.mem_append_left _ List.mem_cons_self)

/-- A property that is found refers to objects that there are. -/
theorem Closed.found (closed : st.Closed) (inside : r.index < st.objects.size) {key : Key}
    {p : Property} {holder : Ref} (found : st.find? r key = some (.property p holder)) :
    ∀ q ∈ p.slot.refs, q.index < st.objects.size :=
  mem_of_found (S := {q | q.index < st.objects.size}) closed inside found

/-- Objects of a store have the same prototypes and the same properties in another
    one. Only what they hold otherwise may differ. -/
structure SameLookups (st st' : Store) : Prop where
  size_le : st.objects.size ≤ st'.objects.size
  prototype_eq : ∀ r, r.index < st.objects.size → (st'.get r).prototype = (st.get r).prototype
  own?_eq : ∀ r, r.index < st.objects.size → ∀ key, (st'.get r).own? key = (st.get r).own? key
  ownNative?_eq : ∀ r, r.index < st.objects.size →
    ∀ key, (st'.get r).ownNative? key = (st.get r).ownNative? key
  isFunction_eq : ∀ r, r.index < st.objects.size → (st'.get r).isFunction = (st.get r).isFunction

namespace SameLookups

theorem trans (first : st.SameLookups st') (second : st'.SameLookups st'') :
    st.SameLookups st'' where
  size_le := Nat.le_trans first.size_le second.size_le
  prototype_eq r inside :=
    (second.prototype_eq r (Nat.lt_of_lt_of_le inside first.size_le)).trans
      (first.prototype_eq r inside)
  own?_eq r inside key :=
    (second.own?_eq r (Nat.lt_of_lt_of_le inside first.size_le) key).trans
      (first.own?_eq r inside key)
  ownNative?_eq r inside key :=
    (second.ownNative?_eq r (Nat.lt_of_lt_of_le inside first.size_le) key).trans
      (first.ownNative?_eq r inside key)
  isFunction_eq r inside :=
    (second.isFunction_eq r (Nat.lt_of_lt_of_le inside first.size_le)).trans
      (first.isFunction_eq r inside)

theorem rootFamilyWithin_eq (h : st.SameLookups st') (closed : st.Closed)
    (inside : r.index < st.objects.size) (n : Nat) :
    st'.rootFamilyWithin n r = st.rootFamilyWithin n r := by
  induction n generalizing r with
  | zero => rfl
  | succ n ih =>
      rw [rootFamilyWithin, rootFamilyWithin, h.prototype_eq r inside]
      cases next : (st.get r).prototype with
      | object q => exact ih (closed.prototype inside next)
      | _ => rfl

/-- What an object derives from stays. -/
theorem rootFamily?_eq (h : st.SameLookups st') (closed : st.Closed)
    (inside : r.index < st.objects.size) : st'.rootFamily? r = st.rootFamily? r := by
  have follows := st.followsPrototypes_rootFamilyWithin
  have grown := h.size_le
  rw [rootFamily?, rootFamily?, h.rootFamilyWithin_eq closed inside,
    follows.of_size_le closed inside (by omega), follows.of_size_le closed inside (Nat.le_succ _)]

theorem inherits_eq (h : st.SameLookups st') (closed : st.Closed)
    (inside : r.index < st.objects.size) (f : Family) : st'.inherits r f = st.inherits r f := by
  rw [inherits, inherits, h.rootFamily?_eq closed inside]

theorem findWithin_eq (h : st.SameLookups st') (closed : st.Closed)
    (inside : r.index < st.objects.size) (key : Key) (n : Nat) :
    st'.findWithin key n r = st.findWithin key n r := by
  induction n generalizing r with
  | zero => rfl
  | succ n ih =>
      rw [findWithin, findWithin, h.prototype_eq r inside, h.own?_eq r inside,
        h.ownNative?_eq r inside]
      cases next : (st.get r).prototype with
      | object q => simp only [ih (closed.prototype inside next)]
      | _ => rfl

/-- What is found under a key stays. -/
theorem find?_eq (h : st.SameLookups st') (closed : st.Closed)
    (inside : r.index < st.objects.size) (key : Key) : st'.find? r key = st.find? r key := by
  have follows := st.followsPrototypes_findWithin key
  have grown := h.size_le
  rw [find?, find?, h.findWithin_eq closed inside, follows.of_size_le closed inside (by omega),
    follows.of_size_le closed inside (Nat.le_succ _)]

end SameLookups

namespace Extends

theorem template?_eq (h : st.Extends st') (inside : r.index < st.objects.size) :
    st'.template? r = st.template? r := by
  rw [template?, template?, h.get_eq r inside]

/-- What is a template remains one. -/
theorem template? (h : st.Extends st') {t : Template} (held : st.template? r = some t) :
    st'.template? r = some t := by
  rw [h.template?_eq (index_lt_of_template? held), held]

theorem sameLookups (h : st.Extends st') : st.SameLookups st' where
  size_le := h.size_le
  prototype_eq r inside := by rw [h.get_eq r inside]
  own?_eq r inside key := by rw [h.get_eq r inside]
  ownNative?_eq r inside key := by rw [h.get_eq r inside]
  isFunction_eq r inside := by rw [h.get_eq r inside]

theorem inherits_eq (h : st.Extends st') (closed : st.Closed) (inside : r.index < st.objects.size)
    (f : Family) : st'.inherits r f = st.inherits r f :=
  h.sameLookups.inherits_eq closed inside f

/-- Which values are templates stays. -/
theorem templateRef?_eq (h : st.Extends st') (closed : st.Closed) (held : st.Holds v) :
    st'.templateRef? v = st.templateRef? v := by
  cases v with
  | object r => rw [templateRef?, templateRef?, h.inherits_eq closed (held r List.mem_cons_self)]
  | _ => rfl

end Extends

end Store

/-! ### Actions that look -/

namespace Action

variable {α β : Type} {x : Action α} {f : α → Action β} {st : Store}

/-- The action only looks at the store: if it succeeds, then the store is as it was,
    and otherwise it has more objects at most. -/
structure Looks (x : Action α) (st : Store) : Prop where
  steady : x.Steady st
  adds : st.Extends (x.storeAfter st)

theorem looks_of_storeAfter (same : x.storeAfter st = st) : x.Looks st := by
  refine ⟨steady_of_storeAfter same, ?_⟩
  rw [same]
  exact .refl st

/-- Actions that look, one after the other. -/
theorem looks_bind (first : x.Looks st)
    (second : ∀ a, x.resultAt st = .ok a → (f a).Looks st) : (x >>= f).Looks st := by
  refine ⟨steady_bind first.steady fun a h => (second a h).steady, ?_⟩
  cases h : x.resultAt st with
  | error e =>
      rw [storeAfter_bind_error h]
      exact first.adds
  | ok a =>
      rw [storeAfter_bind_ok h, first.steady a h]
      exact (second a h).adds

theorem looks_bind_asking {q : Store → α} {g : α → Action β} (rest : (g (q st)).Looks st) :
    (asking q >>= g).Looks st :=
  ⟨rest.steady, rest.adds⟩

end Action

namespace Template

variable {interp : Interpretation} {st : Store}

theorem storeAfter_refuse (t : Template) (key : String) (v : Value) (c : Caught) :
    (t.refuse interp key v c).storeAfter st = st :=
  Action.storeAfter_bind_looking fun _ => rfl

/-- Writing a value only looks at the store: an answer that is no text is added to
    it, and then writing fails. -/
theorem looks_write (t : Template) (key : String) (v : Value) :
    (t.write interp key v).Looks st := by
  refine ⟨steady_write t key v, ?_⟩
  rw [write, Action.storeAfter_bind_asking]
  split
  · exact .refl st
  · next answer _ _ =>
      rw [Action.settling, Action.storeAfter_bind_adding,
        Action.storeAfter_bind_looking fun _ => storeAfter_refuse t key v _]
      exact Store.extends_settle st answer
  · refine (Action.looks_of_storeAfter (Action.storeAfter_bind_looking fun c => ?_)).adds
    rw [report, Action.storeAfter_bind_report]
    exact storeAfter_refuse t key v c

end Template

end Stencil
