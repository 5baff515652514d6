import Stencil.Proofs.Content

/-!
# Where Objects Come From

Objects that have from the family of their kind what is asked of them.

An object of a kind need not derive from the family of the kind at once. It can be
an instance of a class, and then the prototype of the class stands in between. As
long as nothing on the way has a property under the names that matter, it does not:
a lookup of one of them ends at the family all the same.

## Main definitions

* `Object.bare`: An object of a kind with nothing besides.
* `Object.unlocked`: An object that is open to changes.
* `Body.asked`: What copying asks of an object of a kind.
* `Store.Derives`: Prototypes that lead to a family and are silent about some names.
* `Store.Genuine`: An object of a kind that has what is asked of it from its family.

## Theorems

* `Store.Genuine.inherits`: What it derives from.
* `Store.Genuine.find?`: What is found of what is asked.
* `Store.Genuine.extends`: It stays so while the store grows.
* `Store.genuine_of_bare`: Bare objects are.
-/

namespace Stencil

namespace Object

/-- An object of a kind with nothing besides, which perhaps cannot be changed. -/
def bare (b : Body) (integrity : Integrity) : Object :=
  { ofBody b with integrity := integrity }

/-- An object that is open to changes: it can get more properties, and what its body
    gives it has the usual attributes. -/
def unlocked (o : Object) : Object :=
  { o with integrity := {} }

/-- An object has nothing under a name itself. -/
def Lacks (o : Object) (name : String) : Prop :=
  o.own? (.text name) = none ∧ o.ownNative? (.text name) = none

instance (o : Object) (name : String) : Decidable (o.Lacks name) :=
  inferInstanceAs (Decidable (_ ∧ _))

@[simp] theorem body_bare (b : Body) (integrity : Integrity) : (bare b integrity).body = b := rfl

@[simp] theorem prototype_bare (b : Body) (integrity : Integrity) :
    (bare b integrity).prototype = .family b.family := rfl

/-- What can be called is a function by its kind. -/
theorem isFunction_iff {o : Object} : o.isFunction = true ↔ ∃ p, o.body = .function p := by
  rw [isFunction]
  split
  · next p body => exact ⟨fun _ => ⟨p, body⟩, fun _ => rfl⟩
  · next other => exact ⟨nofun, fun ⟨p, body⟩ => absurd body (other p)⟩

end Object

/-- The names that a copy of an object of a kind is made by: of the method that tells
    its state, or of the properties that do. -/
def Body.asked : Body → List String
  | date _ => ["getTime"]
  | pattern _ _ => Family.pattern.parts.map Prod.fst
  | url _ => ["href"]
  | boxed _ => ["valueOf"]
  | _ => []

/-- A bare object has nothing itself of what is asked of its kind. -/
theorem Object.lacks_bare {b : Body} (integrity : Integrity) {name : String}
    (mem : name ∈ b.asked) : (bare b integrity).Lacks name := by
  cases b with
  | date instant =>
      rw [List.mem_singleton.mp mem]
      exact ⟨rfl, rfl⟩
  | pattern p lastIndex =>
      simp only [Body.asked, Family.parts, List.map_cons, List.map_nil, List.mem_cons,
        List.not_mem_nil, or_false] at mem
      rcases mem with rfl | rfl | rfl | rfl | rfl | rfl | rfl | rfl | rfl | rfl <;> exact ⟨rfl, rfl⟩
  | url href =>
      rw [List.mem_singleton.mp mem]
      exact ⟨rfl, rfl⟩
  | boxed v =>
      rw [List.mem_singleton.mp mem]
      exact ⟨rfl, rfl⟩
  | _ => cases mem

namespace Store

/-- Prototypes lead from an object to a family within so many steps, and neither the
    object nor anything on the way has a property under one of some names. -/
inductive Derives (st : Store) (f : Family) (names : List String) : Nat → Ref → Prop
  | family {n : Nat} {r : Ref} (next : (st.get r).prototype = .family f)
      (silent : ∀ name ∈ names, (st.get r).Lacks name) : Derives st f names (n + 1) r
  | object {n : Nat} {r q : Ref} (next : (st.get r).prototype = .object q)
      (inside : q.index < st.objects.size) (silent : ∀ name ∈ names, (st.get r).Lacks name)
      (rest : Derives st f names n q) : Derives st f names (n + 1) r

variable {st st' : Store} {r : Ref} {f : Family} {names : List String} {n : Nat}

namespace Derives

/-- A lookup of one of the names ends at the family. -/
theorem findWithin_eq (derives : st.Derives f names n r) {name : String} (mem : name ∈ names) :
    st.findWithin (.text name) n r = f.find? (.text name) := by
  induction derives with
  | family next silent =>
      rw [findWithin, (silent name mem).1, (silent name mem).2, next]
  | object next inside silent rest ih =>
      rw [findWithin, (silent name mem).1, (silent name mem).2, next]
      exact ih

theorem rootFamilyWithin_eq (derives : st.Derives f names n r) :
    st.rootFamilyWithin n r = some f := by
  induction derives with
  | family next silent => rw [rootFamilyWithin, next]
  | object next inside silent rest ih =>
      rw [rootFamilyWithin, next]
      exact ih

theorem mono (derives : st.Derives f names n r) {m : Nat} (le : n ≤ m) :
    st.Derives f names m r := by
  induction derives generalizing m with
  | family next silent =>
      cases m with
      | zero => exact absurd le (Nat.not_succ_le_zero _)
      | succ m => exact .family next silent
  | object next inside silent rest ih =>
      cases m with
      | zero => exact absurd le (Nat.not_succ_le_zero _)
      | succ m => exact .object next inside silent (ih (Nat.le_of_succ_le_succ le))

/-- Where an object comes from stays. -/
theorem of_extends (derives : st.Derives f names n r) (inside : r.index < st.objects.size)
    (h : st.Extends st') : st'.Derives f names n r := by
  induction derives with
  | @family n r next silent =>
      have same := h.get_eq r inside
      exact .family (same ▸ next) (same ▸ silent)
  | @object n r q next above silent rest ih =>
      have same := h.get_eq r inside
      exact .object (same ▸ next) (Nat.lt_of_lt_of_le above h.size_le) (same ▸ silent) (ih above)

/-- What is found under names that nothing but a family has comes from the family that
    the prototypes end in. -/
theorem of_native (other : f ≠ .object) (noPart : ∀ name ∈ names, Template.partOf? name = none)
    (root : st.rootFamilyWithin n r = some f)
    (native : ∀ name ∈ names, ∃ m holder,
      st.findWithin (.text name) n r = some (.native m holder)) : st.Derives f names n r := by
  induction n generalizing r with
  | zero => cases root
  | succ n ih =>
      have noState : ∀ name ∈ names, (st.get r).ownNative? (.text name) = none := by
        intro name mem
        unfold Object.ownNative?
        split
        · next same =>
            cases same
            rw [noPart _ mem, Option.map_none]
        · rfl
      have silent : ∀ name ∈ names, (st.get r).Lacks name := by
        intro name mem
        refine ⟨?_, noState name mem⟩
        rcases native name mem with ⟨m, holder, found⟩
        cases own : (st.get r).own? (.text name) with
        | none => rfl
        | some p =>
            rw [findWithin, own] at found
            cases found
      rw [rootFamilyWithin] at root
      cases next : (st.get r).prototype with
      | none =>
          rw [next] at root
          cases root
      | family g =>
          rw [next] at root
          cases root
          exact .family next silent
      | object q =>
          rw [next] at root
          change st.rootFamilyWithin n q = some f at root
          have rest : ∀ name ∈ names, ∃ m holder,
              st.findWithin (.text name) n q = some (.native m holder) := by
            intro name mem
            rcases native name mem with ⟨m, holder, found⟩
            rw [findWithin, (silent name mem).1, (silent name mem).2, next] at found
            exact ⟨m, holder, found⟩
          -- Where nothing was allocated, nothing leads to another family.
          have inside : q.index < st.objects.size := by
            by_contra outside
            cases n with
            | zero => cases root
            | succ n =>
                rw [rootFamilyWithin, get_of_size_le (Nat.le_of_not_lt outside)] at root
                exact other (Option.some.inj root).symm
          exact .object next inside silent (ih root rest)

end Derives

/-- An object of a kind that has no properties of its own besides those that its body
    gives it, and what is asked of it from the family of its kind. -/
structure Genuine (st : Store) (r : Ref) (b : Body) : Prop where
  body_eq : (st.get r).body = b
  noFields : (st.get r).fields = []
  derives : st.Derives b.family b.asked (st.objects.size + 1) r

/-- A bare object derives from its family at once. -/
theorem genuine_of_bare {b : Body} {integrity : Integrity} (there : st.get r = .bare b integrity) :
    st.Genuine r b where
  body_eq := by rw [there, Object.body_bare]
  noFields := by rw [there]; rfl
  derives := .family (by rw [there, Object.prototype_bare]) fun _ mem =>
    there ▸ Object.lacks_bare integrity mem

namespace Genuine

variable {b : Body}

theorem rootFamily? (genuine : st.Genuine r b) : st.rootFamily? r = some b.family :=
  genuine.derives.rootFamilyWithin_eq

theorem inherits (genuine : st.Genuine r b) (f : Family) : st.inherits r f = b.family.isA f := by
  rw [Store.inherits, genuine.rootFamily?]

theorem find? (genuine : st.Genuine r b) {name : String} (mem : name ∈ b.asked) :
    st.find? r (.text name) = b.family.find? (.text name) :=
  genuine.derives.findWithin_eq mem

theorem of_extends (genuine : st.Genuine r b) (inside : r.index < st.objects.size)
    (h : st.Extends st') : st'.Genuine r b := by
  have same := h.get_eq r inside
  refine ⟨same ▸ genuine.body_eq, same ▸ genuine.noFields, ?_⟩
  exact (genuine.derives.of_extends inside h).mono (Nat.succ_le_succ h.size_le)

end Genuine

end Store

end Stencil
