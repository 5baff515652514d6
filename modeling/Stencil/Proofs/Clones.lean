import Stencil.Proofs.Digits

/-!
# What Copies Start From

The object that a copy is filled from, for all kinds whose copies are objects of
their own.

Most objects are their own start. But copies are made anew, and something is lost
on that way: an array is visited, so that nothing is missing in its copy, a
pattern starts to look at the beginning again, and of a buffer only the bytes
are left. `Object.settled` says what an object looks like after that, and nothing
else happens to the object itself.

## Main definitions

* `Body.settled`, `Object.settled`: What the copy of an object starts from.
* `Store.Clonable`: Objects whose copies start from what they look like.

## Theorems

* `Store.elements_array`: The elements of an array in which some are missing.
* `Store.shell_settled`: What a copy starts from.
-/

namespace Stencil

/-- A body without what gets lost: nothing is missing in an array, and a pattern
    starts at the beginning. -/
def Body.settled : Body → Body
  | array elements => array (elements.map fun element => some (element.getD .undefined))
  | pattern p _ => pattern p (.number (Number.ofInt 0))
  | b => b

/-- What the copy of an object starts from. -/
def Object.settled (o : Object) : Object :=
  match o.body with
  | .octets .buffer w => .ofBody (.octets .uint8Array w)
  | b => { o.unlocked with body := b.settled }

theorem Object.settled_of_ne {o : Object} (other : ∀ w, o.body ≠ .octets .buffer w) :
    o.settled = { o.unlocked with body := o.body.settled } := by
  rw [settled]
  split
  · next w body => exact absurd body (other w)
  · rfl

/-- Nothing is lost where it is not lost from the body. -/
theorem Object.settled_of_body {o : Object} (other : ∀ w, o.body ≠ .octets .buffer w)
    (same : o.body.settled = o.body) : o.settled = o.unlocked := by
  rw [settled_of_ne other, same]
  rfl

namespace Store

/-- An object whose copy starts from what it looks like. -/
inductive Clonable (st : Store) (r : Ref) : Prop
  /-- Properties of all kinds, under a prototype that may be any object. -/
  | record (body : (st.get r).body = .record) (ordinary : st.Ordinary r)
  /-- Elements may be missing. -/
  | array (elements : List (Option Value)) {integrity : Integrity}
      (there : st.get r = .bare (.array elements) integrity)
  | map (entries : List (Value × Value)) (distinct : Distinct (entries.map Prod.fst))
      {integrity : Integrity} (there : st.get r = .bare (.map entries) integrity)
  | set (elements : List Value) (distinct : Distinct elements) {integrity : Integrity}
      (there : st.get r = .bare (.set elements) integrity)
  | date (instant : Option Instant)
      (within : ∀ ms ∈ instant, -Instant.reach ≤ ms ∧ ms ≤ Instant.reach)
      {integrity : Integrity} (there : st.get r = .bare (.date instant) integrity)
  | pattern (p : Pattern) (lastIndex : Value) (normal : p.IsNormal) {integrity : Integrity}
      (there : st.get r = .bare (.pattern p lastIndex) integrity)
  | url (href : String) (normal : Link.IsNormal href) {integrity : Integrity}
      (there : st.get r = .bare (.url href) integrity)
  | boxed (v : Value) (simple : v.wrapper = .string ∨ v.wrapper = .number ∨ v.wrapper = .boolean)
      {integrity : Integrity} (there : st.get r = .bare (.boxed v) integrity)
  | octets (c : OctetClass) (w : Window UInt8) {integrity : Integrity}
      (there : st.get r = .bare (.octets c w) integrity)

variable {interp : Interpretation} {st st' : Store} {r : Ref}

/-! ### Arrays -/

/-- A bare object has what its family has. -/
theorem find?_bare {b : Body} {integrity : Integrity} (there : st.get r = .bare b integrity)
    {name : String} (own : (Object.bare b integrity).bodyProperty? name = none)
    (state : (Object.bare b integrity).ownNative? (.text name) = none) :
    st.find? r (.text name) = b.family.find? (.text name) := by
  have ownNone : (Object.bare b integrity).own? (.text name) = none := own
  rw [find?, findWithin, there, ownNone, state]
  rfl

section

variable {elements : List (Option Value)} {integrity : Integrity}

/-- Under an index, a family has nothing but a method, if it has anything. -/
theorem native?_indexName {f g : Family} {i : Nat} {n : Native}
    (found : f.native? (indexName i) = some (n, g)) : ∃ m h, n = .method m h := by
  rcases List.exists_of_findSome?_eq_some found with ⟨h, -, member⟩
  rcases Option.map_eq_some_iff.mp member with ⟨_, member, same⟩
  cases same
  have digit := beginsWithDigit_indexName i
  have noConstant : g.constant? (indexName i) = none := by
    generalize indexName i = name at digit
    unfold Family.constant?
    split
    · exact absurd digit (by decide)
    · exact absurd digit (by decide)
    · exact absurd digit (by decide)
    · exact absurd digit (by decide)
    · rfl
  -- What is left are methods, since no part is computed for an index.
  rcases Family.member?_cases member with constant | ⟨m, method⟩ | ⟨p, -, listed⟩
  · exact nomatch noConstant.symm.trans constant
  · exact ⟨m, g, method⟩
  · exact absurd rfl ((isUncomputed_indexName i).noPart g _ listed)

/-- Nothing is found under the index of an element that is missing. -/
theorem read_missing (there : st.get r = .bare (.array elements) integrity) {i : Nat}
    (missing : elements[i]? = some none) :
    st.read interp r (.text (indexName i)) = .ok (st, .undefined) := by
  have own : (Object.bare (.array elements) integrity).bodyProperty? (indexName i) = none := by
    rw [Object.bodyProperty?, Option.map_eq_none_iff, Object.usualProperty?, indexOf?_indexName]
    by_cases small : i < twoTo 32 - 1
    · have gone : ((Object.bare (.array elements) integrity).indexed[i]?).join = none := by
        change (elements[i]?).join = none
        rw [missing]
        rfl
      simp only [small, if_true, gone, Option.map_none]
    · have letters : indexName i ≠ "length" := by
        intro same
        have digit := beginsWithDigit_indexName i
        rw [same] at digit
        cases digit
      simp only [small, letters, if_false, Object.body_bare]
  have found := find?_bare there own rfl
  rw [read, readWithin, found]
  cases native : Family.array.native? (indexName i) with
  | none =>
      have none : (Body.array elements).family.find? (.text (indexName i)) = none := by
        rw [Body.family, Family.find?, native]
        rfl
      rw [none]
  | some e =>
      rcases e with ⟨n, g⟩
      rcases native?_indexName native with ⟨m, h, rfl⟩
      have method : (Body.array elements).family.find? (.text (indexName i))
          = some (.native (.method m h) (.family g)) := by
        rw [Body.family, Family.find?, native]
        rfl
      rw [method]

/-- The elements of an array; where one is missing, nothing is found. -/
theorem elements_array (there : st.get r = .bare (.array elements) integrity) :
    st.elements interp r
      = .ok (st, elements.map fun element => element.getD .undefined) := by
  have each : ∀ (rest before : List (Option Value)), before ++ rest = elements →
      (reader interp).elementsFrom r st before.length rest
        = .ok (st, rest.map fun element => element.getD .undefined) := by
    -- By induction on what is still to be read, since the index is how much was read before.
    intro rest
    induction rest with
    | nil => exact fun _ _ => rfl
    | cons element rest ih =>
        intro before split
        have others := ih (before ++ [element]) (by
          rw [List.append_assoc, List.singleton_append, split])
        rw [List.length_append, List.length_singleton] at others
        cases element with
        | some v =>
            rw [Reader.elementsFrom, others]
            rfl
        | none =>
            have missing : elements[before.length]? = some none := by
              rw [← split, List.getElem?_append_right (Nat.le_refl _), Nat.sub_self]
              rfl
            have read : reader interp st r (.text (indexName before.length))
                = .ok (st, .undefined) := read_missing there missing
            rw [Reader.elementsFrom, read]
            change (reader interp).elementsFrom r st (before.length + 1) rest >>= _ = _
            rw [others]
            rfl
  have indexed : (st.get r).indexed = elements := by rw [there]; rfl
  rw [Store.elements, Reader.elements, indexed]
  exact each elements [] rfl

end

/-- Visiting an array gives its elements; where one is missing, nothing is found. -/
theorem visit_holes {elements : List (Option Value)} {integrity : Integrity}
    (there : st.get r = .bare (.array elements) integrity) (refusal : String) :
    st.visit interp refusal (.object r)
      = .ok (st, elements.map fun element => element.getD .undefined) :=
  (visit_array (genuine_of_bare there) refusal).trans (elements_array there)

/-! ### All kinds -/

/-- What can be copied without loss can be copied. -/
theorem Copyable.clonable (copyable : st.Copyable r) : st.Clonable r := by
  cases copyable with
  | record body ordinary => exact .record body ordinary
  | array elements there => exact .array _ there
  | map entries distinct there => exact .map entries distinct there
  | set elements distinct there => exact .set elements distinct there
  | date instant within there => exact .date instant within there
  | pattern p normal there => exact .pattern p _ normal there
  | url href normal there => exact .url href normal there
  | boxed v simple there => exact .boxed v simple there

/-- Nothing is lost where an object can be copied as it is. -/
theorem Copyable.settled_eq (copyable : st.Copyable r) :
    (st.get r).settled = (st.get r).unlocked := by
  cases copyable with
  | record body ordinary =>
      exact Object.settled_of_body (fun w => by rw [body]; exact nofun) (by rw [body]; rfl)
  | array elements there =>
      refine Object.settled_of_body (fun w => by rw [there]; exact nofun) ?_
      rw [there, Object.body_bare, Body.settled, List.map_map]
      rfl
  | _ =>
      refine Object.settled_of_body (fun w => ?_) ?_
      all_goals
        simp only [*, Object.body_bare, ne_eq, reduceCtorEq, not_false_eq_true, Body.settled]

/-- What can be copied remains so while the store grows. -/
theorem Clonable.extends (clonable : st.Clonable r) (inside : r.index < st.objects.size)
    (h : st.Extends st') : st'.Clonable r := by
  have same := h.get_eq r inside
  cases clonable with
  | record body ordinary => exact .record (same ▸ body) (ordinary.extends inside h)
  | array elements there => exact .array elements (same.trans there)
  | map entries distinct there => exact .map entries distinct (same.trans there)
  | set elements distinct there => exact .set elements distinct (same.trans there)
  | date instant within there => exact .date instant within (same.trans there)
  | pattern p lastIndex normal there => exact .pattern p lastIndex normal (same.trans there)
  | url href normal there => exact .url href normal (same.trans there)
  | boxed v simple there => exact .boxed v simple (same.trans there)
  | octets c w there => exact .octets c w (same.trans there)

/-- What can be copied cannot be called. -/
theorem Clonable.isFunction (clonable : st.Clonable r) : (st.get r).isFunction = false := by
  rw [Object.isFunction]
  cases clonable with
  | record body _ => rw [body]
  | _ => simp only [*, Object.body_bare]

/-- What a copy starts from. -/
theorem shell_settled (clonable : st.Clonable r) :
    st.shell interp r = .ok (st, .object (st.get r).settled) := by
  cases clonable with
  | record body ordinary =>
      have copyable : st.Copyable r := .record body ordinary
      rw [shell_eq copyable, copyable.settled_eq]
  | array elements there =>
      rw [shell_array (genuine_of_bare there), visit_holes there, there]
      change Except.ok (st, Shell.object (.ofBody (.array ((elements.map _).map some)))) = _
      rw [List.map_map]
      rfl
  | pattern p lastIndex normal there =>
      rw [shell_pattern normal (genuine_of_bare there), there]
      rfl
  | octets c w there =>
      have kind := inherits_of_bare there
      simp only [Store.shell, kind, there]
      cases c <;> rfl
  | map entries distinct there =>
      rw [shell_map (genuine_of_bare there), there]
      rfl
  | set elements distinct there =>
      rw [shell_set (genuine_of_bare there), there]
      rfl
  | date instant within there =>
      rw [shell_date (genuine_of_bare there), instantOf_milliseconds within, there]
      rfl
  | url href normal there =>
      rw [shell_url normal (genuine_of_bare there), there]
      rfl
  | boxed v simple there =>
      rw [shell_boxed simple (genuine_of_bare there), there]
      rfl

end Store

end Stencil
