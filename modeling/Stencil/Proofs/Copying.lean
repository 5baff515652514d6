import Stencil.Proofs.Extension
import Stencil.Store.Copy

/-!
# What Copying Leaves Alone

Copying only adds objects.

The copy of a value is put together from new objects, so everything that was
there before is there afterwards. Two things could go wrong. A shell is filled
after what it holds was copied, which is a write; but the shell is new. And
finding a shell may read properties of the value, which in turn could expose a
template. The only properties whose reading goes into the store of the copy are
the elements that an array does not have itself, and no template has a part of
its state under the name of an index.

## Main definitions

* `IsUncomputed`: Names of properties that nothing computes.
* `Store.ShellOf`, `Store.CopyOf`: The ways in which a shell is found, and in which the
  copy of an object comes about.

## Theorems

* `isUncomputed_indexName`: Nothing is computed for an index.
* `Store.extends_read`: Reading what nothing computes adds objects at most.
* `Store.extends_elementsFrom`: Reading elements adds objects at most.
* `Store.shellOf_shell`, `Store.copyOf_value`: There are no other ways.
* `Store.extends_shell`: Finding a shell adds objects at most.
* `Store.extends_copy`: Copying adds objects at most.
-/

namespace Stencil

/-! ### Indices -/

/-- Whether a text begins with a decimal digit. -/
def beginsWithDigit (s : String) : Bool :=
  s.toList.head?.any Char.isDigit

theorem beginsWithDigit_indexName (i : Nat) : beginsWithDigit (indexName i) = true := by
  rw [beginsWithDigit, indexName, String.toList_ofList]
  cases digits : Nat.toDigits 10 i with
  | nil => exact absurd digits Nat.toDigits_ne_nil
  | cons c cs =>
      have mem : c ∈ Nat.toDigits 10 i := by rw [digits]; exact List.mem_cons_self
      exact Nat.isDigit_of_mem_toDigits (by decide) (by decide) mem

theorem beginsWithDigit_of_mem_parts {f : Family} {e : String × Part} (mem : e ∈ f.parts) :
    beginsWithDigit e.1 = false := by
  revert e
  cases f with
  | octets c => cases c <;> decide
  | template v => cases v <;> decide
  | cells c => cases c <;> decide
  | error kind => cases kind <;> decide
  | _ => decide

/-- A family is searched for constants, methods and parts in turn. -/
theorem Family.member?_cases {f : Family} {name : String} {n : Native}
    (found : f.member? name = some n) :
    f.constant? name = some n ∨ (∃ m, n = .method m f)
      ∨ ∃ p, n = .part p ∧ (name, p) ∈ f.parts := by
  rw [member?] at found
  cases constant : f.constant? name with
  | some m =>
      rw [constant] at found
      exact .inl found
  | none =>
      simp only [constant] at found
      -- Methods that most families have come before those of the family.
      split at found
      · exact .inr (.inl ⟨_, (Option.some.inj found).symm⟩)
      · split at found
        · exact .inr (.inl ⟨_, (Option.some.inj found).symm⟩)
        · split at found
          · exact .inr (.inl ⟨_, (Option.some.inj found).symm⟩)
          · split at found
            · exact .inr (.inl ⟨_, (Option.some.inj found).symm⟩)
            · next p _ listed =>
                exact .inr (.inr ⟨p, (Option.some.inj found).symm, mem_of_lookup listed⟩)
            · split at found
              · exact .inr (.inl ⟨_, (Option.some.inj found).symm⟩)
              · cases found

theorem Family.mem_parts_of_member? {f : Family} {name : String} {p : Part}
    (found : f.member? name = some (.part p)) : (name, p) ∈ f.parts := by
  rcases member?_cases found with constant | ⟨m, method⟩ | ⟨q, part, listed⟩
  · unfold constant? at constant
    split at constant
    · cases constant
    · cases constant
    · cases constant
    · rcases Option.map_eq_some_iff.mp constant with ⟨k, -, same⟩
      cases same
    · cases constant
  · cases method
  · cases part
    exact listed

/-- Nothing is computed for a name: neither a template nor a family has a part
    under it. -/
structure IsUncomputed (name : String) : Prop where
  noState : Template.partOf? name = none
  noPart : ∀ (f : Family), ∀ e ∈ f.parts, e.1 ≠ name

/-- Nothing is computed for an index. -/
theorem isUncomputed_indexName (i : Nat) : IsUncomputed (indexName i) := by
  have digit := beginsWithDigit_indexName i
  have other : ∀ name, beginsWithDigit name = false → indexName i ≠ name := by
    intro name letter same
    rw [same, letter] at digit
    cases digit
  constructor
  · unfold Template.partOf?
    split
    · next same => exact absurd same (other "parsed" (by decide))
    · next same => exact absurd same (other "options" (by decide))
    · next same => exact absurd same (other "storedDefaults" (by decide))
    · next same => exact absurd same (other "log" (by decide))
    · rfl
  · exact fun f e he same => other e.1 (beginsWithDigit_of_mem_parts he) same.symm

theorem IsUncomputed.native? {name : String} (uncomputed : IsUncomputed name) (f g : Family)
    (p : Part) : f.native? name ≠ some (.part p, g) := by
  intro found
  rcases List.exists_of_findSome?_eq_some found with ⟨h, -, member⟩
  rcases Option.map_eq_some_iff.mp member with ⟨n, member, same⟩
  cases same
  exact uncomputed.noPart g _ (Family.mem_parts_of_member? member) rfl

namespace Store

variable {interp : Interpretation} {st st' : Store}

theorem findWithin_uncomputed {name : String} (uncomputed : IsUncomputed name) (bound : Nat)
    (r : Ref) (p : Part) (holder : Prototype) :
    st.findWithin (.text name) bound r ≠ some (.native (.part p) holder) := by
  -- The lookup goes up the prototypes. A template answers for its own state, and a
  -- family for its parts, at the end.
  induction bound generalizing r with
  | zero =>
      intro found
      cases found
  | succ bound ih =>
      have none : (st.get r).ownNative? (.text name) = none := by
        unfold Object.ownNative?
        split
        · next same =>
            cases same
            rw [uncomputed.noState]
            rfl
        · rfl
      rw [findWithin, none]
      split
      · intro found
        cases found
      · next same => cases same
      · split
        · intro found
          cases found
        · next f _ =>
            intro found
            rw [Family.find?] at found
            rcases Option.map_eq_some_iff.mp found with ⟨⟨n, g⟩, native, same⟩
            cases same
            exact uncomputed.native? f g p native
        · exact ih _

/-! ### Shells -/

variable {r : Ref} {v : Value}

theorem extends_readSlot {slot : Slot} {receiver : Value}
    (h : st.readSlot interp receiver slot = .ok (st', v)) : st.Extends st' := by
  cases slot with
  | data w =>
      cases h
      exact .refl st
  | accessor getter setter =>
      cases getter with
      | none =>
          cases h
          exact .refl st
      | some getter =>
          rcases ok_of_bind h with ⟨answer, -, settled⟩
          have same : (answer.settle st).1 = st' := congrArg Prod.fst (Except.ok.inj settled)
          exact same ▸ extends_settle st answer

/-- Reading what nothing computes adds objects at most. -/
theorem extends_read {name : String} (uncomputed : IsUncomputed name)
    (h : st.read interp r (.text name) = .ok (st', v)) : st.Extends st' := by
  rw [read, readWithin, find?] at h
  split at h
  · exact extends_readSlot h
  · cases h
    exact .refl st
  · cases h
    exact .refl st
  · next p holder found => exact absurd found (findWithin_uncomputed uncomputed _ r p holder)
  · cases h
    exact .refl st

/-- Reading elements adds objects at most. -/
theorem extends_elementsFrom {elements : List (Option Value)} {i : Nat} {vs : List Value}
    (h : (reader interp).elementsFrom r st i elements = .ok (st', vs)) : st.Extends st' := by
  induction elements generalizing st i vs with
  | nil =>
      cases h
      exact .refl _
  | cons element more ih =>
      cases element with
      | some w =>
          rcases ok_of_bind h with ⟨result, rest, same⟩
          cases same
          exact ih rest
      | none =>
          rcases ok_of_bind h with ⟨first, read, next⟩
          rcases ok_of_bind next with ⟨result, rest, same⟩
          cases same
          exact (extends_read (isUncomputed_indexName i) read).trans (ih rest)

/-- Visiting an array comes down to reading its elements. -/
theorem elementsFrom_of_visit {elements : List (Option Value)} {refusal : String} {vs : List Value}
    (body : (st.get r).body = .array elements)
    (h : st.visit interp refusal (.object r) = .ok (st', vs)) :
    (reader interp).elementsFrom r st 0 (st.get r).indexed = .ok (st', vs) := by
  have noView : (st.get r).isView = false := by rw [Object.isView, body]
  simp only [visit, Reader.visit, Reader.visitObject, body, noView, Reader.elements] at h
  split at h
  · split at h
    · exact h
    · split at h
      · cases h
      · cases h
  · cases h

/-- Visiting the elements of an array adds objects at most. -/
theorem extends_visit {elements : List (Option Value)} {refusal : String} {vs : List Value}
    (body : (st.get r).body = .array elements)
    (h : st.visit interp refusal (.object r) = .ok (st', vs)) : st.Extends st' :=
  extends_elementsFrom (elementsFrom_of_visit body h)

/-- Wrapping a value adds an object at most. -/
theorem extends_wrapperShell (st : Store) (answer : Answer) :
    st.Extends (st.wrapperShell answer).1 := by
  rcases answer with v | o
  · cases v <;> exact .refl st
  · exact extends_push st o

/-- What the copy of an object starts from, and the store in which it is found, by the
    ways in which that is told. -/
inductive ShellOf (interp : Interpretation) (st : Store) (r : Ref) : Store → Shell → Prop
  /-- A new object whose state refers to nothing: a date, a pattern, a link or bytes. -/
  | made {b : Body} {f : Family} (state : b.refs = []) (family : b.family = f)
      (kind : ∀ g ∈ [Family.string, .number, .boolean, .template .prompt], f.isA g = false) :
      ShellOf interp st r st (.object (.ofBody b))
  /-- What wraps the value that the object gives. -/
  | wrapped {answer : Answer}
      (kind : st.inherits r .string = true ∨ st.inherits r .number = true
        ∨ st.inherits r .boolean = true)
      (given : st.invoke interp "value" r "valueOf" = .ok answer) :
      ShellOf interp st r (st.wrapperShell answer).1 (st.wrapperShell answer).2
  /-- A new array of the elements that are visited. -/
  | array {elements : List (Option Value)} {st' : Store} {vs : List Value}
      (body : (st.get r).body = .array elements)
      (visited : st.visit interp "value is not iterable" (.object r) = .ok (st', vs)) :
      ShellOf interp st r st' (.object (.ofBody (.array (vs.map some))))
  | map {entries : List (Value × Value)} (body : (st.get r).body = .map entries) :
      ShellOf interp st r st (.object (.ofBody (.map entries)))
  | set {elements : List Value} (body : (st.get r).body = .set elements) :
      ShellOf interp st r st (.object (.ofBody (.set elements)))
  /-- The object itself, where no kind has a way of its own. -/
  | same (kind : ∀ f ∈ [Family.string, .number, .boolean], st.inherits r f = false) :
      ShellOf interp st r st (.object (st.get r).ordinaryShell)

theorem shellOf_collection {shell : Shell} (h : st.collectionShell r = .ok (st', shell)) :
    ShellOf interp st r st' shell := by
  rw [collectionShell] at h
  split at h
  · next entries body =>
      split at h
      · cases h
        exact .map body
      · cases h
  · next elements body =>
      split at h
      · cases h
        exact .set body
      · cases h
  · cases h

/-- Every shell is found in one of these ways. -/
theorem shellOf_shell {shell : Shell} (h : st.shell interp r = .ok (st', shell)) :
    ShellOf interp st r st' shell := by
  -- One case for each kind of object, in the order in which kinds are told apart.
  simp only [Store.shell] at h
  split at h
  · rcases ok_of_bind h with ⟨answer, -, next⟩
    rcases ok_of_bind next with ⟨instant, -, same⟩
    cases same
    exact .made (f := .date) rfl rfl (by decide)
  · split at h
    · rcases ok_of_bind h with ⟨p, -, same⟩
      cases same
      exact .made (f := .pattern) rfl rfl (by decide)
    · split at h
      · rcases ok_of_bind h with ⟨href, -, same⟩
        cases same
        exact .made (f := .url) rfl rfl (by decide)
      · split at h
        · next kind =>
            rcases ok_of_bind h with ⟨answer, given, same⟩
            simp only [Bool.or_eq_true, or_assoc] at kind
            have found : st.wrapperShell answer = (st', shell) := Except.ok.inj same
            have wraps := ShellOf.wrapped kind given
            rw [found] at wraps
            exact wraps
        · next kind =>
            split at h
            · cases h
              exact .made (f := .octets .uint8Array) rfl rfl (by decide)
            · next c w _ _ =>
                cases h
                refine .made (f := .octets c) rfl rfl ?_
                cases c <;> decide
            · next c w _ =>
                cases h
                refine .made (f := .cells c) rfl rfl ?_
                cases c <;> decide
            · next elements body =>
                rcases ok_of_bind h with ⟨result, visited, same⟩
                cases same
                exact .array body visited
            · split at h
              · exact shellOf_collection h
              · cases h
                refine .same fun f mem => ?_
                simp only [Bool.or_eq_true, not_or, Bool.not_eq_true] at kind
                simp only [List.mem_cons, List.not_mem_nil, or_false] at mem
                rcases mem with rfl | rfl | rfl
                · exact kind.1.1
                · exact kind.1.2
                · exact kind.2

/-- Finding a shell adds objects at most. -/
theorem extends_shell {shell : Shell} (h : st.shell interp r = .ok (st', shell)) :
    st.Extends st' := by
  -- Only arrays and wrapped values run code of others.
  cases shellOf_shell h with
  | @wrapped answer _ _ => exact extends_wrapperShell st answer
  | array body visited => exact extends_visit body visited
  | _ => exact .refl _

/-! ### Copies -/

/-- Copying values one after the other adds objects at most, if copying each
    does. -/
theorem extends_each {copy : Copying → Value → Except Thrown (Copying × Value)}
    (adds : ∀ {state : Copying} {v : Value} {state' : Copying} {w : Value},
      copy state v = .ok (state', w) → state.store.Extends state'.store)
    {state state' : Copying} {vs ws : List Value}
    (h : Copying.each copy state vs = .ok (state', ws)) : state.store.Extends state'.store := by
  induction vs generalizing state ws with
  | nil =>
      cases h
      exact .refl _
  | cons v vs ih =>
      rcases ok_of_bind h with ⟨first, copied, next⟩
      rcases ok_of_bind next with ⟨rest, others, same⟩
      cases same
      exact (adds copied).trans (ih others)

/-- How the copy of an object comes about, and the state of copying afterwards. -/
inductive CopyOf (interp : Interpretation) (bound : Nat) (state : Copying) (r : Ref) :
    Copying → Value → Prop
  /-- A function is its own copy. -/
  | function (callable : (state.store.get r).isFunction = true) :
      CopyOf interp bound state r state (.object r)
  /-- There is a copy already. -/
  | known {copy : Ref} (object : (state.store.get r).isFunction = false)
      (found : state.copies.lookup r = some copy) :
      CopyOf interp bound state r state (.object copy)
  /-- The shell is the copy. -/
  | finished {st : Store} {copy : Ref} (object : (state.store.get r).isFunction = false)
      (found : state.store.shell interp r = .ok (st, .finished copy)) :
      CopyOf interp bound state r { store := st, copies := (r, copy) :: state.copies }
        (.object copy)
  /-- The shell is a new object, and filled with copies of what it holds. -/
  | filled {st : Store} {o : Object} {filled : Copying} {vs : List Value}
      (object : (state.store.get r).isFunction = false)
      (found : state.store.shell interp r = .ok (st, .object o))
      (each : Copying.each (Copying.value interp bound)
        { store := st.push o, copies := (r, st.next) :: state.copies } o.parts
          = .ok (filled, vs)) :
      CopyOf interp bound state r
        { filled with store := filled.store.write st.next (o.withParts vs) } (.object st.next)

/-- The copy of an object comes about in one of these ways. -/
theorem copyOf_value {bound : Nat} {state state' : Copying} {w : Value}
    (h : Copying.value interp (bound + 1) state (.object r) = .ok (state', w)) :
    CopyOf interp bound state r state' w := by
  rw [Copying.value] at h
  split at h
  · next callable =>
      cases h
      exact .function callable
  · next object =>
      have object := Bool.eq_false_iff.mpr object
      split at h
      · next copy found =>
          cases h
          exact .known object found
      · rcases ok_of_bind h with ⟨⟨st, shell⟩, found, next⟩
        cases shell with
        | finished copy =>
            cases next
            exact .finished object found
        | object o =>
            rcases ok_of_bind next with ⟨⟨filled, vs⟩, each, same⟩
            cases same
            exact .filled object found each

theorem extends_copyingValue {bound : Nat} {state state' : Copying} {v w : Value}
    (h : Copying.value interp bound state v = .ok (state', w)) :
    state.store.Extends state'.store := by
  induction bound generalizing state state' v w with
  | zero => cases h
  | succ bound ih =>
      cases v with
      | object r =>
          cases copyOf_value h with
          | function callable => exact .refl _
          | known object found => exact .refl _
          | finished object found => exact extends_shell found
          | @filled st o filled vs object found each =>
              have start := extends_shell found
              -- The shell is new, so filling it changes nothing that was there.
              have parts := extends_each (fun h => ih h) each
              have before := (start.trans (extends_push st o)).trans parts
              exact before.write start.size_le _
      | _ =>
          cases h
          exact .refl _

/-- Copying adds objects at most. -/
theorem extends_copy {v w : Value} (h : st.copy interp v = .ok (st', w)) : st.Extends st' := by
  rcases ok_of_bind h with ⟨⟨state, copy⟩, copied, same⟩
  cases same
  exact extends_copyingValue copied

end Store

end Stencil
