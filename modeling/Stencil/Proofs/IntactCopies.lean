import Stencil.Proofs.CarriedDefaults
import Stencil.Proofs.InputCopies
import Stencil.Routine

/-!
# Copies in Intact Stores

Copying leaves a store intact, whatever is copied.

What copying a value comes to may be up to functions. A wrapped value is copied by
calling a method of it, and a missing element of an array may be computed by what the
array derives from. Nothing is known of what these functions do. But what they give is
there already, or it is a new object, and this is all that matters here. So it is a
condition on the interpretation, `Interpretation.Fits`, and the interpretation under
which procedures do what their names say meets it.

A copy is put into the store before it is filled, and what it is filled with may refer
to it. In between, the store is intact as well: a shell refers to what the object
refers to that is being copied, and it counts as a template only if that one does.

## Main definitions

* `Store.GrowsTo`: A store has grown and is intact.
* `Answer.Fits`, `Interpretation.Fits`: What functions give is there, or it is new.
* `Shell.Fits`, `Copying.Fits`: The same of what a copy starts from, and of copying.

## Theorems

* `Copying.Fits.value`, `Store.GrowsTo.copy`: Copying a value.
* `Template.ensures_copied_intact`: Copying a value or a template.
* `Interpretation.fits_standard`: Procedures that do what their names say.
-/

namespace Stencil

/-! ### What objects refer to -/

/-- A property that is filled with another value takes the first one, if it holds any. -/
theorem Property.refs_withParts (p : Property) (vs : List Value) :
    (∀ q ∈ (p.withParts vs).1.slot.refs, q ∈ p.slot.refs ∨ ∃ v ∈ vs, q ∈ v.refs)
      ∧ ∀ v ∈ (p.withParts vs).2, v ∈ vs := by
  cases slot : p.slot with
  | accessor getter setter =>
      simp only [withParts, slot]
      exact ⟨fun q hq => .inl hq, fun v hv => hv⟩
  | data w =>
      cases vs with
      | nil =>
          simp only [withParts, slot]
          exact ⟨fun q hq => .inl hq, fun v hv => hv⟩
      | cons v vs =>
          simp only [withParts, slot]
          exact ⟨fun q hq => .inr ⟨v, List.mem_cons_self, hq⟩,
            fun w hw => List.mem_cons_of_mem v hw⟩

/-- Properties that are filled with other values refer to these, and to what they refer to
    anyway. -/
theorem Keyed.refs_withParts (fields : Keyed Property) (vs : List Value) :
    (∀ q ∈ (Keyed.withParts fields vs).1.flatMap fun e => e.2.slot.refs,
        q ∈ fields.flatMap (fun e => e.2.slot.refs) ∨ ∃ v ∈ vs, q ∈ v.refs)
      ∧ ∀ v ∈ (Keyed.withParts fields vs).2, v ∈ vs := by
  induction fields generalizing vs with
  | nil => exact ⟨fun q hq => .inl hq, fun v hv => hv⟩
  | cons e fields ih =>
      rcases e with ⟨key, p⟩
      have first := p.refs_withParts vs
      have rest := ih (p.withParts vs).2
      refine ⟨fun q hq => ?_, fun v hv => first.2 v (rest.2 v hv)⟩
      rw [List.flatMap_cons]
      rcases List.mem_append.mp hq with here | there
      · exact (first.1 q here).imp (List.mem_append_left _) id
      · rcases rest.1 q there with old | ⟨v, hv, new⟩
        · exact .inl (List.mem_append_right _ old)
        · exact .inr ⟨v, first.2 v hv, new⟩

/-- A template that is filled with other values remains one. -/
theorem Body.withParts_template (t : Template) (vs : List Value) :
    ∃ u, (template t).withParts vs = template u ∧ ∀ q ∈ (template u).refs,
      q ∈ (template t).refs ∨ ∃ v ∈ vs, q ∈ v.refs := by
  rcases vs with _ | ⟨v, vs⟩
  · exact ⟨t, rfl, fun q hq => .inl hq⟩
  · cases v with
    | object root =>
        refine ⟨_, rfl, fun q hq => ?_⟩
        rcases List.mem_append.mp hq with serializer | rest
        · exact .inl (List.mem_append_left _ serializer)
        · rcases List.mem_cons.mp rest with rfl | default
          · exact .inr ⟨_, List.mem_cons_self, List.mem_cons_self⟩
          · rcases List.mem_flatMap.mp default with ⟨e, he, hq⟩
            exact .inr ⟨e.2, List.mem_cons_of_mem _ (List.of_mem_zip he).2, hq⟩
    | _ => exact ⟨t, rfl, fun q hq => .inl hq⟩

theorem Body.mem_refs_withParts {b : Body} {vs : List Value} {q : Ref}
    (mem : q ∈ (b.withParts vs).refs) : q ∈ b.refs ∨ ∃ v ∈ vs, q ∈ v.refs := by
  cases b with
  | array elements =>
      rw [withParts, refs, List.flatMap_map] at mem
      rcases List.mem_flatMap.mp mem with ⟨v, hv, hq⟩
      exact .inr ⟨v, hv, hq⟩
  | map entries =>
      rcases mem_refs_entriesOf mem with ⟨e, he, hq⟩
      rcases mem_of_mem_pairUp he with ⟨first, second⟩
      rcases List.mem_append.mp hq with hq | hq
      · exact .inr ⟨_, first, hq⟩
      · exact .inr ⟨_, second, hq⟩
  | set elements => exact .inr (mem_refs_elementsOf mem)
  | template t =>
      rcases withParts_template t vs with ⟨u, same, refs⟩
      rw [same] at mem
      exact refs q mem
  | _ => exact .inl mem

/-- An object that is filled with other values refers to these, and to what it refers to
    anyway. -/
theorem Object.mem_refs_withParts {o : Object} {vs : List Value} {q : Ref}
    (mem : q ∈ (o.withParts vs).refs) : q ∈ o.refs ∨ ∃ v ∈ vs, q ∈ v.refs := by
  rcases List.mem_append.mp mem with outer | body
  · rcases List.mem_append.mp outer with above | field
    · exact .inl (List.mem_append_left _ (List.mem_append_left _ above))
    · exact ((Keyed.refs_withParts _ _).1 q field).imp
        (fun old => List.mem_append_left _ (List.mem_append_right _ old)) id
  · rcases Body.mem_refs_withParts body with old | ⟨v, hv, hq⟩
    · exact .inl (List.mem_append_right _ old)
    · exact .inr ⟨v, (Keyed.refs_withParts _ _).2 v hv, hq⟩

/-- What a copy starts from refers to nothing else than the object. -/
theorem Object.mem_refs_ordinaryShell {o : Object} {q : Ref} (mem : q ∈ o.ordinaryShell.refs) :
    q ∈ o.refs := by
  rcases List.mem_append.mp mem with outer | body
  · exact List.mem_append_left _ outer
  · refine List.mem_append_right _ ?_
    unfold ordinaryShell at body
    dsimp only at body
    split at body
    · next t same =>
        rw [same]
        exact body
    · next p same =>
        rw [same]
        exact body
    · cases body

namespace Store

variable {interp : Interpretation} {base st st' st'' : Store} {r q : Ref} {o : Object} {v : Value}

/-! ### Intact stores -/

theorem Holds.extends (held : st.Holds v) (h : st.Extends st') : st'.Holds v :=
  fun q hq => Nat.lt_of_lt_of_le (held q hq) h.size_le

theorem holds_object (inside : r.index < st.objects.size) : st.Holds (.object r) := by
  intro q hq
  rw [List.mem_singleton.mp hq]
  exact inside

theorem holds_of_simple (simple : v.refs = []) : st.Holds v := by
  intro q hq
  rw [simple] at hq
  cases hq

/-- What an object inherits from is told by its prototype. -/
theorem inherits_of_prototype (same : (st.get q).prototype = (st.get r).prototype) (f : Family) :
    st.inherits q f = st.inherits r f := by
  rw [inherits, inherits, rootFamily?, rootFamily?, rootFamilyWithin, rootFamilyWithin, same]

/-- A store stays intact if an object is added that refers to objects, and that is a
    template if it counts as one. -/
theorem Intact.push_object (intact : st.Intact) (held : ∀ q ∈ o.refs, q.index < st.objects.size)
    (template : (st.push o).inherits st.next (.template .prompt) = true →
      ((st.push o).template? st.next).isSome = true) : (st.push o).Intact := by
  refine intact.of_extends (extends_push _ _) fun r above below => ?_
  rw [size_push] at below
  have last : r = st.next := Ref.eq_of_index (Nat.le_antisymm (Nat.le_of_lt_succ below) above)
  rw [last]
  refine ⟨fun q hq => ?_, template⟩
  rw [get_push_next] at hq
  rw [size_push]
  exact Nat.lt_succ_of_lt (held q hq)

/-- That is so if the object is of a family of other objects. -/
theorem Intact.push_family (intact : st.Intact) (held : ∀ q ∈ o.refs, q.index < st.objects.size)
    {f : Family} (next : o.prototype = .family f) (other : f.isA (.template .prompt) = false) :
    (st.push o).Intact := by
  refine intact.push_object held fun inherits => ?_
  rw [inherits_of_family (by rw [get_push_next]; exact next), other] at inherits
  cases inherits

/-- It is also so if the object has the prototype of another one, and is a template if
    that one is. -/
theorem Intact.push_shell (intact : st.Intact) (inside : r.index < st.objects.size) :
    (st.push (st.get r).ordinaryShell).Intact := by
  have grown := extends_push st (st.get r).ordinaryShell
  refine intact.push_object (fun q hq => ?_) fun inherits => ?_
  · exact intact.closed r inside q (Object.mem_refs_ordinaryShell hq)
  · have same : ((st.push (st.get r).ordinaryShell).get st.next).prototype
        = ((st.push (st.get r).ordinaryShell).get r).prototype := by
      rw [get_push_next, grown.get_eq r inside]
      rfl
    rw [inherits_of_prototype same, grown.inherits_eq intact.closed inside] at inherits
    rcases intact.untouched r inherits with ⟨t, there⟩
    rw [template?, get_push_next, Object.ordinaryShell, body_of_template? there]
    rfl

/-- A store stays intact if an object is filled with values that are there. -/
theorem Intact.fill (intact : st.Intact) (inside : r.index < st.objects.size) {vs : List Value}
    (held : ∀ v ∈ vs, st.Holds v) : (st.write r ((st.get r).withParts vs)).Intact := by
  have self := get_write_self (o := (st.get r).withParts vs) inside
  have others : ∀ q, q ≠ r → (st.write r ((st.get r).withParts vs)).get q = st.get q :=
    fun q apart => get_write_ne apart
  refine ⟨fun q hq p hp => ?_, fun q inherits => ?_⟩
  · rw [size_write] at hq ⊢
    by_cases same : q = r
    · rw [same, self] at hp
      rcases Object.mem_refs_withParts hp with old | ⟨v, hv, new⟩
      · exact intact.closed r inside p old
      · exact held v hv p new
    · rw [others q same] at hp
      exact intact.closed q hq p hp
  · have prototypes : ∀ q, ((st.write r ((st.get r).withParts vs)).get q).prototype
        = (st.get q).prototype := by
      intro q
      by_cases same : q = r
      · rw [same, self]
        rfl
      · rw [others q same]
    rw [inherits_congr prototypes size_write] at inherits
    rcases intact.untouched q inherits with ⟨t, there⟩
    by_cases same : q = r
    · subst same
      rcases Body.withParts_template t (Keyed.withParts (st.get q).fields vs).2 with ⟨u, filled, -⟩
      refine ⟨u, template?_of_body ?_⟩
      rw [self, ← filled, ← body_of_template? there]
      rfl
    · exact ⟨t, by rw [template?, others q same]; exact there⟩

/-- A store has grown, and it is intact. -/
structure GrowsTo (st st' : Store) : Prop where
  grown : st.Extends st'
  intact : st'.Intact

theorem GrowsTo.trans (first : st.GrowsTo st') (second : st'.GrowsTo st'') : st.GrowsTo st'' :=
  ⟨first.grown.trans second.grown, second.intact⟩

end Store

/-! ### Functions -/

/-- What a call gives is there, or it is a new object with which the store is intact as
    well. A new object cannot be called. -/
def Answer.Fits (st : Store) : Answer → Prop
  | existing v => st.Holds v
  | fresh o => (st.push o).Intact ∧ o.isFunction = false

/-- In all intact stores that have grown from a first one, functions that are called with
    what is there give what fits. -/
def Interpretation.Fits (interp : Interpretation) (base : Store) : Prop :=
  ∀ ⦃st : Store⦄ ⦃p : Procedure⦄ ⦃receiver argument : Value⦄ ⦃answer : Answer⦄, base.GrowsTo st →
    (∀ q ∈ (Body.function p).refs, q.index < st.objects.size) → st.Holds receiver →
    st.Holds argument → interp.call st p receiver argument = .ok answer → answer.Fits st

/-- What a copy starts from is there, or the store is intact with it as well. -/
def Shell.Fits (st : Store) : Shell → Prop
  | .object o => (st.push o).Intact
  | .finished r => r.index < st.objects.size

namespace Store

variable {interp : Interpretation} {base st st' : Store} {r : Ref} {v : Value} {answer : Answer}

theorem GrowsTo.settle (start : base.GrowsTo st) (fits : answer.Fits st) :
    base.GrowsTo (answer.settle st).1 ∧ (answer.settle st).1.Holds (answer.settle st).2 := by
  cases answer with
  | existing v => exact ⟨start, fits⟩
  | fresh o =>
      exact ⟨⟨start.grown.trans (extends_push st o), fits.1⟩, holds_object (index_next_lt st o)⟩

theorem refs_milliseconds (instant : Option Instant) : (milliseconds instant).refs = [] := by
  cases instant <;> rfl

/-- What a native method gives is there. -/
theorem holds_nativeValue (closed : st.Closed) (inside : r.index < st.objects.size) {m : Method}
    {f : Family} (h : st.nativeValue r m f = .ok v) : st.Holds v := by
  have boxed : ∀ {w : Value}, (st.get r).body = .boxed w → st.Holds w := by
    intro w body q hq
    refine closed.body inside ?_
    rw [body]
    exact hq
  unfold nativeValue at h
  split at h
  · cases h
    exact holds_object inside
  · cases h
    exact holds_of_simple (refs_milliseconds _)
  · cases h
    exact holds_of_simple (refs_milliseconds _)
  · cases h
  · cases h
  · next w body =>
      split at h
      · cases h
        exact boxed body
      · cases h
  · cases h
  · cases h
    exact holds_of_simple rfl
  · cases h
  · cases h
  · rw [misplaced] at h
    cases h

section

variable (sound : interp.Fits base) (start : base.GrowsTo st)

include sound start

theorem fits_call {f : Ref} {receiver argument : Value} (held : st.Holds receiver)
    (held' : st.Holds argument) (h : st.call interp f receiver argument = .ok answer) :
    answer.Fits st := by
  rw [call] at h
  split at h
  · next p body =>
      have inside : f.index < st.objects.size := by
        refine index_lt_of_isFunction ?_
        rw [Object.isFunction, body]
      exact sound start (fun q hq => start.intact.closed.body inside (body ▸ hq)) held held' h
  · cases h

/-- What is computed by a function that is there can be called only if it was there. -/
theorem GrowsTo.readSlot {slot : Slot} {receiver : Value} (held : st.Holds receiver)
    (refs : ∀ q ∈ slot.refs, q.index < st.objects.size)
    (h : st.readSlot interp receiver slot = .ok (st', v)) :
    base.GrowsTo st' ∧ st'.Holds v ∧ (∀ f, st'.functionRef? v = some f → st' = st) := by
  cases slot with
  | data w =>
      cases h
      exact ⟨start, refs, fun _ _ => rfl⟩
  | accessor getter setter =>
    cases getter with
    | none =>
      cases h
      exact ⟨start, holds_of_simple rfl, fun _ _ => rfl⟩
    | some getter =>
      rcases ok_of_bind h with ⟨answer, given, settled⟩
      have fits := fits_call sound start held (holds_of_simple rfl) given
      have same : answer.settle st = (st', v) := Except.ok.inj settled
      have settle := start.settle fits
      rw [same] at settle
      refine ⟨settle.1, settle.2, fun f callable => ?_⟩
      cases answer with
      | existing w =>
          cases same
          rfl
      | fresh o =>
          cases same
          rw [functionRef?, get_push_next, fits.2] at callable
          cases callable

/-- What is found under a name that nothing computes is there, once it was read. -/
theorem GrowsTo.read (inside : r.index < st.objects.size) {name : String}
    (uncomputed : IsUncomputed name) (h : st.read interp r (.text name) = .ok (st', v)) :
    base.GrowsTo st' ∧ st'.Holds v := by
  rw [Store.read, readWithin] at h
  split at h
  · next p holder found =>
      have refs := start.intact.closed.found inside found
      have reads := GrowsTo.readSlot sound start (holds_object inside) refs h
      exact ⟨reads.1, reads.2.1⟩
  · cases h
    exact ⟨start, holds_of_simple rfl⟩
  · cases h
    exact ⟨start, holds_of_simple rfl⟩
  · next p holder found =>
      rw [find?] at found
      exact absurd found (findWithin_uncomputed uncomputed _ r p holder)
  · cases h
    exact ⟨start, holds_of_simple rfl⟩

/-- A method that an object has was there before it was looked up. -/
theorem GrowsTo.eq_of_method (inside : r.index < st.objects.size) {name : String} {callee : Callee}
    (h : st.method? interp r name = .ok (st', some callee)) : st' = st := by
  rw [method?] at h
  split at h
  · next p holder found =>
      rcases ok_of_bind h with ⟨⟨st'', v⟩, read, same⟩
      have same : (.ok (st'', (st''.functionRef? v).map .function) : Except Thrown _)
          = .ok (st', some callee) := same
      cases callable : st''.functionRef? v with
      | none =>
          rw [callable] at same
          cases same
      | some f =>
          rw [callable] at same
          cases same
          have refs := start.intact.closed.found inside found
          exact (GrowsTo.readSlot sound start (holds_object inside) refs read).2.2 f callable
  · cases h
    rfl
  · cases h

/-- What a method without arguments gives fits. -/
theorem fits_invoke (inside : r.index < st.objects.size) {subject name : String}
    (h : st.invoke interp subject r name = .ok answer) : answer.Fits st := by
  rcases ok_of_bind h with ⟨⟨st', callee⟩, found, next⟩
  cases callee with
  | none => cases next
  | some callee =>
      cases GrowsTo.eq_of_method sound start inside found
      cases callee with
      | function f => exact fits_call sound start (holds_object inside) (holds_of_simple rfl) next
      | native m f =>
          rcases ok_of_bind next with ⟨v, given, same⟩
          cases same
          exact holds_nativeValue start.intact.closed inside given

/-- Elements that are read are there. -/
theorem GrowsTo.elementsFrom (inside : r.index < st.objects.size) {elements : List (Option Value)}
    {i : Nat} {vs : List Value} (held : ∀ v, some v ∈ elements → st.Holds v)
    (h : (reader interp).elementsFrom r st i elements = .ok (st', vs)) :
    base.GrowsTo st' ∧ ∀ v ∈ vs, st'.Holds v := by
  induction elements generalizing st i vs with
  | nil =>
      cases h
      exact ⟨start, fun _ mem => absurd mem List.not_mem_nil⟩
  | cons element more ih =>
      cases element with
      | some w =>
          rcases ok_of_bind h with ⟨result, rest, same⟩
          cases same
          rcases ih start inside (fun v hv => held v (List.mem_cons_of_mem _ hv)) rest with
            ⟨grows, others⟩
          refine ⟨grows, fun v hv => ?_⟩
          rcases List.mem_cons.mp hv with rfl | hv
          · exact (held _ List.mem_cons_self).extends (extends_elementsFrom rest)
          · exact others v hv
      | none =>
          rcases ok_of_bind h with ⟨first, read, next⟩
          rcases ok_of_bind next with ⟨result, rest, same⟩
          cases same
          have grown := extends_read (isUncomputed_indexName i) read
          rcases GrowsTo.read sound start inside (isUncomputed_indexName i) read with
            ⟨start', here⟩
          rcases ih start' (Nat.lt_of_lt_of_le inside grown.size_le)
            (fun v hv => (held v (List.mem_cons_of_mem _ hv)).extends grown) rest with
            ⟨grows, others⟩
          refine ⟨grows, fun v hv => ?_⟩
          rcases List.mem_cons.mp hv with rfl | hv
          · exact here.extends (extends_elementsFrom rest)
          · exact others v hv

/-- Elements of an array are there once they were visited. -/
theorem GrowsTo.visit {elements : List (Option Value)} {refusal : String} {vs : List Value}
    (body : (st.get r).body = .array elements)
    (h : st.visit interp refusal (.object r) = .ok (st', vs)) :
    base.GrowsTo st' ∧ ∀ v ∈ vs, st'.Holds v := by
  have inside : r.index < st.objects.size := index_lt_of_body (by rw [body]; exact nofun)
  have held : ∀ v, some v ∈ (st.get r).indexed → st.Holds v := fun v hv q hq =>
    start.intact.closed.body inside (Object.refs_of_mem_indexed hv hq)
  exact GrowsTo.elementsFrom sound start inside held (elementsFrom_of_visit body h)

end

/-! ### Shells -/

/-- What wraps a value is there, or it can be. -/
theorem GrowsTo.wrapperShell (start : base.GrowsTo st) (fits : answer.Fits st) :
    base.GrowsTo (st.wrapperShell answer).1
      ∧ (st.wrapperShell answer).2.Fits (st.wrapperShell answer).1 := by
  cases answer with
  | existing v =>
      cases v with
      | object q => exact ⟨start, fits q List.mem_cons_self⟩
      | _ => exact ⟨start, start.intact.push_family (fun q hq => nomatch hq) rfl rfl⟩
  | fresh o =>
      exact ⟨⟨start.grown.trans (extends_push st o), fits.1⟩, index_next_lt st o⟩

/-- A new object of a built-in kind that is no template. -/
theorem Intact.push_body (intact : st.Intact) {b : Body}
    (held : ∀ q ∈ b.refs, q.index < st.objects.size)
    (other : b.family.isA (.template .prompt) = false) : (st.push (Object.ofBody b)).Intact :=
  intact.push_family held rfl other

/-- What a copy starts from is there, or it can be. -/
theorem GrowsTo.shell (sound : interp.Fits base) (start : base.GrowsTo st)
    (inside : r.index < st.objects.size) {shell : Shell}
    (h : st.shell interp r = .ok (st', shell)) : base.GrowsTo st' ∧ shell.Fits st' := by
  have held : ∀ q ∈ (st.get r).body.refs, q.index < st.objects.size :=
    fun q hq => start.intact.closed.body inside hq
  cases shellOf_shell h with
  | made state family kind =>
      refine ⟨start, start.intact.push_body (fun q hq => ?_) ?_⟩
      · rw [state] at hq
        cases hq
      · rw [family]
        exact kind _ (by decide)
  | wrapped kind given => exact start.wrapperShell (fits_invoke sound start inside given)
  | array body visited =>
      rcases GrowsTo.visit sound start body visited with ⟨grows, there⟩
      refine ⟨grows, grows.intact.push_body (fun q hq => ?_) rfl⟩
      rw [Body.refs, List.flatMap_map] at hq
      rcases List.mem_flatMap.mp hq with ⟨v, hv, hq⟩
      exact there v hv q hq
  | map body => exact ⟨start, start.intact.push_body (body ▸ held) rfl⟩
  | set body => exact ⟨start, start.intact.push_body (body ▸ held) rfl⟩
  | same kind => exact ⟨start, start.intact.push_shell inside⟩

end Store

/-! ### Copies -/

/-- The store has grown and is intact, and the copies are there that were made so far. -/
structure Copying.Fits (base : Store) (state : Copying) : Prop where
  store : base.GrowsTo state.store
  copies : ∀ e ∈ state.copies, e.2.index < state.store.objects.size

namespace Copying

open Store

variable {interp : Interpretation} {base : Store} {state state' : Copying} {v w : Value}

/-- Copying values one after the other, if copying each leaves what fits. -/
theorem Fits.each {copy : Copying → Value → Except Thrown (Copying × Value)}
    (one : ∀ {state : Copying} {v : Value} {state' : Copying} {w : Value}, state.Fits base →
      state.store.Holds v → copy state v = .ok (state', w) →
      state'.Fits base ∧ state.store.Extends state'.store ∧ state'.store.Holds w)
    {vs ws : List Value} (fits : state.Fits base) (held : ∀ v ∈ vs, state.store.Holds v)
    (h : each copy state vs = .ok (state', ws)) :
    state'.Fits base ∧ state.store.Extends state'.store ∧ ∀ w ∈ ws, state'.store.Holds w := by
  induction vs generalizing state ws with
  | nil =>
      cases h
      exact ⟨fits, .refl _, fun _ mem => absurd mem List.not_mem_nil⟩
  | cons v vs ih =>
      rcases ok_of_bind h with ⟨⟨mid, w⟩, copied, next⟩
      rcases ok_of_bind next with ⟨⟨last, ws⟩, others, same⟩
      cases same
      rcases one fits (held v List.mem_cons_self) copied with ⟨fits', grown, here⟩
      rcases ih fits' (fun u hu => (held u (List.mem_cons_of_mem _ hu)).extends grown) others with
        ⟨fits'', grown', there⟩
      refine ⟨fits'', grown.trans grown', fun u hu => ?_⟩
      rcases List.mem_cons.mp hu with rfl | hu
      · exact here.extends grown'
      · exact there u hu

/-- A copy that is begun fits: the shell is the new object, and what it holds is there. -/
theorem Fits.begin {st : Store} {r : Ref} {o : Object} (fits : state.Fits base)
    (grows : base.GrowsTo st) (grown : state.store.Extends st) (intact : (st.push o).Intact) :
    Fits base { store := st.push o, copies := (r, st.next) :: state.copies }
      ∧ ∀ v ∈ o.parts, (st.push o).Holds v := by
  have pushed := extends_push st o
  have new := index_next_lt st o
  refine ⟨⟨⟨grows.grown.trans pushed, intact⟩, fun e he => ?_⟩, fun v hv q hq => ?_⟩
  · rcases List.mem_cons.mp he with rfl | he
    · exact new
    · exact Nat.lt_of_lt_of_le (fits.copies e he) (grown.trans pushed).size_le
  · -- What the shell holds is what the pushed object refers to.
    refine intact.closed st.next new q ?_
    rw [get_push_next]
    exact Object.mem_refs_of_mem_held (List.mem_flatMap.mpr ⟨v, hv, hq⟩)

/-- Copying a value leaves what fits. -/
theorem Fits.value (sound : interp.Fits base) {bound : Nat} (fits : state.Fits base)
    (held : state.store.Holds v) (h : value interp bound state v = .ok (state', w)) :
    state'.Fits base ∧ state.store.Extends state'.store ∧ state'.store.Holds w := by
  induction bound generalizing state state' v w with
  | zero => cases h
  | succ bound ih =>
      cases v with
      | object r =>
          have inside : r.index < state.store.objects.size := held r List.mem_cons_self
          have grown := extends_copyingValue h
          cases copyOf_value h with
          | function callable => exact ⟨fits, .refl _, held⟩
          | known object found =>
              exact ⟨fits, .refl _, holds_object (fits.copies _ (mem_of_lookup found))⟩
          | finished object found =>
              rcases GrowsTo.shell sound fits.store inside found with ⟨grows, there⟩
              refine ⟨⟨grows, fun e he => ?_⟩, grown, holds_object there⟩
              rcases List.mem_cons.mp he with rfl | he
              · exact there
              · exact Nat.lt_of_lt_of_le (fits.copies e he) (extends_shell found).size_le
          | @filled st o filled vs object found each =>
              rcases GrowsTo.shell sound fits.store inside found with ⟨grows, intact⟩
              -- The shell is there before its parts are copied, and filled after that.
              have new := index_next_lt st o
              rcases fits.begin (r := r) grows (extends_shell found) intact with ⟨begun, parts⟩
              rcases Fits.each ih begun parts each with ⟨fits', grown', there⟩
              have still : filled.store.get st.next = o :=
                (grown'.get_eq _ new).trans get_push_next
              have inside' := Nat.lt_of_lt_of_le new grown'.size_le
              have intact' := fits'.store.intact.fill inside' there
              rw [still] at intact'
              refine ⟨⟨⟨fits.store.grown.trans grown, intact'⟩, fun e he => ?_⟩, grown,
                holds_object ?_⟩
              · rw [size_write]
                exact fits'.copies e he
              · rw [size_write]
                exact inside'
      | _ =>
          cases h
          exact ⟨fits, .refl _, held⟩

end Copying

/-- Copying a value leaves the store intact. -/
theorem Store.GrowsTo.copy {interp : Interpretation} {base st st' : Store} {v w : Value}
    (sound : interp.Fits base) (start : base.GrowsTo st) (held : st.Holds v)
    (h : st.copy interp v = .ok (st', w)) : st.GrowsTo st' ∧ st'.Holds w := by
  rcases ok_of_bind h with ⟨⟨state, copy⟩, copied, same⟩
  cases same
  have begun : Copying.Fits base { store := st } :=
    ⟨start, fun _ mem => absurd mem List.not_mem_nil⟩
  rcases Copying.Fits.value sound begun held copied with ⟨fits, grown, there⟩
  exact ⟨⟨grown, fits.store.intact⟩, there⟩

/-! ### Copies of templates -/

namespace Template

open Store

variable {interp : Interpretation} {base start st : Store} {copyTemplate : Ref → Action Value}

/-- Copies of templates leave a store intact. -/
def StaysIntact (base : Store) (copyTemplate : Ref → Action Value) : Prop :=
  ∀ ⦃inner : Ref⦄ ⦃t : Template⦄ ⦃st : Store⦄, base.GrowsTo st → st.template? inner = some t →
    (copyTemplate inner).Ensures True st fun w st' => st.GrowsTo st' ∧ st'.Holds w

section

variable (sound : interp.Fits base) (copies : StaysIntact base copyTemplate)

include sound copies

/-- Copying a value or a template leaves the store intact. -/
theorem ensures_copied_intact {v : Value} (grows : base.GrowsTo st) (held : st.Holds v) :
    (copied interp copyTemplate v).Ensures True st fun w st' => st.GrowsTo st' ∧ st'.Holds w := by
  refine Action.ensures_bind_asking ?_
  cases found : st.templateRef? v with
  | none => exact Action.ensures_reading fun w st' copied => grows.copy sound held copied
  | some inner =>
      rcases grows.intact.untouched.template found with ⟨t, there⟩
      exact copies grows there

/-- So does storing copies in a template that was derived. -/
theorem ensures_storeAll_intact {entries : List (String × Value)} (grows : base.GrowsTo start)
    (held : ∀ e ∈ entries, start.Holds e.2) {u : Template} (grows' : start.GrowsTo st)
    (there : st.template? start.next = some u) :
    (storeAll interp copyTemplate start.next entries).Ensures True st fun _ st' =>
      start.GrowsTo st' ∧ ∃ u', st'.template? start.next = some u' := by
  refine ensures_storeAll_of_step (fun _ st' =>
    start.GrowsTo st' ∧ ∃ u', st'.template? start.next = some u') ?_ ⟨grows', u, there⟩
  rintro before ⟨key, v⟩ after mid split ⟨grows'', u', there'⟩
  have inside : start.Holds v := held _ (split ▸ List.mem_append_right _ List.mem_cons_self)
  refine ensures_storeOne (isSealed_of_template? there') (fun _ => ⟨grows'', u', there'⟩)
    fun _ => ?_
  refine Action.ensures_mono (ensures_copied_intact sound copies (grows.trans grows'')
    (inside.extends grows''.grown)) ?_
  rintro w st' ⟨copied, inside'⟩
  -- The copy is made first, and the template changes after that.
  have still := copied.grown.template? there'
  exact ⟨⟨(extendsBut_putDefault still).after (grows''.grown.trans copied.grown)
    (Nat.le_refl _), copied.intact.putDefault still inside'⟩, _, template?_putDefault still⟩

end

theorem staysIntact_copyWithin (sound : interp.Fits base) (allowance : Nat) :
    StaysIntact base (copyWithin interp allowance) := by
  induction allowance with
  | zero => exact fun _ _ _ _ _ => ⟨trivial, .tooDeep, rfl⟩
  | succ allowance ih =>
      intro r t st grows there
      refine Action.ensures_bind_asking ?_
      rw [there]
      rcases derive_ok st t t.parses with ⟨u, derived, gives, added⟩
      refine Action.ensures_bind_ok gives ?_
      rw [added]
      have pushed : st.GrowsTo (st.push (Object.ofBody (.template u))) :=
        ⟨extends_push _ _, grows.intact.push (inside_of_derived grows.intact there derived)⟩
      refine Action.ensures_bind (ensures_storeAll_intact sound ih grows
        (fun e he => grows.intact.closed.default there he) pushed (template?_push_next st u)) ?_
      rintro _ st' ⟨grows', u', there'⟩
      exact ⟨grows', holds_object (index_lt_of_template? there')⟩

theorem staysIntact_copy (sound : interp.Fits base) : StaysIntact base (copy interp) :=
  fun _ _ _ grows there =>
    Action.ensures_bind_asking (staysIntact_copyWithin sound _ grows there)

end Template

/-! ### Procedures that do what their names say -/

namespace Interpretation

variable {interp : Interpretation} {base st : Store} {v : Value} {answer : Answer}

theorem fits_text {s : String} : Answer.Fits st (.existing (.text s)) :=
  Store.holds_of_simple rfl

/-- Joining the elements of an array gives what its method gives, or a text. -/
theorem fits_joined (sound : interp.Fits base) (start : base.GrowsTo st) (held : st.Holds v)
    (h : st.joined interp v = .ok answer) : answer.Fits st := by
  have whole : ∀ {v : Value} {answer : Answer},
      (do return Answer.existing (.text (← st.describe interp v))) = Except.ok answer →
      answer.Fits st := by
    intro v answer h
    rcases ok_of_bind h with ⟨s, -, same⟩
    cases same
    exact fits_text
  cases v with
  | object r =>
      rw [Store.joined] at h
      split at h
      · rcases ok_of_bind h with ⟨⟨st', callee⟩, found, next⟩
        have inside : r.index < st.objects.size := held r List.mem_cons_self
        split at next
        · next f same =>
            cases same
            cases Store.GrowsTo.eq_of_method sound start inside found
            exact Store.fits_call sound start held (Store.holds_of_simple rfl) next
        · next f same =>
            cases same
            cases Store.GrowsTo.eq_of_method sound start inside found
            rcases ok_of_bind next with ⟨s, -, same⟩
            cases same
            exact fits_text
        · cases next
      · exact whole h
  | _ => exact whole h

/-- Twice a value is a number. -/
theorem refs_doubledNumber {w : Value} (h : Routine.doubledNumber interp st v = .ok w) :
    w.refs = [] := by
  rcases ok_of_bind h with ⟨u, -, next⟩
  split at next
  · cases next
  · rcases ok_of_bind next with ⟨n, -, same⟩
    cases same
    rfl

/-- What a routine gives fits, if what it calls does. -/
theorem fits_routine (sound : interp.Fits base) (enough : 2 ≤ base.objects.size)
    (start : base.GrowsTo st) {receiver argument : Value} (held : st.Holds receiver)
    (held' : st.Holds argument) {r : Routine}
    (h : r.run interp st receiver argument = .ok answer) : answer.Fits st := by
  -- Only joining gives what a method gave. All else is something simple, a new object or
  -- what the routine was called with.
  cases r with
  | text =>
      rcases ok_of_bind h with ⟨s, -, same⟩
      cases same
      exact fits_text
  | joined => exact fits_joined sound start held' h
  | json =>
      rcases ok_of_bind h with ⟨s, -, same⟩
      cases same
      cases s with
      | none => exact Store.holds_of_simple rfl
      | some s => exact fits_text
  | bracketed =>
      rcases ok_of_bind h with ⟨v, -, next⟩
      rcases ok_of_bind next with ⟨s, -, same⟩
      cases same
      exact fits_text
  | typeName =>
      rcases ok_of_bind h with ⟨s, -, same⟩
      cases same
      exact fits_text
  | doubled =>
      rcases ok_of_bind h with ⟨v, given, same⟩
      cases same
      exact Store.holds_of_simple (refs_doubledNumber given)
  | okDoubled =>
      rcases ok_of_bind h with ⟨v, given, same⟩
      cases same
      have none := refs_doubledNumber given
      refine ⟨start.intact.push_family (fun q hq => ?_) rfl rfl, rfl⟩
      have refs : (Result.okObject v).refs = (v.refs ++ []) ++ [] := rfl
      rw [refs, none] at hq
      cases hq
  | wrapped =>
      rcases ok_of_bind h with ⟨message, -, same⟩
      cases same
      refine ⟨start.intact.push_family (fun q hq => ?_) rfl rfl, rfl⟩
      have refs : (Object.error .error ("wrapped: " ++ message)).refs
          = List.replicate 2 Object.traceFunction := rfl
      rw [refs] at hq
      rw [List.eq_of_mem_replicate hq]
      exact Nat.lt_of_lt_of_le enough start.grown.size_le
  | argument =>
      cases h
      exact held'
  | receiver =>
      cases h
      exact held

/-- What a procedure gives fits, if what it calls does. -/
theorem fits_run (sound : interp.Fits base) (enough : 2 ≤ base.objects.size) :
    (ofCalls (Procedure.run interp)).Fits base := by
  intro st p receiver argument answer start refs held held' h
  cases p with
  | silent =>
      cases h
      exact Store.holds_of_simple rfl
  | constant v =>
      cases h
      exact refs
  | raising v => cases h
  | failing kind message => cases h
  | routine r => exact fits_routine sound enough start held held' h

/-- What procedures give that do what their names say is there, or it is new. -/
theorem fits_standard (enough : 2 ≤ base.objects.size) : Interpretation.standard.Fits base := by
  have each : ∀ n, (level n).Fits base := by
    intro n
    induction n with
    | zero =>
        intro st p receiver argument answer _ _ _ _ h
        cases h
    | succ n ih => exact fits_run ih enough
  exact each 4

end Interpretation

end Stencil
