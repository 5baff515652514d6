import Stencil.Proofs.Creating
import Stencil.Proofs.InputCopies
import Stencil.Proofs.Maintaining
import Stencil.Proofs.Reporting
import Stencil.Proofs.StoredDefaults

/-!
# Templates That Share Nothing

What operations on templates leave alone when callers hold many templates and
write to their own objects.

The objects that matter are those that templates lead to by their defaults.
These are kept: nobody but a template has them, and no operation changes them
once they are there. They are plain data, or templates that were copied when
they were stored. `Store.Guarded` says so of the templates that are held and of
a set of addresses. The templates that are held are not among what is kept,
since they do change when they are given defaults.

An operation makes the set of what is kept greater, also if it fails halfway, as
a default can have been stored by then. So what is said of an operation,
`Action.Guards`, is said of the store that it leaves behind in any case, and
only its result is left to success. Besides new objects there is one that
changes at most, the template that is given defaults.

A template that is copied or derived is held for as long as it is given its
defaults. Then a copy joins what is kept, while one that was derived for the
caller stays held.

## Main definitions

* `Store.Keeps`: A template whose defaults are kept.
* `Store.Guarded`: Templates that are held, and what is kept for them.
* `Store.Passes`: A value that can be passed to operations.
* `Store.Grows`: Objects are added, and some templates change.
* `Action.Guards`: What an operation leaves alone.

## Theorems

* `Store.Guarded.after`: What is guarded remains so.
* `Action.guards_bind`: Operations one after the other.
* `Template.guards_storeAll`, `Template.guards_copyWithin`: Storing defaults.
* `Template.guards_setDefault`, `Template.guards_substitute`,
  `Template.guards_render`, `Template.guards_safeRender`,
  `Template.guards_equals`, `Exposed.guards_create`: The operations.
-/

namespace Stencil

namespace Store

/-- A template that nobody has reached into and whose defaults are kept. -/
def Keeps (st : Store) (kept : Set Ref) (r : Ref) : Prop :=
  ∃ t, st.get r = .ofBody (.template t) ∧ t.journal.root = globalLogger
    ∧ ∀ e ∈ t.defaults, ∀ q ∈ e.2.refs, q ∈ kept

/-- Templates that are held have defaults that are kept, and what is kept is
    templates of that kind and plain data. -/
structure Guarded (st : Store) (held kept : Set Ref) : Prop where
  held : ∀ r ∈ held, st.Keeps kept r
  kept : ∀ r ∈ kept, st.Keeps kept r ∨ ∃ S ⊆ kept, st.InputOn S ∧ r ∈ S

/-- Values that can be passed: plain data, and templates whose defaults are
    kept. -/
def Passes (st : Store) (kept : Set Ref) (v : Value) : Prop :=
  st.IsInput v ∨ ∃ r, v = .object r ∧ st.Keeps kept r

/-- Objects are added, and some of these are kept. Of the others, templates at some
    addresses change at most. -/
structure Grows (off : Set Ref) (st : Store) (kept : Set Ref) (st' : Store) (kept' : Set Ref) :
    Prop where
  size_le : st.objects.size ≤ st'.objects.size
  get_eq : ∀ r, r.index < st.objects.size → r ∉ off → st'.get r = st.get r
  template : ∀ r ∈ off, ¬ (st.get r).IsInput
  keeps : ∀ r ∈ off, st'.Keeps kept' r
  kept_le : kept ⊆ kept'
  added : ∀ r ∈ kept', r ∈ kept ∨ st.objects.size ≤ r.index

variable {st st' st'' : Store} {held held' kept kept' kept'' off : Set Ref} {r : Ref} {v w : Value}

/-! ### Templates whose defaults are kept -/

namespace Keeps

theorem templateRef? (keeps : st.Keeps kept r) : st.templateRef? (.object r) = some r := by
  rcases keeps with ⟨t, there, -⟩
  exact templateRef?_of_get there

theorem index_lt (keeps : st.Keeps kept r) : r.index < st.objects.size := by
  rcases keeps with ⟨t, there, -⟩
  exact index_lt_of_template? (template?_of_get there)

theorem isFunction (keeps : st.Keeps kept r) : (st.get r).isFunction = false := by
  rcases keeps with ⟨t, there, -⟩
  rw [there]
  rfl

theorem not_isInput (keeps : st.Keeps kept r) : ¬ (st.get r).IsInput := by
  rcases keeps with ⟨t, there, -⟩
  intro input
  rw [there] at input
  exact input.noTemplate t rfl

theorem of_same (keeps : st.Keeps kept r) (same : st'.get r = st.get r) (le : kept ⊆ kept') :
    st'.Keeps kept' r := by
  rcases keeps with ⟨t, there, root, defaults⟩
  exact ⟨t, same.trans there, root, fun e he q hq => le (defaults e he q hq)⟩

end Keeps

theorem Guarded.index_lt (guarded : st.Guarded held kept) (hr : r ∈ kept) :
    r.index < st.objects.size := by
  rcases guarded.kept r hr with keeps | ⟨S, -, on, mem⟩
  · exact keeps.index_lt
  · exact on.inside r mem

/-- What refers to nothing but what is kept is plain data that is kept, or a
    template. -/
theorem Guarded.stored (guarded : st.Guarded held kept) (among : ∀ q ∈ v.refs, q ∈ kept) :
    (∃ S ⊆ kept, st.InputOn S ∧ ∀ q ∈ v.refs, q ∈ S)
      ∨ ∃ r ∈ kept, v = .object r ∧ st.Keeps kept r := by
  cases v with
  | object r =>
      have mem := among r List.mem_cons_self
      rcases guarded.kept r mem with keeps | ⟨S, within, on, mem'⟩
      · exact .inr ⟨r, mem, rfl, keeps⟩
      · exact .inl ⟨S, within, on, fun q hq => List.mem_singleton.mp hq ▸ mem'⟩
  | _ =>
      refine .inl ⟨∅, Set.empty_subset kept, ⟨?_, ?_, ?_⟩, fun q hq => nomatch hq⟩
      · exact fun _ mem => absurd mem (Set.notMem_empty _)
      · exact fun _ mem => absurd mem (Set.notMem_empty _)
      · exact fun _ mem => absurd mem (Set.notMem_empty _)

/-- What refers to nothing but what is kept can be passed. -/
theorem Guarded.passes (guarded : st.Guarded held kept) (among : ∀ q ∈ v.refs, q ∈ kept) :
    st.Passes kept v := by
  rcases guarded.stored among with ⟨S, -, on, reached⟩ | ⟨r, -, rfl, keeps⟩
  · exact .inl ⟨S, on, reached⟩
  · exact .inr ⟨r, rfl, keeps⟩

/-- A template that is done being given defaults can be kept. -/
theorem Guarded.keep (guarded : st.Guarded ({r} ∪ held) kept) :
    st.Guarded held ({r} ∪ kept) := by
  have le : kept ⊆ {r} ∪ kept := Set.subset_union_right
  constructor
  · exact fun q hq => (guarded.held q (Set.mem_union_right {r} hq)).of_same rfl le
  · intro q hq
    rcases hq with rfl | hq
    · exact .inl ((guarded.held q (Set.mem_union_left held rfl)).of_same rfl le)
    · rcases guarded.kept q hq with keeps | ⟨S, among, on, mem⟩
      · exact .inl (keeps.of_same rfl le)
      · exact .inr ⟨S, among.trans le, on, mem⟩

theorem Guarded.mono (guarded : st.Guarded held' kept) (le : held ⊆ held') :
    st.Guarded held kept :=
  ⟨fun r hr => guarded.held r (le hr), guarded.kept⟩

/-! ### Growing -/

namespace Grows

theorem keeps_of (grows : Grows off st kept st' kept') (keeps : st.Keeps kept r) :
    st'.Keeps kept' r := by
  -- A template that might change is one that keeps its defaults all along.
  by_cases changed : r ∈ off
  · exact grows.keeps r changed
  · exact keeps.of_same (grows.get_eq r keeps.index_lt changed) grows.kept_le

theorem inputOn (grows : Grows off st kept st' kept') {S : Set Ref} (on : st.InputOn S) :
    st'.InputOn S :=
  on.of_same grows.size_le fun r hr =>
    grows.get_eq r (on.inside r hr) fun changed => grows.template r changed (on.input r hr)

theorem passes (grows : Grows off st kept st' kept') (passes : st.Passes kept v) :
    st'.Passes kept' v := by
  rcases passes with ⟨S, on, reached⟩ | ⟨r, rfl, keeps⟩
  · exact .inl ⟨S, grows.inputOn on, reached⟩
  · exact .inr ⟨r, rfl, grows.keeps_of keeps⟩

theorem trans (first : Grows off st kept st' kept') (second : Grows off st' kept' st'' kept'') :
    Grows off st kept st'' kept'' where
  size_le := Nat.le_trans first.size_le second.size_le
  get_eq r inside other := by
    rw [second.get_eq r (Nat.lt_of_lt_of_le inside first.size_le) other,
      first.get_eq r inside other]
  template := first.template
  keeps := second.keeps
  kept_le := first.kept_le.trans second.kept_le
  added r hr := by
    rcases second.added r hr with known | new
    · exact first.added r known
    · exact .inr (Nat.le_trans first.size_le new)

/-- What only grows keeps the templates that might change. -/
theorem weaken (grows : Grows ∅ st kept st' kept') (keeps : ∀ r ∈ off, st.Keeps kept r) :
    Grows off st kept st' kept' where
  size_le := grows.size_le
  get_eq r inside _ := grows.get_eq r inside (Set.notMem_empty r)
  template r hr := (keeps r hr).not_isInput
  keeps r hr := grows.keeps_of (keeps r hr)
  kept_le := grows.kept_le
  added := grows.added

/-- One more of the objects that were added is kept. -/
theorem keep (grows : Grows off st kept st' kept') (new : st.objects.size ≤ r.index) :
    Grows off st kept st' ({r} ∪ kept') where
  size_le := grows.size_le
  get_eq := grows.get_eq
  template := grows.template
  keeps q hq := (grows.keeps q hq).of_same rfl Set.subset_union_right
  kept_le := grows.kept_le.trans Set.subset_union_right
  added q hq := by
    rcases hq with rfl | hq
    · exact .inr new
    · exact grows.added q hq

/-- Some of what was added is kept. -/
theorem of_extends (h : st.Extends st') (le : kept ⊆ kept')
    (added : ∀ r ∈ kept', r ∈ kept ∨ st.objects.size ≤ r.index) : Grows ∅ st kept st' kept' where
  size_le := h.size_le
  get_eq r inside _ := h.get_eq r inside
  template r hr := absurd hr (Set.notMem_empty r)
  keeps r hr := absurd hr (Set.notMem_empty r)
  kept_le := le
  added := added

end Grows

theorem grows_of_extends (h : st.Extends st') : Grows ∅ st kept st' kept :=
  .of_extends h (le_refl kept) fun _ hr => .inl hr

/-- What is guarded remains so, if what is held or kept besides is of the same
    kind. -/
theorem Guarded.after (guarded : st.Guarded held kept) (grows : Grows off st kept st' kept')
    (newHeld : ∀ r ∈ held', r ∈ held ∨ st'.Keeps kept' r)
    (newKept : ∀ r ∈ kept', r ∈ kept ∨ ∃ S ⊆ kept', st'.InputOn S ∧ r ∈ S) :
    st'.Guarded held' kept' := by
  constructor
  · intro r hr
    rcases newHeld r hr with known | new
    · exact grows.keeps_of (guarded.held r known)
    · exact new
  · intro r hr
    rcases newKept r hr with known | new
    · rcases guarded.kept r known with keeps | ⟨S, among, on, mem⟩
      · exact .inl (grows.keeps_of keeps)
      · exact .inr ⟨S, among.trans grows.kept_le, grows.inputOn on, mem⟩
    · exact .inr new

theorem Guarded.extends (guarded : st.Guarded held kept) (h : st.Extends st') :
    st'.Guarded held kept :=
  guarded.after (grows_of_extends h) (fun _ hr => .inl hr) fun _ hr => .inl hr

/-- A copy of plain data can be kept. -/
theorem Guarded.copy {interp : Interpretation} (guarded : st.Guarded held kept)
    (input : st.IsInput v) (copied : st.copy interp v = .ok (st', w)) :
    Grows ∅ st kept st' (kept ∪ st.added st') ∧ st'.Guarded held (kept ∪ st.added st')
      ∧ ∀ q ∈ w.refs, q ∈ kept ∪ st.added st' := by
  rcases copy_input input copied with ⟨on, reached⟩
  have grows : Grows ∅ st kept st' (kept ∪ st.added st') := by
    refine .of_extends (extends_copy copied) Set.subset_union_left fun r hr => ?_
    exact hr.imp id fun new => new.1
  refine ⟨grows, ?_, fun q hq => .inr (reached q hq)⟩
  refine guarded.after grows (fun _ hr => .inl hr) fun r hr => ?_
  exact hr.imp id fun new => ⟨_, Set.subset_union_right, on, new⟩

/-- A new template without defaults can be held. -/
theorem Guarded.push {u : Template} (guarded : st.Guarded held kept)
    (root : u.journal.root = globalLogger) (none : u.defaults = []) :
    (st.push (.ofBody (.template u))).Guarded ({st.next} ∪ held) kept := by
  refine guarded.after (grows_of_extends (extends_push st _)) (fun r hr => ?_) fun _ hr => .inl hr
  rcases hr with rfl | known
  · refine .inr ⟨u, get_push_next, root, fun e he => ?_⟩
    rw [none] at he
    cases he
  · exact .inl known

/-- A template that is held can be given a default that is kept. -/
theorem Guarded.putDefault (guarded : st.Guarded held kept) (hr : r ∈ held) {key : String}
    (among : ∀ q ∈ v.refs, q ∈ kept) :
    Grows {r} st kept (st.putDefault r key v) kept
      ∧ (st.putDefault r key v).Guarded held kept := by
  rcases guarded.held r hr with ⟨t, there, root, defaults⟩
  have template := template?_of_get there
  have changed : st.ExtendsBut r (st.putDefault r key v) := extendsBut_putDefault template
  -- The template has one more default, or another one. Both what it is given and what it
  -- had is kept.
  have self : (st.putDefault r key v).Keeps kept r := by
    refine ⟨{ t with defaults := setDefaultValue key v t.defaults }, ?_, root, fun e he q hq => ?_⟩
    · rw [get_putDefault_self template, there]
      rfl
    · rcases mem_setDefaultValue he with new | old
      · exact among q (new ▸ hq)
      · exact defaults e old q hq
  have grows : Grows {r} st kept (st.putDefault r key v) kept := by
    refine ⟨changed.size_le, changed.get_eq, ?_, ?_, le_refl kept, fun _ h => .inl h⟩
    · exact fun q hq => hq ▸ (guarded.held r hr).not_isInput
    · exact fun q hq => hq ▸ self
  exact ⟨grows, guarded.after grows (fun _ h => .inl h) fun _ h => .inl h⟩

end Store

/-! ### Actions -/

namespace Action

open Store (Guarded Grows)

variable {α β : Type} {x : Action α} {f : α → Action β} {st : Store} {held off kept : Set Ref}
  {post mid : α → Store → Set Ref → Prop} {last : β → Store → Set Ref → Prop}

/-- Whatever comes of it, the action leaves alone what is kept and all that is not
    among some templates. If it succeeds, then a condition holds. -/
def Guards (x : Action α) (held off : Set Ref) (st : Store) (kept : Set Ref)
    (post : α → Store → Set Ref → Prop) : Prop :=
  ∃ kept', Grows off st kept (x.storeAfter st) kept' ∧ (x.storeAfter st).Guarded held kept'
    ∧ ∀ a, x.resultAt st = .ok a → post a (x.storeAfter st) kept'

/-- An action that only adds objects. -/
theorem guards_of_extends (guarded : st.Guarded held kept) (h : st.Extends (x.storeAfter st))
    (holds : ∀ a, x.resultAt st = .ok a → post a (x.storeAfter st) kept) :
    x.Guards held ∅ st kept post :=
  ⟨kept, Store.grows_of_extends h, guarded.extends h, holds⟩

theorem guards_mono (h : x.Guards held off st kept post)
    {weaker : α → Store → Set Ref → Prop}
    (imp : ∀ a st' kept', post a st' kept' → weaker a st' kept') :
    x.Guards held off st kept weaker := by
  rcases h with ⟨kept', grows, guarded, holds⟩
  exact ⟨kept', grows, guarded, fun a given => imp a _ kept' (holds a given)⟩

/-- An action that changes nothing is one that might change what is held. -/
theorem guards_weaken (h : x.Guards held ∅ st kept post) (guarded : st.Guarded held kept)
    (le : off ⊆ held) : x.Guards held off st kept post := by
  rcases h with ⟨kept', grows, guarded', holds⟩
  exact ⟨kept', grows.weaken fun r hr => guarded.held r (le hr), guarded', holds⟩

theorem guards_pure {a : α} (guarded : st.Guarded held kept) (le : off ⊆ held)
    (holds : post a st kept) : (pure a : Action α).Guards held off st kept post :=
  guards_weaken (guards_of_extends guarded (.refl st) fun _ given => Except.ok.inj given ▸ holds)
    guarded le

theorem guards_iff : x.Guards held off st kept post
    ↔ x.Maintains (Grows off) (fun st kept => st.Guarded held kept) st kept post :=
  Iff.rfl

/-- Actions one after the other. -/
theorem guards_bind (first : x.Guards held off st kept mid)
    (second : ∀ a st' kept', Grows off st kept st' kept' → st'.Guarded held kept' →
      mid a st' kept' → (f a).Guards held off st' kept' last) :
    (x >>= f).Guards held off st kept last :=
  guards_iff.mpr (maintains_bind Grows.trans (guards_iff.mp first) second)

/-- An action that only looks, before another one. -/
theorem guards_bind_looks (guarded : st.Guarded held kept) (looks : x.Looks st)
    (le : off ⊆ held)
    (second : ∀ a, x.resultAt st = .ok a → (f a).Guards held off st kept last) :
    (x >>= f).Guards held off st kept last := by
  refine guards_iff.mpr (maintains_bind_looks (fun st' h => ⟨?_, guarded.extends h⟩) looks second)
  exact (Store.grows_of_extends h).weaken fun r hr => guarded.held r (le hr)

theorem guards_bind_asking {q : Store → α} (rest : (f (q st)).Guards held off st kept last) :
    (asking q >>= f).Guards held off st kept last :=
  rest

/-- What is held besides, in the end, can be kept instead. -/
theorem guards_keep {r : Ref} (new : st.objects.size ≤ r.index)
    (h : x.Guards held off st kept fun a st' kept' =>
      post a st' ({r} ∪ kept') ∧ st'.Guarded ({r} ∪ held) kept') :
    x.Guards held off st kept post := by
  rcases h with ⟨kept', grows, guarded, holds⟩
  cases gives : x.resultAt st with
  | error e => exact ⟨kept', grows, guarded, fun _ given => nomatch gives.symm.trans given⟩
  | ok a =>
      rcases holds a gives with ⟨last, guarded'⟩
      refine ⟨{r} ∪ kept', grows.keep new, guarded'.keep, fun b given => ?_⟩
      exact Except.ok.inj (gives.symm.trans given) ▸ last

end Action

/-! ### Storing defaults -/

namespace Template

open Store (Guarded Grows Keeps Passes)

variable {interp : Interpretation} {copyTemplate : Ref → Action Value} {st : Store}
  {held kept : Set Ref} {r : Ref} {v : Value}

/-- Copying a template gives something that is kept. -/
def GuardsCopies (copyTemplate : Ref → Action Value) : Prop :=
  ∀ ⦃st : Store⦄ ⦃held kept : Set Ref⦄ ⦃r : Ref⦄, st.Guarded held kept → st.Keeps kept r →
    (copyTemplate r).Guards held ∅ st kept fun w _ kept' => ∀ q ∈ w.refs, q ∈ kept'

/-- Copying a value gives something that is kept. -/
theorem guards_copied (interp : Interpretation) (copies : GuardsCopies copyTemplate)
    (guarded : st.Guarded held kept) (passes : st.Passes kept v) :
    (copied interp copyTemplate v).Guards held ∅ st kept fun w _ kept' =>
      ∀ q ∈ w.refs, q ∈ kept' := by
  rcases passes with input | ⟨r, rfl, keeps⟩
  · refine Action.guards_bind_asking ?_
    rw [input.templateRef?_eq_none]
    change (Action.reading fun st => st.copy interp v).Guards held ∅ st kept _
    cases copied : st.copy interp v with
    | error e =>
        refine Action.guards_of_extends guarded ?_ fun w given => ?_
        · rw [Action.storeAfter_reading_error copied]
          exact .refl st
        · rw [Action.resultAt_reading_error copied] at given
          cases given
    | ok result =>
        rcases guarded.copy input copied with ⟨grows, guarded', reached⟩
        rw [Action.Guards, Action.storeAfter_reading_ok copied, Action.resultAt_reading_ok copied]
        refine ⟨_, grows, guarded', fun w given => ?_⟩
        exact Except.ok.inj given ▸ reached
  · refine Action.guards_bind_asking ?_
    rw [keeps.templateRef?]
    exact copies guarded keeps

/-- Storing a default changes the template that it is stored in. -/
theorem guards_storeOne (interp : Interpretation) (copies : GuardsCopies copyTemplate)
    (guarded : st.Guarded held kept) (hr : r ∈ held) (key : String) (passes : st.Passes kept v) :
    (storeOne interp copyTemplate r key v).Guards held {r} st kept fun _ _ _ => True := by
  have le : {r} ⊆ held := Set.singleton_subset_iff.mpr hr
  rw [storeOne]
  by_cases undefined : v = .undefined
  · rw [if_pos undefined]
    exact Action.guards_pure guarded le trivial
  · rw [if_neg undefined]
    rcases guarded.held r hr with ⟨t, there, -⟩
    refine Action.guards_bind_asking ?_
    rw [Store.isSealed_of_template? (Store.template?_of_get there), if_pos rfl]
    -- Copying changes no template, and only then is the copy put into this one.
    have copy := guards_copied interp copies guarded passes
    refine Action.guards_bind (Action.guards_weaken copy guarded le) ?_
    intro w st' kept' _ guarded' among
    rcases guarded'.putDefault hr among with ⟨grows, still⟩
    exact ⟨kept', grows, still, fun _ _ => trivial⟩

/-- Storing defaults changes the template that they are stored in. -/
theorem guards_storeAll (copies : GuardsCopies copyTemplate) {entries : List (String × Value)}
    (guarded : st.Guarded held kept) (hr : r ∈ held)
    (passes : ∀ e ∈ entries, st.Passes kept e.2) :
    (storeAll interp copyTemplate r entries).Guards held {r} st kept fun _ _ _ => True := by
  -- By induction on the entries: what is kept grows with each of them, and the rest can
  -- still be passed.
  induction entries generalizing st kept with
  | nil => exact Action.guards_pure guarded (Set.singleton_subset_iff.mpr hr) trivial
  | cons e entries ih =>
      rcases e with ⟨key, v⟩
      have first := guards_storeOne interp copies guarded hr key
        (passes _ List.mem_cons_self)
      refine Action.guards_bind first fun _ st' kept' grows guarded' _ => ?_
      exact ih guarded' fun d hd => grows.passes (passes d (List.mem_cons_of_mem _ hd))

/-- A template that is derived is held while something is done with it. -/
theorem guards_derive {β : Type} (t : Template) (source : String) {f : Template × Ref → Action β}
    (post : β → Store → Set Ref → Prop) (guarded : st.Guarded held kept)
    (rest : ∀ u, (st.push (.ofBody (.template u))).Guarded ({st.next} ∪ held) kept →
      (f (u, st.next)).Guards ({st.next} ∪ held) {st.next} (st.push (.ofBody (.template u)))
        kept post) :
    (t.derive source >>= f).Guards held ∅ st kept fun b st' kept' =>
      post b st' kept' ∧ st'.Guarded ({st.next} ∪ held) kept' ∧ st.next ∉ kept' := by
  cases parsed : Outline.ofSource? source with
  | error m =>
      rcases derive_malformed st t parsed with ⟨fails, leaves⟩
      refine Action.guards_of_extends guarded ?_ fun b given => ?_
      · rw [Action.storeAfter_bind_error fails, leaves]
        exact .refl st
      · rw [Action.resultAt_bind_error fails] at given
        cases given
  | ok outline =>
      rcases derive_ok st t parsed with ⟨u, derived, gives, added⟩
      rcases rest u (guarded.push derived.root derived.defaults) with
        ⟨kept', grows, guarded', holds⟩
      rw [Action.Guards, Action.storeAfter_bind_ok gives, Action.resultAt_bind_ok gives, added]
      have before := grows.size_le
      rw [Store.size_push] at before
      have objects :
          st.Extends ((f (u, st.next)).storeAfter (st.push (.ofBody (.template u)))) := by
        refine ⟨Nat.le_of_succ_le before, fun q inside => ?_⟩
        have apart : q ≠ st.next := fun same => Nat.lt_irrefl _ (same ▸ inside)
        rw [grows.get_eq q (by rw [Store.size_push]; omega) apart, Store.get_push inside]
      -- The new template is the first object that was added, so what is kept besides comes
      -- after it.
      have new : ∀ q ∈ kept', q ∈ kept ∨ st.objects.size < q.index := by
        intro q hq
        refine (grows.added q hq).imp id fun above => ?_
        rw [Store.size_push] at above
        exact above
      refine ⟨kept', ?_, guarded'.mono Set.subset_union_right, fun b given => ?_⟩
      · exact .of_extends objects grows.kept_le fun q hq => (new q hq).imp id Nat.le_of_lt
      · refine ⟨holds b given, guarded', fun mem => ?_⟩
        -- What is kept was there before the template, or came after it.
        rcases new _ mem with known | above
        · exact Nat.lt_irrefl _ (guarded.index_lt known)
        · exact Nat.lt_irrefl _ above

/-- Copying a template adds objects, and the copy is kept. -/
theorem guards_copyWithin (interp : Interpretation) (allowance : Nat) :
    GuardsCopies (copyWithin interp allowance) := by
  induction allowance with
  | zero =>
      intro st held kept r guarded keeps
      exact Action.guards_of_extends guarded (.refl st) fun _ given => nomatch given
  | succ allowance ih =>
      intro st held kept r guarded keeps
      rcases keeps with ⟨t, there, -, defaults⟩
      refine Action.guards_bind_asking ?_
      rw [Store.template?_of_get there]
      -- The copy is held for as long as it is given its defaults, and kept in the end. Until
      -- then the defaults are kept already, since an error may leave them behind.
      refine Action.guards_keep (Nat.le_refl _) ?_
      refine Action.guards_mono (guards_derive t t.source (fun w _ _ => w = .object st.next)
        guarded fun u guarded' => ?_) ?_
      · have passes : ∀ e ∈ t.defaults, (st.push (.ofBody (.template u))).Passes kept e.2 :=
          fun e he => guarded'.passes (defaults e he)
        have mem : st.next ∈ {st.next} ∪ held := .inl rfl
        refine Action.guards_bind (guards_storeAll ih guarded' mem passes) ?_
        intro _ st' kept' _ guarded'' _
        exact Action.guards_pure guarded'' (Set.singleton_subset_iff.mpr mem) rfl
      · rintro _ st' kept' ⟨rfl, guarded', -⟩
        refine ⟨fun q hq => ?_, guarded'⟩
        rw [List.mem_singleton.mp hq]
        exact Set.mem_union_left kept' rfl

theorem guards_copy (interp : Interpretation) : GuardsCopies (copy interp) := by
  intro st held kept r guarded keeps
  exact Action.guards_bind_asking (guards_copyWithin interp _ guarded keeps)

/-! ### Looking -/

/-- Values that can be passed lead to templates whose defaults are kept. -/
theorem leadsTo_of_passes (passes : st.Passes kept v) : LeadsTo st {q | st.Keeps kept q} v := by
  intro inner found
  rcases passes with input | ⟨r, rfl, keeps⟩
  · rw [input.templateRef?_eq_none] at found
    cases found
  · rw [keeps.templateRef?, Option.some.injEq] at found
    exact found ▸ keeps

/-- Nobody has reached into the templates that can be passed. -/
theorem leadsTo_template (passes : st.Passes kept v) :
    LeadsTo st {q | ∃ u, st.template? q = some u} v := by
  intro inner found
  rcases leadsTo_of_passes passes inner found with ⟨t, there, -⟩
  exact ⟨t, Store.template?_of_get there⟩

/-- The templates whose defaults are kept lead to no others. -/
theorem sealedOn_keeps (guarded : st.Guarded held kept) : SealedOn st {q | st.Keeps kept q} := by
  rintro q ⟨t, there, root, defaults⟩
  refine ⟨t, Store.template?_of_get there, fun e he => ?_⟩
  exact leadsTo_of_passes (guarded.passes (defaults e he))

/-- Turning pieces into texts changes nothing. -/
theorem looks_texts (interp : Interpretation) (pieces : List (String × Value)) :
    (texts interp pieces).Looks st := by
  induction pieces with
  | nil => exact Action.looks_of_storeAfter rfl
  | cons e pieces ih =>
      rcases e with ⟨name, piece⟩
      have rest : ∀ s : String, (do return (name, s) :: (← texts interp pieces) :
          Action (List (String × String))).Looks st :=
        fun s => Action.looks_bind ih fun _ _ => Action.looks_of_storeAfter rfl
      cases piece with
      | text s => exact rest s
      | undefined => exact ih
      | _ =>
          exact Action.looks_bind (Action.looks_of_storeAfter Action.storeAfter_looking)
            fun s _ => rest s

/-- What supplied values are inserted as is found by looking, if nobody has reached
    into the templates among them. -/
theorem looks_inserted (t : Template) {supplied : List (String × Value)}
    (leads : ∀ e ∈ supplied, LeadsTo st {q | ∃ u, st.template? q = some u} e.2) :
    (inserted interp (fun key v => do return .text (← t.write interp key v)) supplied).Looks
      st := by
  induction supplied with
  | nil => exact Action.looks_of_storeAfter rfl
  | cons e supplied ih =>
      rcases e with ⟨key, v⟩
      have first :
          (piece (sourceOf interp) (do return .text (← t.write interp key v)) v).Looks st := by
        refine looks_piece t fun inner found => ?_
        rcases leads _ List.mem_cons_self inner found with ⟨u, there⟩
        refine Action.looks_bind_asking ?_
        rw [there]
        exact Action.looks_of_storeAfter rfl
      refine Action.looks_bind first fun piece _ => ?_
      refine Action.looks_bind (ih fun d hd => leads d (List.mem_cons_of_mem _ hd)) fun _ _ => ?_
      exact Action.looks_of_storeAfter rfl

/-- Comparing templates changes nothing. Both are read where they are, and neither is
    exposed, if nobody has reached into them. -/
theorem storeAfter_askEquals (what : String) {t : Template} (held : st.template? r = some t)
    (leads : LeadsTo st {q | ∃ u, st.template? q = some u} v) :
    (askEquals interp what r v).storeAfter st = st := by
  rw [askEquals, ask, Action.storeAfter_bind_asking, held]
  change (Action.asking (fun st => st.templateRef? v) >>= _).storeAfter st = st
  rw [Action.storeAfter_bind_asking]
  cases other : st.templateRef? v with
  | none => rfl
  | some q =>
      rcases leads q other with ⟨u, held'⟩
      change (Action.asking (fun st => (st.template? r, st.template? q)) >>= _).storeAfter st = st
      rw [Action.storeAfter_bind_asking, held, held']
      rfl

/-! ### Passing on defaults -/

/-- Passing on the defaults of a template changes the one that is given them. -/
theorem guards_carryFrom (interp : Interpretation) (placeholders : List String)
    {entries : List (Value × Value)} (guarded : st.Guarded held kept) (hr : r ∈ held)
    (passes : ∀ e ∈ entries, st.Passes kept e.2) :
    (carryFrom interp placeholders r entries).Guards held {r} st kept fun _ _ _ => True := by
  have le : {r} ⊆ held := Set.singleton_subset_iff.mpr hr
  induction entries generalizing st kept with
  | nil => exact Action.guards_pure guarded le trivial
  | cons e entries ih =>
      rcases e with ⟨key, v⟩
      have rest := fun d hd => passes d (List.mem_cons_of_mem _ hd)
      cases key with
      | text key =>
          refine Action.guards_bind_asking ?_
          split
          · have one := guards_storeOne interp (guards_copy interp) guarded hr key
              (passes _ List.mem_cons_self)
            refine Action.guards_bind one fun _ st' kept' grows guarded' _ => ?_
            exact ih guarded' fun d hd => grows.passes (rest d hd)
          · exact ih guarded rest
      | _ => exact ih guarded rest

/-- The defaults of all inserted templates are passed on. -/
theorem guards_carryFromAll (interp : Interpretation) (placeholders : List String)
    {supplied : List (String × Value)} (guarded : st.Guarded held kept) (hr : r ∈ held)
    (passes : ∀ e ∈ supplied, st.Passes kept e.2) :
    (carryFromAll interp (carryFrom interp placeholders r) supplied).Guards held {r} st kept
      fun _ _ _ => True := by
  have le : {r} ⊆ held := Set.singleton_subset_iff.mpr hr
  induction supplied generalizing st kept with
  | nil => exact Action.guards_pure guarded le trivial
  | cons e supplied ih =>
      rcases e with ⟨key, v⟩
      have rest := fun d hd => passes d (List.mem_cons_of_mem _ hd)
      refine Action.guards_bind_asking ?_
      cases found : st.templateRef? v with
      | none => exact ih guarded rest
      | some inner =>
          rcases leadsTo_of_passes (passes _ List.mem_cons_self) inner found with
            ⟨t, there, -, defaults⟩
          -- The defaults of an inserted template are copied again: the template that was passed
          -- is still held, and keeps its own.
          rcases defaultsOf_eq interp (Store.template?_of_get there) with ⟨gives, leaves⟩
          refine Action.guards_bind_looks guarded (Action.looks_of_storeAfter leaves) le
            fun entries h => ?_
          rw [gives, Except.ok.injEq] at h
          have stored : ∀ d ∈ entries, st.Passes kept d.2 := by
            intro d hd
            rw [← h] at hd
            rcases List.mem_map.mp hd with ⟨e, he, rfl⟩
            exact guarded.passes (defaults e he)
          refine Action.guards_bind (guards_carryFrom interp placeholders guarded hr stored) ?_
          intro _ st' kept' grows guarded' _
          exact ih guarded' fun d hd => grows.passes (rest d hd)

/-! ### Operations -/

/-- A template is given that is new and can be held besides. -/
def Gives (held : Set Ref) (st : Store) (q : Ref) (st' : Store) (kept' : Set Ref) : Prop :=
  st.objects.size ≤ q.index ∧ q ∉ kept' ∧ st'.Guarded ({q} ∪ held) kept'

section

variable {values : Value} {supplied : List (String × Value)}

/-- Setting defaults changes the template that they are set in. -/
theorem guards_setDefault (what : String) (guarded : st.Guarded held kept) (hr : r ∈ held)
    (supplies : st.Supplies values supplied) (passes : ∀ e ∈ supplied, st.Passes kept e.2) :
    (askSetDefault interp what r values).Guards held {r} st kept fun _ _ _ => True := by
  have le : {r} ⊆ held := Set.singleton_subset_iff.mpr hr
  rcases guarded.held r hr with ⟨t, there, -⟩
  have given := Store.supplied_eq interp supplies
  have reads : (Action.reading fun st => st.supplied interp values).Looks st :=
    Action.looks_of_storeAfter (Action.storeAfter_reading_ok given)
  refine Action.guards_bind_asking ?_
  rw [Store.template?_of_get there]
  have stored : (setDefault interp r values).Guards held {r} st kept fun _ _ _ => True := by
    refine Action.guards_bind_looks guarded reads le fun entries h => ?_
    rw [Action.resultAt_reading_ok given, Except.ok.injEq] at h
    rw [← h]
    exact guards_storeAll (guards_copy interp) guarded hr passes
  refine Action.guards_bind stored fun _ st' kept' _ guarded' _ => ?_
  exact Action.guards_pure guarded' le trivial

/-- Building the template that comes of substituting gives a new one. -/
theorem guards_rebuilt (interp : Interpretation) {t : Template} (guarded : st.Guarded held kept)
    (defaults : ∀ e ∈ t.defaults, st.Passes kept e.2)
    (passes : ∀ e ∈ supplied, st.Passes kept e.2) (texts : List (String × String)) :
    (t.rebuilt interp supplied texts).Guards held ∅ st kept (Gives held st) := by
  rw [rebuilt]
  refine Action.guards_mono (guards_derive t (t.splice texts) (fun q _ _ => q = st.next)
    guarded fun u guarded' => ?_) ?_
  · have grown : Grows ∅ st kept (st.push (.ofBody (.template u))) kept :=
      Store.grows_of_extends (Store.extends_push st _)
    have mem : st.next ∈ {st.next} ∪ held := .inl rfl
    have le : {st.next} ⊆ {st.next} ∪ held := Set.singleton_subset_iff.mpr mem
    -- First come its own defaults that are left, then those of what was inserted.
    refine Action.guards_bind (guards_storeAll (guards_copy interp) guarded' mem fun e he => ?_) ?_
    · exact grown.passes (defaults e (List.mem_of_mem_filter he))
    · intro _ st₁ kept₁ grows₁ guarded₁ _
      refine Action.guards_bind (guards_carryFromAll interp _ guarded₁ mem fun e he => ?_) ?_
      · exact grows₁.passes (grown.passes (passes e he))
      · intro _ st₂ kept₂ _ guarded₂ _
        refine Action.guards_bind_looks guarded₂ (Action.looks_of_storeAfter rfl) le fun _ _ => ?_
        exact Action.guards_pure guarded₂ le rfl
  · rintro _ st' kept' ⟨rfl, guarded', new⟩
    exact ⟨Nat.le_refl _, new, guarded'⟩

/-- Substituting gives a new template. -/
theorem guards_substitute (what : String) (guarded : st.Guarded held kept) (hr : r ∈ held)
    (supplies : st.Supplies values supplied) (passes : ∀ e ∈ supplied, st.Passes kept e.2) :
    (substitute interp what r values).Guards held ∅ st kept fun v st' kept' =>
      ∃ q, v = .object q ∧ Gives held st q st' kept' := by
  rcases guarded.held r hr with ⟨t, there, -, defaults⟩
  rcases substitute_native interp what (Store.template?_of_get there) supplies with
    ⟨result, store⟩
  have le := Set.empty_subset held
  have built : (t.substituteSupplied interp supplied).Guards held ∅ st kept (Gives held st) := by
    refine Action.guards_bind_looks guarded
      (Action.looks_of_storeAfter Action.storeAfter_checked) le fun _ _ => ?_
    refine Action.guards_bind_looks guarded
      (looks_inserted t fun e he => leadsTo_template (passes e he)) le fun pieces _ => ?_
    refine Action.guards_bind_looks guarded (looks_texts interp pieces) le fun texts _ => ?_
    exact guards_rebuilt interp guarded (fun e he => guarded.passes (defaults e he)) passes texts
  rcases built with ⟨kept', grows, guarded', holds⟩
  rw [Action.Guards, store, result]
  refine ⟨kept', grows, guarded', fun v given => ?_⟩
  cases gives : (t.substituteSupplied interp supplied).resultAt st with
  | error e =>
      rw [gives] at given
      cases given
  | ok q =>
      rw [gives] at given
      cases given
      exact ⟨q, rfl, holds q gives⟩

/-- Rendering adds objects at most. -/
theorem guards_render (what : String) (guarded : st.Guarded held kept) (hr : r ∈ held)
    (offered : Offers st values supplied) (passes : ∀ e ∈ supplied, st.Passes kept e.2) :
    (render interp what r values).Guards held ∅ st kept fun _ _ _ => True := by
  have looks := (render_sealed interp (sealedOn_keeps guarded) what
    (guarded.held r hr) offered fun e he => leadsTo_of_passes (passes e he)).1
  exact Action.guards_of_extends guarded looks.adds fun _ _ => trivial

/-- Rendering safely adds objects at most. -/
theorem guards_safeRender (what : String) (guarded : st.Guarded held kept) (hr : r ∈ held)
    (offered : Offers st values supplied) (passes : ∀ e ∈ supplied, st.Passes kept e.2) :
    (askSafeRender interp what r values).Guards held ∅ st kept fun _ _ _ => True := by
  rcases guarded.held r hr with ⟨t, there, -⟩
  have looks := (render_sealed interp (sealedOn_keeps guarded) "this"
    (guarded.held r hr) offered fun e he => leadsTo_of_passes (passes e he)).1
  refine Action.guards_of_extends guarded ?_ fun _ _ => trivial
  rw [storeAfter_askSafeRender what there]
  exact looks.adds

/-- Comparing templates changes nothing. -/
theorem guards_equals (what : String) (guarded : st.Guarded held kept) (hr : r ∈ held)
    (passes : st.Passes kept v) :
    (askEquals interp what r v).Guards held ∅ st kept fun _ _ _ => True := by
  rcases guarded.held r hr with ⟨t, there, -⟩
  refine Action.guards_of_extends guarded ?_ fun _ _ => trivial
  rw [storeAfter_askEquals what (Store.template?_of_get there) (leadsTo_template passes)]
  exact .refl st

end

end Template

namespace Exposed

variable {st : Store} {held kept : Set Ref}

/-- Making a template gives a new one. -/
theorem guards_create (interp : Interpretation) (variant : Variant) (source : String)
    (options : Value) (guarded : st.Guarded held kept)
    (inside : Store.globalLogger.index < st.objects.size)
    (orderly : st.isOrderly Store.globalLogger = true) :
    (create interp variant (.text source) options).Guards held ∅ st kept fun v st' kept' =>
      ∃ q, v = .object q ∧ Template.Gives held st q st' kept' := by
  rcases create_cases interp variant source options inside orderly with
    ⟨st', u, grown, none, root, gives, leaves⟩ | ⟨e, fails, grown⟩
  · rw [Action.Guards, gives, leaves]
    have new : st'.next ∉ kept := fun mem =>
      Nat.lt_irrefl _ (Nat.lt_of_lt_of_le (guarded.index_lt mem) grown.size_le)
    have guarded' := (guarded.extends grown).push root none
    refine ⟨kept, Store.grows_of_extends (grown.trans (Store.extends_push st' _)),
      guarded'.mono Set.subset_union_right, fun v given => ?_⟩
    exact ⟨st'.next, (Except.ok.inj given).symm, grown.size_le, new, guarded'⟩
  · exact Action.guards_of_extends guarded grown fun v given => nomatch fails.symm.trans given

end Exposed

end Stencil
