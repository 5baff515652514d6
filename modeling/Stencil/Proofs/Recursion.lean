import Stencil.Proofs.Forest

/-!
# Recursion Through Defaults

Rendering and copying templates comes to an end.

Rendering a template leads to rendering those among its defaults, and copying one
leads to copying these. Both actions are given an allowance of depth, and they
fail when it is used up. That this never decides anything cannot be seen from the
allowances. More depth makes no difference to rendering in any store, be there
cycles or not: a template that contains itself is refused with every allowance.

What tells the two apart is the equation that describes an action without any
allowance, by referring to the action itself. Where a template contains itself,
the equation for its text says nothing, since everything satisfies it. In a forest
what is stored in a template comes later, so the relation is well founded, and the
equations have one solution each. The solution is what the actions do.

A copy is made while objects are added, and not only in the store in which the
template was found. So the equation for copying speaks of all forests, and the
induction goes on about a store and whatever it is extended to.

## Main definitions

* `Template.RendersBy`: Texts of templates that satisfy the equation for
  rendering.
* `Template.copyBy`, `Template.CopiesBy`: The equation for copying.

## Theorems

* `Store.Forest.wellFounded`, `Store.Forest.acyclic`: What is stored in a template is
  below it.
* `Template.render_of_rendersBy`, `Template.rendersBy_rendered`: Rendering is the solution
  of its equation.
* `Template.copiesBy_copy`, `Template.run_copy_eq`: Copying is the solution of its
  equation.
-/

namespace Stencil

/-- Going from templates to those that are stored in them comes to an end. -/
theorem Store.Forest.wellFounded {interp : Interpretation} {st : Store} {W : Set Ref}
    (forest : st.Forest interp W) : WellFounded fun x r => r ∈ W ∧ ∃ key, st.Stores r key x := by
  -- What is stored came later, and there is nothing after the last object.
  refine Subrelation.wf ?_ (measure fun r : Ref => st.objects.size - r.index).wf
  rintro x r ⟨hr, key, stored⟩
  rcases forest.stores hr stored with ⟨hx, above⟩
  have inside := forest.index_lt hx
  change st.objects.size - x.index < st.objects.size - r.index
  omega

/-- No template contains itself, at any depth. -/
theorem Store.Forest.acyclic {interp : Interpretation} {st : Store} {W : Set Ref} {r : Ref}
    (forest : st.Forest interp W) (hr : r ∈ W) :
    ¬ Relation.TransGen (fun q x => ∃ key, st.Stores q key x) r r := by
  have later : ∀ x, Relation.TransGen (fun q x => ∃ key, st.Stores q key x) r x →
      x ∈ W ∧ r.index < x.index := by
    intro x path
    induction path with
    | single stores =>
        rcases stores with ⟨key, stores⟩
        exact forest.stores hr stores
    | tail _ stores ih =>
        rcases stores with ⟨key, stores⟩
        rcases forest.stores ih.1 stores with ⟨hx, above⟩
        exact ⟨hx, Nat.lt_trans ih.2 above⟩
  exact fun cycle => Nat.lt_irrefl _ (later r cycle).2

namespace Template

open Store (Evolves Forest Accepts)

variable {interp : Interpretation} {st base : Store} {W : Set Ref} {r : Ref} {t : Template}
  {supplied : List (String × Value)}

/-! ### Rendering -/

/-- What templates render as by themselves, as far as that follows from what those
    among their defaults do. -/
def RendersBy (interp : Interpretation) (st : Store) (W : Set Ref)
    (text : Ref → Except Failure String) : Prop :=
  ∀ r ∈ W, ∀ t, st.template? r = some t → text r = t.filled (t.converted interp st text) []

/-- What fills a template can be stored, if what is supplied can. -/
theorem accepts_valueFor? (forest : st.Forest interp W) (hr : r ∈ W)
    (held : st.template? r = some t) (accepts : ∀ e ∈ supplied, st.Accepts interp W e.2)
    {name : String} {v : Value} (found : t.valueFor? supplied name = some v) :
    st.Accepts interp W v := by
  rw [valueFor?, Option.or_eq_some_iff] at found
  rcases found with given | ⟨-, stored⟩
  · exact accepts (name, v) (mem_of_lookup given)
  · exact forest.accepts hr held (mem_of_lookup stored)

/-- The text of a template is the same if its values are converted to the same. -/
theorem filled_eq_of_converts {convert convert' : String → Value → Except Failure String}
    (same : ∀ name v, t.valueFor? supplied name = some v → convert' name v = convert name v) :
    t.filled convert' supplied = t.filled convert supplied := by
  refine filled_eq_of_same rfl fun name _ => ?_
  cases found : t.valueFor? supplied name with
  | none => exact .inl ⟨rfl, rfl⟩
  | some v => exact .inr ⟨v, v, rfl, rfl, same name v found⟩

/-- The text of a template is the same if that of those among its values is. -/
theorem filled_converted_congr {text text' : Ref → Except Failure String}
    (same : ∀ name v, t.valueFor? supplied name = some v →
      ∀ x, st.templateRef? v = some x → text' x = text x) :
    t.filled (t.converted interp st text') supplied
      = t.filled (t.converted interp st text) supplied := by
  refine filled_eq_of_converts fun name v found => ?_
  rw [converted, converted]
  cases inner : st.templateRef? v with
  | none => rfl
  | some x => exact same name v found x inner

/-- Whatever satisfies the equation for rendering is what templates render as. -/
theorem rendersBy_unique (forest : st.Forest interp W) {text : Ref → Except Failure String}
    (renders : RendersBy interp st W text) (hr : r ∈ W) :
    text r = rendered interp st st.objects.size r [] := by
  -- Induction on what is stored in templates: the equation tells the text of one from
  -- the texts of those.
  induction r using forest.wellFounded.induction with
  | h r ih =>
      rcases forest.template? hr with ⟨t, held⟩
      rw [renders r hr t held, rendered_inner, rendered, held]
      refine filled_converted_congr fun name v found x inner => ?_
      have stored : (name, v) ∈ t.defaults := by
        rw [valueFor?, List.lookup_nil, Option.none_or] at found
        exact mem_of_lookup found
      rcases forest.accepts hr held stored with inert | ⟨y, hy, same⟩
      · rw [inert.templateRef?_eq_none] at inner
        cases inner
      · cases same
        rw [forest.templateRef? hy, Option.some.injEq] at inner
        subst inner
        exact ih y ⟨hr, name, t, held, stored, forest.templateRef? hy⟩ hy

/-- Rendering follows from what the templates among the values render as by
    themselves, and for that there is one way to satisfy the equation. -/
theorem render_of_rendersBy (forest : st.Forest interp W) {text : Ref → Except Failure String}
    (renders : RendersBy interp st W text) (what : String) (hr : r ∈ W)
    (held : st.template? r = some t) {values : Value} (offered : Offers st values supplied)
    (accepts : ∀ e ∈ supplied, st.Accepts interp W e.2) :
    (render interp what r values).resultAt st
      = (t.filled (t.converted interp st text) supplied).map Value.text := by
  have leads := fun e he => (accepts e he).leadsTo forest
  rw [(render_sealed interp forest.sealedOn what hr offered leads).2, rendered, held]
  refine congrArg (Except.map Value.text) (filled_converted_congr fun name v found x inner => ?_)
  have hx := (accepts_valueFor? forest hr held accepts found).leadsTo forest x inner
  exact (rendersBy_unique forest renders hx).symm

/-- There is a way to satisfy the equation: what templates render as. -/
theorem rendersBy_rendered (interp : Interpretation) (st : Store) (W : Set Ref) :
    RendersBy interp st W fun r => rendered interp st st.objects.size r [] := by
  intro r _ t held
  change rendered interp st st.objects.size r [] = _
  rw [rendered_inner, rendered, held]

/-- This is what rendering templates with nothing supplied gives. -/
theorem render_alone (forest : st.Forest interp W) (what : String) (hr : r ∈ W) :
    (render interp what r .undefined).resultAt st
      = (rendered interp st st.objects.size r []).map Value.text := by
  rw [(render_sealed interp forest.sealedOn what hr (.inr ⟨rfl, rfl⟩) nofun).2, rendered_inner]

end Template

/-! ### Copying -/

/-- Actions that do the same go on to the same, if what follows does. -/
theorem Action.run_bind_congr {α β : Type} {x x' : Action α} {f f' : α → Action β} {st : Store}
    (first : x.run st = x'.run st)
    (rest : ∀ a, x'.resultAt st = .ok a →
      (f a).run (x'.storeAfter st) = (f' a).run (x'.storeAfter st)) :
    (x >>= f).run st = (x' >>= f').run st := by
  change (x.andThen f).run st = (x'.andThen f').run st
  simp only [andThen, first]
  cases gives : (x'.run st).result with
  | error e => rfl
  | ok a =>
      have same := rest a gives
      rw [storeAfter] at same
      simp only [same]

namespace Template

open Store (Evolves Forest Accepts)

variable {interp : Interpretation} {st base : Store} {W W' : Set Ref} {r q : Ref} {t : Template}
  {copyTemplate copyTemplate' : Ref → Action Value} {since : Nat}

/-- A copy of a template, given how those among its defaults are copied. -/
def copyBy (interp : Interpretation) (copyTemplate : Ref → Action Value) (t : Template) :
    Action Value := do
  let (_, copy) ← t.derive t.source
  storeAll interp copyTemplate copy t.defaults
  return .object copy

/-- Ways of copying templates, as far as that follows from how those among their
    defaults are copied. -/
def CopiesBy (interp : Interpretation) (copyTemplate : Ref → Action Value) : Prop :=
  ∀ ⦃st : Store⦄ ⦃W : Set Ref⦄ ⦃r : Ref⦄ ⦃t : Template⦄, st.Forest interp W → r ∈ W →
    st.template? r = some t → (copyTemplate r).run st = (copyBy interp copyTemplate t).run st

theorem run_copyWithin (allowance : Nat) (held : st.template? r = some t) :
    (copyWithin interp (allowance + 1) r).run st
      = (copyBy interp (copyWithin interp allowance) t).run st := by
  rw [copyWithin]
  change (Action.andThen _ _).run st = _
  simp only [Action.andThen, Action.asking, held, List.nil_append]
  rfl

/-- Storing defaults is the same if copying the templates among them is, in the store
    that they belong to and whatever it is extended to. -/
theorem run_storeAll_congr (copies : GivesLoose interp copyTemplate' since)
    {entries : List (String × Value)} (accepts : ∀ e ∈ entries, base.Accepts interp W e.2)
    (same : ∀ e ∈ entries, ∀ x ∈ W, e.2 = .object x → ∀ st, base.Extends st →
      (copyTemplate x).run st = (copyTemplate' x).run st)
    (grown : base.Extends st) (forest : st.Forest interp W') (le : W ⊆ W') (hq : q ∈ W')
    (fresh : base.objects.size ≤ q.index) (before : q.index < since)
    (new : since ≤ st.objects.size) :
    (storeAll interp copyTemplate q entries).run st
      = (storeAll interp copyTemplate' q entries).run st := by
  induction entries generalizing st W' with
  | nil => rfl
  | cons e entries ih =>
      rcases e with ⟨key, v⟩
      have first := accepts _ List.mem_cons_self
      -- A value is inert, or a template of the forest for which copying is the same.
      have copied : (copied interp copyTemplate v).run st
          = (copied interp copyTemplate' v).run st := by
        refine Action.run_bind_congr rfl fun found h => ?_
        rw [Action.resultAt_asking, Except.ok.injEq] at h
        rcases first with inert | ⟨x, hx, rfl⟩
        · rw [← h, (inert.later (.of_extends grown)).templateRef?_eq_none]
        · rw [← h, forest.templateRef? (le hx)]
          exact same _ List.mem_cons_self x hx rfl st grown
      have stored : (storeOne interp copyTemplate q key v).run st
          = (storeOne interp copyTemplate' q key v).run st := by
        rcases forest.template? hq with ⟨t, held⟩
        rw [storeOne, storeOne]
        by_cases undefined : v = .undefined
        · rw [if_pos undefined, if_pos undefined]
        · rw [if_neg undefined, if_neg undefined]
          refine Action.run_bind_congr rfl fun isSealed h => ?_
          rw [Action.resultAt_asking, Except.ok.injEq, Store.isSealed_of_template? held] at h
          rw [← h, if_pos rfl, if_pos rfl]
          exact Action.run_bind_congr copied fun _ _ => rfl
      have here : st.Accepts interp W' v := first.later (.of_extends grown) le
      rcases keepsForest_storeOne copies new forest hq before key here with
        ⟨W'', evolves, forest', -⟩
      refine Action.run_bind_congr stored fun _ _ => ih ?_ ?_ ?_ forest' (le.trans evolves.le)
        (evolves.le hq) (Nat.le_trans new evolves.later.size_le)
      · exact fun d hd => accepts d (List.mem_cons_of_mem _ hd)
      · exact fun d hd => same d (List.mem_cons_of_mem _ hd)
      · -- Only the template that is given the defaults has changed, and it is new.
        refine ⟨Nat.le_trans grown.size_le evolves.later.size_le, fun p inside => ?_⟩
        have apart : p ≠ q := fun same => by
          rw [same] at inside
          omega
        rw [evolves.get_eq p (Nat.lt_of_lt_of_le inside grown.size_le) apart,
          grown.get_eq p inside]

/-- A template is copied the same if what is stored in it is. -/
theorem run_copyBy_congr (belongs : base.Forest interp W) (hr : r ∈ W)
    (held : base.template? r = some t) (copies : ∀ since, GivesLoose interp copyTemplate' since)
    (same : ∀ key x, base.Stores r key x → ∀ st, base.Extends st →
      (copyTemplate x).run st = (copyTemplate' x).run st)
    (grown : base.Extends st) :
    (copyBy interp copyTemplate t).run st = (copyBy interp copyTemplate' t).run st := by
  refine Action.run_bind_congr rfl fun made given => ?_
  rcases derive_ok st t t.parses with ⟨u, derived, gives, added⟩
  rw [gives, Except.ok.injEq] at given
  rw [← given, added]
  have pushed : Evolves 0 ∅ st W (st.push (.ofBody (.template u))) (Insert.insert st.next W) ∧ _ :=
    (belongs.of_extends grown).push derived.defaults
  have size : (st.push (.ofBody (.template u))).objects.size = st.objects.size + 1 :=
    Store.size_push
  have stored : ∀ e ∈ t.defaults, ∀ x ∈ W, e.2 = .object x → ∀ st, base.Extends st →
      (copyTemplate x).run st = (copyTemplate' x).run st := by
    rintro ⟨key, v⟩ he x hx rfl
    exact same key x ⟨t, held, he, belongs.templateRef? hx⟩
  refine Action.run_bind_congr (run_storeAll_congr (copies _)
    (fun e he => belongs.accepts hr held he) stored (grown.trans (Store.extends_push st _))
    pushed.2 (Set.subset_insert _ _) (Set.mem_insert _ _) grown.size_le (Nat.lt_succ_self _)
    (Nat.le_of_eq size.symm)) fun _ _ => rfl

/-- Ways of copying that lead to one another as those with allowances do are these,
    where no allowance is used up. -/
theorem run_copyWithin_eq (belongs : base.Forest interp W) {c : Nat → Ref → Action Value}
    (copies : ∀ n, ∀ x ∈ W, ∀ t st, base.template? x = some t → base.Extends st →
      (c (n + 1) x).run st = (copyBy interp (c n) t).run st)
    (n : Nat) (hr : r ∈ W) (enough : base.objects.size ≤ n + r.index) (grown : base.Extends st) :
    (c n r).run st = (copyWithin interp n r).run st := by
  -- Induction on the allowance: what is stored in a template came later, so less is
  -- enough for it.
  induction n generalizing r st with
  | zero =>
      have inside := belongs.index_lt hr
      omega
  | succ n ih =>
      rcases belongs.template? hr with ⟨t, held⟩
      rw [copies n r hr t st held grown, run_copyWithin n (grown.template? held)]
      refine run_copyBy_congr belongs hr held (givesLoose_copyWithin interp n) ?_ grown
      intro key x stored st' grown'
      rcases belongs.stores hr stored with ⟨hx, above⟩
      exact ih hx (by omega) grown'

/-- Where no allowance is used up, they all lead to the same copy. -/
theorem run_copyWithin_of_le (belongs : base.Forest interp W) (hr : r ∈ W) {n m : Nat}
    (enough : base.objects.size ≤ n + r.index) (le : n ≤ m) (grown : base.Extends st) :
    (copyWithin interp m r).run st = (copyWithin interp n r).run st := by
  rcases Nat.exists_eq_add_of_le le with ⟨k, rfl⟩
  have copies : ∀ n, ∀ x ∈ W, ∀ t st, base.template? x = some t → base.Extends st →
      (copyWithin interp (n + 1 + k) x).run st
        = (copyBy interp (copyWithin interp (n + k)) t).run st := by
    intro n x _ t st held grown
    rw [Nat.add_right_comm]
    exact run_copyWithin (n + k) (grown.template? held)
  exact run_copyWithin_eq belongs (c := fun n => copyWithin interp (n + k)) copies n hr enough grown

/-- Whatever satisfies the equation for copying is how templates are copied. -/
theorem run_copy_eq (copies : CopiesBy interp copyTemplate) (forest : st.Forest interp W)
    (hr : r ∈ W) : (copyTemplate r).run st = (copy interp r).run st := by
  have always : ∀ n : Nat, ∀ x ∈ W, ∀ t st', st.template? x = some t → st.Extends st' →
      (copyTemplate x).run st' = (copyBy interp copyTemplate t).run st' :=
    fun _ x hx t st' held grown =>
      copies (forest.of_extends grown) hx (grown.template? held)
  exact run_copyWithin_eq forest (c := fun _ => copyTemplate) always (st.objects.size + 1) hr
    (by omega) (.refl st)

/-- Copying satisfies the equation, so no allowance is ever used up. -/
theorem copiesBy_copy (interp : Interpretation) : CopiesBy interp (copy interp) := by
  intro st W r t forest hr held
  have copies : (copyWithin interp (st.objects.size + 1) r).run st
      = (copyBy interp (copyWithin interp st.objects.size) t).run st := run_copyWithin _ held
  refine copies.trans (run_copyBy_congr forest hr held (givesLoose_copy interp) ?_ (.refl st))
  -- Whatever the store has become until a default is copied, its allowance is greater than
  -- that of the store in which copying began.
  intro key x stored st' grown
  exact (run_copyWithin_of_le forest (forest.stores hr stored).1 (Nat.le_add_right _ _)
    (Nat.le_succ_of_le grown.size_le) grown).symm

end Template

end Stencil
