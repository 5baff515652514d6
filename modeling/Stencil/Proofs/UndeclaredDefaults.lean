import Stencil.Proofs.CarriedDefaults

/-!
# Undeclared Defaults

What a default does that names no placeholder of its own template.

Rendering ignores such a default. Inserting the template does not: its defaults are
compared with the names of the new template, and these include the names of the old
one. So a default that means nothing in its own template may become that of a
placeholder which never had one.

Here this is made exact. Two insertions are compared that only differ in one
default of the inserted template. All that comes before is the same in both, so the
second one is the first one and then one more step of the loop over these defaults
(`receiving_append`). Either that step does nothing, and then the two have the same
result and leave the same store behind, or the new template also gets a copy of the
default. The step does something if and only if the name is a placeholder of the new
template without a default there, which is to say that it is no other name of the old
template with an own default.

## Main definitions

* `Template.receiving`: A new template that is given the own defaults and those of one
  inserted template.
* `Template.nextDefault?`: What the new template has copies of.

## Theorems

* `Template.carryFrom_append`: Passing on defaults one after the other.
* `Template.rebuilt_single`: Inserting one template.
* `Template.insert_with_undeclared`: What one more default does.
-/

namespace Stencil

namespace Action

variable {α β γ : Type}

theorem bind_assoc (x : Action α) (f : α → Action β) (g : β → Action γ) :
    (x >>= f) >>= g = x >>= fun a => f a >>= g := by
  rcases x with ⟨run⟩
  simp only [bind, andThen, mk.injEq]
  funext st
  cases (run st).result with
  | error e => rfl
  | ok a =>
      dsimp only
      cases ((f a).run (run st).store).result with
      | error e => rfl
      | ok b => simp only [List.append_assoc]

theorem pure_bind (a : α) (f : α → Action β) : (pure a >>= f) = f a := by
  cases h : f a with
  | mk run =>
      simp only [pure, ok, bind, andThen, h, List.nil_append]

theorem bind_pure (x : Action α) : x >>= pure = x := by
  rcases x with ⟨run⟩
  simp only [bind, andThen, pure, ok, mk.injEq]
  funext st
  rcases run st with ⟨store, events, result⟩
  cases result with
  | error e => rfl
  | ok a => simp only [List.append_nil]

/-- Two actions give or raise the same and leave the same store behind. What they
    report may differ. -/
def Agree (x y : Action α) (st : Store) : Prop :=
  x.resultAt st = y.resultAt st ∧ x.storeAfter st = y.storeAfter st

theorem Agree.refl (x : Action α) (st : Store) : x.Agree x st :=
  ⟨rfl, rfl⟩

theorem Agree.trans {x y z : Action α} {st : Store} (first : x.Agree y st)
    (second : y.Agree z st) : x.Agree z st :=
  ⟨first.1.trans second.1, first.2.trans second.2⟩

theorem Agree.symm {x y : Action α} {st : Store} (agree : x.Agree y st) : y.Agree x st :=
  ⟨agree.1.symm, agree.2.symm⟩

/-- What an action comes to is what one comes to that agrees with it. -/
theorem Agree.yields {x y : Action α} {st : Store} {post : α → Store → Prop}
    {raises : Thrown → Prop} (agree : x.Agree y st) (h : y.Yields st post raises) :
    x.Yields st post raises := by
  unfold Yields at h ⊢
  rw [agree.1, agree.2]
  exact h

/-- Actions agree that agree step by step. -/
theorem agree_bind {x y : Action α} {f g : α → Action β} {st : Store} (first : x.Agree y st)
    (second : ∀ a, x.resultAt st = .ok a → (f a).Agree (g a) (x.storeAfter st)) :
    (x >>= f).Agree (y >>= g) st := by
  unfold Agree
  cases gives : x.resultAt st with
  | error e =>
      have gives' := first.1.symm.trans gives
      rw [resultAt_bind_error gives, resultAt_bind_error gives', storeAfter_bind_error gives,
        storeAfter_bind_error gives']
      exact ⟨rfl, first.2⟩
  | ok a =>
      have gives' := first.1.symm.trans gives
      rw [resultAt_bind_ok gives, resultAt_bind_ok gives', storeAfter_bind_ok gives,
        storeAfter_bind_ok gives', ← first.2]
      exact second a gives

end Action

namespace Template

variable {interp : Interpretation} {next r q q' : Ref} {st : Store} {t u u' : Template}
  {values values' v d : Value} {texts : List (String × String)} {a c : String}

/-- Passing on defaults is passing on some of them and then the others. -/
theorem carryFrom_append (interp : Interpretation) (placeholders : List String) (next : Ref)
    (entries more : List (Value × Value)) :
    carryFrom interp placeholders next (entries ++ more)
      = carryFrom interp placeholders next entries >>= fun _ =>
        carryFrom interp placeholders next more := by
  induction entries with
  | nil => exact (Action.pure_bind () fun _ => carryFrom interp placeholders next more).symm
  | cons e entries ih =>
      rcases e with ⟨key, v⟩
      cases key with
      | text key =>
          rw [List.cons_append, carryFrom, carryFrom, Action.bind_assoc, ih]
          refine congrArg _ (funext fun known => ?_)
          split
          · rw [Action.bind_assoc]
          · rfl
      | _ => exact ih

/-- Derive a template, and give it the own defaults and then those of one template
    that is inserted for a name. It comes with its address. -/
def receiving (interp : Interpretation) (t : Template) (a : String)
    (texts : List (String × String)) (entries : List (String × Value)) :
    Action (Template × Ref) := do
  let (made, next) ← t.derive (t.splice texts)
  storeAll interp (copy interp) next (t.carriedOwn made.placeholders [a])
  carryFrom interp made.placeholders next (entries.map fun e => (Value.text e.1, e.2))
  return (made, next)

/-- What there is a copy of under a name in the end: the own default, unless the name is
    filled, or else that of the inserted template. -/
def nextDefault? (t : Template) (a : String) (entries : List (String × Value))
    (placeholders : List String) (k : String) : Option Value :=
  if k ∈ placeholders then
    (if k = a then none else t.defaults.lookup k).or (entries.lookup k)
  else none

/-- With one more default there is one more step at the end. -/
theorem receiving_append (interp : Interpretation) (t : Template) (a : String)
    (texts : List (String × String)) (entries : List (String × Value)) (e : String × Value) :
    t.receiving interp a texts (entries ++ [e]) = do
      let (made, next) ← t.receiving interp a texts entries
      carryFrom interp made.placeholders next [(.text e.1, e.2)]
      return (made, next) := by
  simp only [receiving, List.map_append, List.map_cons, List.map_nil, carryFrom_append,
    Action.bind_assoc, Action.pure_bind]

/-- Passing on the defaults of the only template that is inserted. -/
theorem carryFromAll_single {base : Store} (placeholders : List String) (next : Ref)
    (intact : base.Intact) (grown : base.Extends st) (held : base.Holds v)
    (inner : base.inner? v = some u) :
    (carryFromAll interp (carryFrom interp placeholders next) [(a, v)]).Agree
      (carryFrom interp placeholders next (u.defaults.map fun e => (Value.text e.1, e.2))) st := by
  rcases inner?_eq_some inner with ⟨q, known, there⟩
  rcases defaultsOf_eq interp (grown.template? there) with ⟨read, kept⟩
  have found : st.templateRef? v = some q := by
    rw [grown.templateRef?_eq intact.closed held, known]
  rw [← Action.bind_pure (carryFrom interp placeholders next
    (u.defaults.map fun e => (Value.text e.1, e.2)))]
  unfold Action.Agree
  simp only [carryFromAll, Action.resultAt_bind_asking, Action.storeAfter_bind_asking, found]
  rw [Action.resultAt_bind_ok read, Action.storeAfter_bind_ok read, kept]
  exact ⟨rfl, rfl⟩

/-- Inserting one template is giving the new one the own defaults and those of the
    inserted template. -/
theorem rebuilt_single (interp : Interpretation) (intact : st.Intact)
    (held : st.template? r = some t) (inside : st.Holds v) (inner : st.inner? v = some u)
    (a : String) (texts : List (String × String)) :
    (t.rebuilt interp [(a, v)] texts).Agree
      (t.receiving interp a texts u.defaults >>= fun p => pure p.2) st := by
  simp only [rebuilt, receiving, Action.bind_assoc, Action.pure_bind, List.map_cons, List.map_nil]
  refine Action.agree_bind (.refl _ st) fun p gives => ?_
  rcases p with ⟨made, next⟩
  dsimp only
  refine Action.agree_bind (.refl _ _) fun _ own => ?_
  cases parses : Outline.ofSource? (t.splice texts) with
  | error m =>
      rw [(derive_malformed st t parses).1] at gives
      cases gives
  | ok outline =>
      rcases derive_ok st t parses with ⟨u', -, given, added⟩
      cases given.symm.trans gives
      rw [added] at own ⊢
      have pushed := Store.extends_push st (Object.ofBody (.template made))
      have stored : (storeAll interp (copy interp) st.next
          (t.carriedOwn made.placeholders [a])).Ensures True _ _ :=
        ensures_storeAll intact (ensures_copy intact)
          (fun e he => intact.closed.default held (mem_carriedOwn.mp he).1) pushed
          (Nat.le_refl _) (Store.template?_push_next st made)
      -- Storing the own defaults only added objects to those that there were.
      rw [Action.Ensures, own] at stored
      have grown := stored.1.after pushed (Nat.le_refl _)
      exact Action.agree_bind (carryFromAll_single made.placeholders st.next intact grown inside
        inner) fun _ _ => ⟨rfl, rfl⟩

/-- The one more step: the default is passed over, or it is stored. -/
theorem carryFrom_single (placeholders : List String) (next : Ref) (c : String) (d : Value) :
    let step := carryFrom interp placeholders next [(.text c, d)]
    (c ∉ placeholders ∨ st.hasDefault next c = true → step.Agree (pure ()) st)
      ∧ (c ∈ placeholders → st.hasDefault next c = false →
        step.Agree (storeOne interp (copy interp) next c d) st) := by
  intro step
  have opened : step.Agree (if placeholders.contains c && !st.hasDefault next c then
      storeOne interp (copy interp) next c d >>= pure else pure ()) st := by
    change (if placeholders.contains c && !st.hasDefault next c then _ else _ : Action Unit).Agree
      _ st
    exact .refl _ st
  rw [Action.bind_pure] at opened
  refine ⟨fun passes => ?_, fun named none_ => ?_⟩
  · rw [if_neg] at opened
    · exact opened
    · rw [Bool.and_eq_true, List.contains_iff_mem, Bool.not_eq_true']
      rintro ⟨named, none_⟩
      rcases passes with unnamed | known
      · exact unnamed named
      · exact absurd (known.symm.trans none_) (by decide)
  · rw [if_pos] at opened
    · exact opened
    · rw [List.contains_iff_mem.mpr named, none_]
      rfl

/-- What the new template has been given if all of that succeeds. -/
theorem receives_receiving (interp : Interpretation) (intact : st.Intact)
    (held : st.template? r = some t) (orderly : t.Orderly) {entries : List (String × Value)}
    (inside : ∀ e ∈ entries, st.Holds e.2) (given : ∀ e ∈ entries, e.2 ≠ .undefined)
    {made : Template} {n : Ref}
    (gives : (t.receiving interp a texts entries).resultAt st = .ok (made, n)) :
    n = st.next ∧ Receives interp st.Extends n made (t.nextDefault? a entries made.placeholders)
      ((t.receiving interp a texts entries).storeAfter st) := by
  cases parses : Outline.ofSource? (t.splice texts) with
  | error m =>
      have fails : (t.receiving interp a texts entries).resultAt st = _ :=
        Action.resultAt_bind_error (derive_malformed st t parses).1
      cases gives.symm.trans fails
  | ok outline =>
      rcases derive_ok st t parses with ⟨u, derived, given', added⟩
      have own : ∀ e ∈ t.carriedOwn u.placeholders [a],
          CopiesWell interp True st.Extends st.next e.2 ∧ e.2 ≠ .undefined := by
        intro e he
        have default := (mem_carriedOwn.mp he).1
        exact ⟨copiesWell_of_holds interp intact (intact.closed.default held default)
          (Nat.le_refl _), orderly.given e default⟩
      have fresh : Receives interp st.Extends st.next u (fun _ => none)
          (st.push (Object.ofBody (.template u))) :=
        receives_push u (Store.extends_push st _) derived.defaults
      -- The own defaults are stored first, and those of what is inserted replace none of
      -- them.
      have all : (t.receiving interp a texts entries).Ensures True st fun p st' =>
          p = (u, st.next) ∧ Receives interp st.Extends st.next u
            (t.nextDefault? a entries u.placeholders) st' := by
        refine Action.ensures_bind_ok given' ?_
        rw [added]
        refine Action.ensures_bind (fresh.storeAll own
          (orderly.distinct.sublist (List.filter_sublist.map Prod.fst))) fun _ st₁ receives₁ => ?_
        refine Action.ensures_bind (receives₁.carryFrom u.placeholders fun e he =>
          ⟨copiesWell_of_holds interp intact (inside e he) (Nat.le_refl _), given e he⟩)
          fun _ st₂ receives₂ => ⟨rfl, receives₂.congr fun k => ?_⟩
        rw [lookup_carriedOwn, Option.or_none, nextDefault?]
        simp only [List.mem_singleton]
        by_cases named : k ∈ u.placeholders
        · rw [if_pos named, if_pos named, if_pos named]
        · rw [if_neg named, if_neg named, if_neg named, Option.or_none]
      rw [Action.Ensures, gives] at all
      rcases all with ⟨same, receives⟩
      cases same
      exact ⟨rfl, receives⟩

/-- Substituting one template is giving the new one the own defaults and those of the
    inserted template. -/
theorem substitute_single (interp : Interpretation) (what : String) (intact : st.Intact)
    (held : st.template? r = some t) (declared : a ∈ t.placeholders)
    (supplies : st.Supplies values [(a, v)]) (inner : st.inner? v = some u) :
    (substitute interp what r values).Agree
      (t.receiving interp a [(a, u.source)] u.defaults >>= fun p => pure (.object p.2)) st := by
  have native := substitute_eq what held supplies (List.forall_mem_singleton.mpr declared)
    (inserts_inner interp t a inner)
  have single := rebuilt_single interp intact held
    (intact.closed.supplied supplies _ List.mem_cons_self) inner a [(a, u.source)]
  unfold Action.Agree at single ⊢
  rw [native.1, native.2, single.1, single.2]
  cases gives : (t.receiving interp a [(a, u.source)] u.defaults).resultAt st with
  | error f =>
      rw [Action.resultAt_bind_error gives, Action.resultAt_bind_error gives,
        Action.storeAfter_bind_error gives, Action.storeAfter_bind_error gives]
      exact ⟨rfl, rfl⟩
  | ok p =>
      rw [Action.resultAt_bind_ok gives, Action.resultAt_bind_ok gives,
        Action.storeAfter_bind_ok gives, Action.storeAfter_bind_ok gives]
      exact ⟨rfl, rfl⟩

/-- With one more default, substituting is the same and then one more step. -/
theorem substitute_single_append (interp : Interpretation) (what : String) (intact : st.Intact)
    (held : st.template? r = some t) (declared : a ∈ t.placeholders)
    (supplies : st.Supplies values [(a, v)]) (inner : st.inner? v = some u')
    (source : u'.source = u.source) (defaults : u'.defaults = u.defaults ++ [(c, d)]) :
    (substitute interp what r values).Agree
      (t.receiving interp a [(a, u.source)] u.defaults >>= fun p =>
        carryFrom interp p.1.placeholders p.2 [(.text c, d)] >>= fun _ =>
          pure (.object p.2)) st := by
  have single := substitute_single interp what intact held declared supplies inner
  rw [source, defaults, receiving_append, Action.bind_assoc] at single
  simp only [Action.bind_assoc, Action.pure_bind] at single
  exact single

/-- Under a name that the inserted template has no default for, the new template has one if
    and only if it comes from the outer template. -/
theorem Receives.hasDefault_iff {pre : Store → Prop} {n : Ref} {made : Template}
    {entries : List (String × Value)}
    (receives : Receives interp pre n made (t.nextDefault? a entries made.placeholders) st)
    (new : entries.lookup c = none) :
    st.hasDefault n c = true
      ↔ c ∈ made.placeholders ∧ c ≠ a ∧ c ∈ t.defaults.map Prod.fst := by
  rw [receives.hasDefault_eq, nextDefault?, new, Option.or_none]
  by_cases named : c ∈ made.placeholders
  · by_cases same : c = a
    · simp [same]
    · simp only [named, same, if_true, if_false, Option.isSome_iff_ne_none, ne_eq,
        lookup_eq_none_iff_keys, Classical.not_not, not_false_eq_true, true_and]
  · simp [named]

/-- Storing a default under a new key puts a copy behind those that there are, or raises
    what copying it raises. -/
theorem yields_storeOne_new {base : Store} {x : Template} (intact : base.Intact)
    (inside : base.Holds d) (given : d ≠ .undefined) (grown : base.Extends st)
    (there : st.template? next = some x) (new : c ∉ x.defaults.map Prod.fst) :
    (storeOne interp (copy interp) next c d).Yields st
      (fun _ st' => ∃ w, IsCopy interp base.Extends next st' d w
        ∧ st'.template? next = some { x with defaults := x.defaults ++ [(c, w)] })
      (CopyRaises interp base d) := by
  unfold storeOne
  rw [if_neg given]
  refine Action.yields_bind_asking ?_
  rw [Store.isSealed_of_template? there, if_pos rfl]
  have copying : (copied interp (copy interp) d).Ensures True st fun _ st' => st.Extends st' :=
    ensures_copied intact (ensures_copy intact) inside grown
  refine Action.yields_bind (Action.yields_mono (Action.yields_of_ensures
    (Action.ensures_known copying)) (fun _ _ h => h) fun raised fails => ⟨st, grown, fails⟩) ?_
  rintro w st' ⟨added, gives, rfl⟩
  have still := added.template? there
  refine ⟨w, ⟨st, grown, gives, Store.extendsBut_putDefault still⟩, ?_⟩
  rw [← Store.setDefaultValue_new new]
  exact Store.template?_putDefault still

/-- Inserting a template with one more default than another one. Unless that default
    names a placeholder of the new template, other than the filled one, for which the
    outer template has none, it makes no difference: the two calls have the same result
    and leave the same store behind. Otherwise the new template is the same up to a copy
    of the default that it has in addition, or copying that raises something. -/
theorem insert_with_undeclared (interp : Interpretation) (what : String) (intact : st.Intact)
    (held : st.template? r = some t) (declared : a ∈ t.placeholders) (orderly : t.Orderly)
    (supplies : st.Supplies values [(a, .object q)])
    (supplies' : st.Supplies values' [(a, .object q')])
    (inner : st.inner? (.object q) = some u) (inner' : st.inner? (.object q') = some u')
    (source : u'.source = u.source) (defaults : u'.defaults = u.defaults ++ [(c, d)])
    (orderly' : u'.Orderly) :
    let plain := substitute interp what r values
    let extra := substitute interp what r values'
    (∀ f, plain.resultAt st = .error f → extra.Agree plain st)
      ∧ ∀ v, plain.resultAt st = .ok v → ∃ n x, v = .object n
        ∧ (plain.storeAfter st).template? n = some x
        ∧ (c ∉ x.placeholders ∨ c ≠ a ∧ c ∈ t.defaults.map Prod.fst → extra.Agree plain st)
        ∧ (c ∈ x.placeholders → ¬ (c ≠ a ∧ c ∈ t.defaults.map Prod.fst) →
          extra.Yields st
            (fun v' st' => v' = v ∧ ∃ w, IsCopy interp st.Extends n st' d w
              ∧ st'.template? n = some { x with defaults := x.defaults ++ [(c, w)] })
            (CopyRaises interp st d)) := by
  intro plain extra
  let answer : Template × Ref → Action Value := fun p => pure (.object p.2)
  let step : Template × Ref → Action Unit := fun p =>
    carryFrom interp p.1.placeholders p.2 [(.text c, d)]
  let first := t.receiving interp a [(a, u.source)] u.defaults
  have plain_eq : plain.Agree (first >>= answer) st :=
    substitute_single interp what intact held declared supplies inner
  have extra_eq : extra.Agree (first >>= fun p => step p >>= fun _ => answer p) st :=
    substitute_single_append interp what intact held declared supplies' inner' source defaults
  -- All depends on what the last step does where the others have succeeded.
  have agree (idle : ∀ p, first.resultAt st = .ok p → (step p).Agree (pure ())
      (first.storeAfter st)) : extra.Agree plain st := by
    refine (extra_eq.trans (Action.agree_bind (.refl first st) fun p gives => ?_)).trans
      plain_eq.symm
    have rest := Action.agree_bind (idle p gives) fun _ _ => .refl (answer p) _
    rw [Action.pure_bind] at rest
    exact rest
  have inside : ∀ e ∈ u'.defaults, st.Holds e.2 := by
    rcases inner?_eq_some inner' with ⟨p, -, there⟩
    exact fun e he => intact.closed.default there he
  have known : ∀ e ∈ u.defaults, e ∈ u'.defaults := by
    intro e he
    rw [defaults]
    exact List.mem_append_left _ he
  have last : (c, d) ∈ u'.defaults := by
    rw [defaults]
    exact List.mem_append_right _ List.mem_cons_self
  have new : u.defaults.lookup c = none := by
    have distinct := orderly'.distinct
    rw [defaults, List.map_append] at distinct
    refine lookup_eq_none_iff_keys.mpr fun mem => ?_
    exact (List.nodup_append.mp distinct).2.2 c mem c List.mem_cons_self rfl
  cases gives : first.resultAt st with
  | error f =>
      have fails : plain.resultAt st = .error f :=
        plain_eq.1.trans (Action.resultAt_bind_error gives)
      refine ⟨fun _ _ => agree fun p given => ?_, fun v result => ?_⟩
      · cases gives.symm.trans given
      · cases fails.symm.trans result
  | ok p =>
      rcases p with ⟨made, n⟩
      have result : plain.resultAt st = .ok (.object n) :=
        plain_eq.1.trans (Action.resultAt_bind_ok gives)
      have left : plain.storeAfter st = first.storeAfter st :=
        plain_eq.2.trans (Action.storeAfter_bind_ok gives)
      refine ⟨fun f fails => (by cases result.symm.trans fails), fun v result' => ?_⟩
      cases result.symm.trans result'
      rcases receives_receiving interp intact held orderly (fun e he => inside e (known e he))
        (fun e he => orderly'.given e (known e he)) gives with ⟨rfl, receives⟩
      rcases receives.held with ⟨ds, there, -, copies⟩
      have known_iff : (first.storeAfter st).hasDefault st.next c = true
          ↔ c ∈ made.placeholders ∧ c ≠ a ∧ c ∈ t.defaults.map Prod.fst :=
        receives.hasDefault_iff new
      refine ⟨st.next, { made with defaults := ds }, rfl, left ▸ there,
        fun spared => agree fun p given => ?_, fun (named : c ∈ made.placeholders) missing => ?_⟩
      · cases gives.symm.trans given
        refine (carryFrom_single made.placeholders st.next c d).1 ?_
        by_cases named : c ∈ made.placeholders
        · exact .inr (known_iff.mpr ⟨named, spared.resolve_left fun unnamed => unnamed named⟩)
        · exact .inl named
      · have absent : (first.storeAfter st).hasDefault st.next c = false := by
          rw [Bool.eq_false_iff, Ne, known_iff]
          exact fun own => missing own.2
        have fresh : c ∉ ds.map Prod.fst := by
          rw [← lookup_eq_none_iff_keys, ← Option.isNone_iff_eq_none,
            ← Option.isSome_eq_false_iff, ← absent, Store.hasDefault, there]
        have storing : (storeOne interp (copy interp) st.next c d).Yields _ _ _ :=
          yields_storeOne_new intact (inside _ last) (orderly'.given _ last) receives.kept there
            fresh
        have stepping : (carryFrom interp made.placeholders st.next [(.text c, d)]).Agree _ _ :=
          (carryFrom_single made.placeholders st.next c d).2 named absent
        refine extra_eq.yields (Action.yields_bind_ok gives ?_)
        refine (Action.agree_bind stepping fun _ _ => .refl _ _).yields ?_
        exact Action.yields_bind storing fun _ st' stored => ⟨rfl, stored⟩

section

private def spacedCut : Cut :=
  .placed [] "a" (.placed [' '] "c" (.last []))

private def wordCut : Cut :=
  .last ['x']

/-- A template with a name that has no default, and two templates without names, one of
    which has a default under that name. -/
private def spaced : Template :=
  ofCut "" spacedCut (by decide) []

private def bareWord : Template :=
  ofCut "" wordCut (by decide) []

private def wordWithDefault : Template :=
  ofCut "" wordCut (by decide) [("c", .text "d")]

private def spaces : Store :=
  ⟨Store.initial.objects ++ #[Object.ofBody (.template spaced),
    Object.ofBody (.template bareWord), Object.ofBody (.template wordWithDefault),
    Object.plain [("a", .object ⟨3⟩)], Object.plain [("a", .object ⟨4⟩)]]⟩

/-- A default for a name that its template does not have becomes one of the template
    that it is inserted in. -/
theorem insert_with_undeclared_of_word :
    let interp := Interpretation.standard
    let plain := substitute interp "this" ⟨2⟩ (.object ⟨5⟩)
    let extra := substitute interp "this" ⟨2⟩ (.object ⟨6⟩)
    spaces.Intact ∧ spaces.template? ⟨2⟩ = some spaced ∧ "a" ∈ spaced.placeholders
      ∧ spaced.Orderly ∧ spaces.Supplies (.object ⟨5⟩) [("a", .object ⟨3⟩)]
      ∧ spaces.Supplies (.object ⟨6⟩) [("a", .object ⟨4⟩)]
      ∧ spaces.inner? (.object ⟨3⟩) = some bareWord
      ∧ spaces.inner? (.object ⟨4⟩) = some wordWithDefault
      ∧ wordWithDefault.source = bareWord.source
      ∧ wordWithDefault.defaults = bareWord.defaults ++ [("c", .text "d")]
      ∧ wordWithDefault.Orderly ∧ "c" ∉ bareWord.placeholders
      ∧ plain.resultAt spaces = .ok (.object ⟨7⟩)
      ∧ ∃ x w, (plain.storeAfter spaces).template? ⟨7⟩ = some x ∧ x.placeholders = ["c"]
        ∧ x.defaults = [] ∧ IsCopy interp spaces.Extends ⟨7⟩ (extra.storeAfter spaces) (.text "d") w
        ∧ (extra.storeAfter spaces).template? ⟨7⟩ = some { x with defaults := [("c", w)] } := by
  intro interp plain extra
  have intact : spaces.Intact := by decide
  have held : spaces.template? ⟨2⟩ = some spaced := rfl
  have declared : "a" ∈ spaced.placeholders := by decide
  have orderly : spaced.Orderly := by decide
  have supplies : spaces.Supplies (.object ⟨5⟩) [("a", .object ⟨3⟩)] := by decide
  have supplies' : spaces.Supplies (.object ⟨6⟩) [("a", .object ⟨4⟩)] := by decide
  have inner : spaces.inner? (.object ⟨3⟩) = some bareWord := by decide
  have inner' : spaces.inner? (.object ⟨4⟩) = some wordWithDefault := by decide
  have orderly' : wordWithDefault.Orderly := by decide
  have result : plain.resultAt spaces = .ok (.object ⟨7⟩) := by decide +kernel
  have result' : extra.resultAt spaces = .ok (.object ⟨7⟩) := by decide +kernel
  have made : ((plain.storeAfter spaces).template? ⟨7⟩).map (fun x => (x.placeholders, x.defaults))
      = some (["c"], []) := by decide +kernel
  refine ⟨intact, held, declared, orderly, supplies, supplies', inner, inner', rfl, rfl, orderly',
    by decide, result, ?_⟩
  rcases (insert_with_undeclared interp "this" intact held declared orderly supplies supplies'
    inner inner' rfl rfl orderly').2 _ result with ⟨n, x, same, there, -, captured⟩
  cases same
  rw [there, Option.map_some, Option.some.injEq, Prod.mk.injEq] at made
  have yields := captured (by rw [made.1]; decide) (by decide)
  unfold Action.Yields at yields
  rw [result'] at yields
  rcases yields with ⟨-, w, copy, given⟩
  rw [made.2] at given
  exact ⟨x, w, there, made.1, made.2, copy, given⟩

end

end Template

end Stencil
