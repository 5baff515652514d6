import Stencil.Proofs.Checking
import Stencil.Proofs.Creating
import Stencil.Proofs.Reporting
import Stencil.Proofs.StoredDefaults

/-!
# What Substituting Comes To

All outcomes of substituting, in the order in which they take precedence.

Keys that name no placeholder come first, all of them at once. Then comes the
first value that cannot be written, in the order of the entries. Once there is
a text for every entry the new source is put together, and either it does not
parse, or there is a new template with that source and the settings of the old
one. The settings are passed on without another check. They would pass as options
and come to themselves, as long as the library that checks options does what it
documents, and so they stay the same however often something is substituted in what
came of it.

The one thing that can still go wrong is not about the source. The new template
receives copies of defaults, and copying a value asks the value for its parts.
What that raises is passed on as it is. `Action.Yields` follows it through the
loops, so that it can be told which default it came from.

## Main definitions

* `Action.Yields`: What an action comes to, and what it raises.
* `Template.Carries`: A template that is being given defaults.
* `Template.PassesOn`: A default goes on to the new template.
* `Template.CopyRaises`: What copying a value raises.
* `Template.SubstituteOutcome`: All that substituting can come to.
* `Settings.asOptions`: Settings as options.
* `Template.Descends`: A template that came of substituting again and again.

## Theorems

* `Template.exists_texts_or_first`: All entries have texts, or there is a first
  one that has none.
* `Template.yields_rebuilt`: What building the new template comes to.
* `Settings.resolve_asOptions`: Settings are what they come to as options.
* `Template.Descends.settings`: Substituting keeps settings.
* `Template.substitute_outcome`: The outcome of substituting.
-/

namespace Stencil

/-! ### What is raised -/

namespace Action

variable {α β : Type} {x : Action α} {f : α → Action β} {st : Store} {a : α}
  {post mid : α → Store → Prop} {last : β → Store → Prop} {raises : Thrown → Prop}

/-- If the action succeeds, then a condition holds of its value and of the store
    after it. If it fails, then with something raised that meets a condition. -/
def Yields (x : Action α) (st : Store) (post : α → Store → Prop) (raises : Thrown → Prop) :
    Prop :=
  match x.resultAt st with
  | .ok a => post a (x.storeAfter st)
  | .error f => ∃ raised, f = .thrown raised ∧ raises raised

/-- What an action raises is what it fails with. -/
theorem yields_of_ensures (h : x.Ensures True st post) :
    x.Yields st post fun raised => x.resultAt st = .error (.thrown raised) := by
  unfold Ensures at h
  unfold Yields
  cases gives : x.resultAt st with
  | ok a => simpa [gives] using h
  | error e =>
      simp only [gives, true_and] at h
      rcases h with ⟨raised, rfl⟩
      exact ⟨raised, rfl, rfl⟩

theorem yields_mono {weaker : α → Store → Prop} {more : Thrown → Prop}
    (h : x.Yields st post raises) (imp : ∀ a st', post a st' → weaker a st')
    (le : ∀ raised, raises raised → more raised) : x.Yields st weaker more := by
  unfold Yields at h ⊢
  cases gives : x.resultAt st with
  | ok a =>
      rw [gives] at h
      exact imp a _ h
  | error e =>
      rw [gives] at h
      rcases h with ⟨raised, same, h⟩
      exact ⟨raised, same, le raised h⟩

theorem yields_bind (first : x.Yields st mid raises)
    (second : ∀ a st', mid a st' → (f a).Yields st' last raises) :
    (x >>= f).Yields st last raises := by
  unfold Yields at first
  cases gives : x.resultAt st with
  | ok a =>
      rw [gives] at first
      unfold Yields
      rw [resultAt_bind_ok gives, storeAfter_bind_ok gives]
      exact second a _ first
  | error e =>
      rw [gives] at first
      unfold Yields
      rw [resultAt_bind_error gives]
      exact first

/-- A step whose outcome is known. -/
theorem yields_bind_ok (gives : x.resultAt st = .ok a)
    (rest : (f a).Yields (x.storeAfter st) last raises) : (x >>= f).Yields st last raises := by
  unfold Yields
  rw [resultAt_bind_ok gives, storeAfter_bind_ok gives]
  exact rest

theorem yields_bind_asking {q : Store → α} (rest : (f (q st)).Yields st last raises) :
    (asking q >>= f).Yields st last raises :=
  rest

end Action

namespace Template

variable {interp : Interpretation} {base st : Store} {r next : Ref} {t u : Template}
  {values : Value} {supplied : List (String × Value)} {texts : List (String × String)}

/-! ### The texts of entries -/

/-- All entries have texts, or there is a first one that has none. -/
theorem exists_texts_or_first (interp : Interpretation) (t : Template) (untouched : st.Untouched)
    (supplied : List (String × Value)) :
    (∃ texts, List.Forall₂ (t.Inserts interp st) supplied texts)
      ∨ ∃ before texts n v after, supplied = before ++ (n, v) :: after
        ∧ List.Forall₂ (t.Inserts interp st) before texts ∧ st.templateRef? v = none
        ∧ ∀ s, t.serialize interp st v ≠ .ok (.existing (.text s)) := by
  induction supplied with
  | nil => exact .inl ⟨[], .nil⟩
  | cons e supplied ih =>
      rcases e with ⟨n, v⟩
      by_cases written : ∃ s, t.Inserts interp st (n, v) (n, s)
      · rcases written with ⟨s, first⟩
        rcases ih with ⟨texts, rest⟩ | ⟨before, texts, m, w, after, rfl, rest, simple, noText⟩
        · exact .inl ⟨(n, s) :: texts, .cons first rest⟩
        · exact .inr ⟨(n, v) :: before, (n, s) :: texts, m, w, after, rfl, .cons first rest, simple,
            noText⟩
      · -- A template always has a source, so what cannot be inserted is none.
        have simple : st.templateRef? v = none := by
          cases found : st.templateRef? v with
          | none => rfl
          | some inner =>
              rcases untouched.template found with ⟨u, held⟩
              exact absurd ⟨u.source, rfl, by simp [found, held]⟩ written
        refine .inr ⟨[], [], n, v, supplied, rfl, .nil, simple, fun s gives => written ⟨s, rfl, ?_⟩⟩
        simpa [simple] using gives

/-! ### Defaults that are passed on -/

/-- A template is being given defaults, in a store that has grown. -/
structure Carries (base : Store) (next : Ref) (u : Template) (st : Store) : Prop where
  grown : base.Extends st
  held : ∃ defaults, st.template? next = some { u with defaults := defaults }

/-- Copying a value that is to be stored raises something, in some store that has
    grown out of the one that the value is from. -/
def CopyRaises (interp : Interpretation) (base : Store) (v : Value) (raised : Thrown) : Prop :=
  ∃ st, base.Extends st ∧ (copied interp (copy interp) v).resultAt st = .error (.thrown raised)

/-- A default goes on to the template that comes of substituting: an own one under
    a key that is not supplied, or one of a template that is inserted. -/
inductive PassesOn (st : Store) (t : Template) (supplied : List (String × Value))
    (placeholders : List String) (e : String × Value) : Prop where
  | own (default : e ∈ t.defaults) (left : e.1 ∉ supplied.map Prod.fst)
      (named : e.1 ∈ placeholders)
  | inner {d : String × Value} {q : Ref} {u : Template} (among : d ∈ supplied)
      (isTemplate : st.templateRef? d.2 = some q) (held : st.template? q = some u)
      (default : e ∈ u.defaults) (named : e.1 ∈ placeholders)

section

variable (interp : Interpretation) (intact : base.Intact)
  (fresh : base.objects.size ≤ next.index)

include intact fresh

/-- Storing a default raises what copying it raises. -/
theorem yields_storeOne (key : String) {v : Value} (carries : Carries base next u st)
    (held : base.Holds v) :
    (storeOne interp (copy interp) next key v).Yields st (fun _ st' => Carries base next u st')
      (CopyRaises interp base v) := by
  unfold storeOne
  by_cases undefined : v = .undefined
  · rw [if_pos undefined]
    exact carries
  · rw [if_neg undefined]
    rcases carries.held with ⟨defaults, there⟩
    refine Action.yields_bind_asking ?_
    rw [Store.isSealed_of_template? there, if_pos rfl]
    have copying : (copied interp (copy interp) v).Ensures True st fun _ st' => st.Extends st' :=
      ensures_copied intact (ensures_copy intact) held carries.grown
    refine Action.yields_bind (Action.yields_mono (Action.yields_of_ensures copying)
      (fun _ _ h => h) fun raised fails => ?_) fun w st' grown => ?_
    · exact ⟨st, carries.grown, fails⟩
    · -- Copying only added objects, so the template is still there.
      have still := grown.template? there
      have stored : (st'.putDefault next key w).template? next = _ :=
        Store.template?_putDefault still
      exact ⟨(Store.extendsBut_putDefault still).after (carries.grown.trans grown) fresh, _, stored⟩

/-- Storing defaults raises what copying one of them raises. -/
theorem yields_storeAll {entries : List (String × Value)} (carries : Carries base next u st)
    (held : ∀ e ∈ entries, base.Holds e.2) :
    (storeAll interp (copy interp) next entries).Yields st (fun _ st' => Carries base next u st')
      fun raised => ∃ e ∈ entries, CopyRaises interp base e.2 raised := by
  induction entries generalizing st with
  | nil => exact carries
  | cons e entries ih =>
      rcases e with ⟨key, v⟩
      have one := yields_storeOne interp intact fresh key carries (held _ List.mem_cons_self)
      refine Action.yields_bind (Action.yields_mono one (fun _ _ h => h) fun raised fails => ?_)
        fun _ st' carries' => ?_
      · exact ⟨_, List.mem_cons_self, fails⟩
      · refine Action.yields_mono (ih carries' fun e he => held e (List.mem_cons_of_mem _ he))
          (fun _ _ h => h) fun raised fails => ?_
        rcases fails with ⟨e, he, fails⟩
        exact ⟨e, List.mem_cons_of_mem _ he, fails⟩

/-- Passing on the defaults of an inserted template raises what copying one of them
    raises. -/
theorem yields_carryFrom (placeholders : List String) {entries : List (String × Value)}
    (carries : Carries base next u st) (held : ∀ e ∈ entries, base.Holds e.2) :
    (carryFrom interp placeholders next (entries.map fun e => (Value.text e.1, e.2))).Yields st
      (fun _ st' => Carries base next u st')
      fun raised => ∃ e ∈ entries, e.1 ∈ placeholders ∧ CopyRaises interp base e.2 raised := by
  induction entries generalizing st with
  | nil => exact carries
  | cons e entries ih =>
      rcases e with ⟨key, v⟩
      have rest {st' : Store} (carries' : Carries base next u st') :
          (carryFrom interp placeholders next
            (entries.map fun e => (Value.text e.1, e.2))).Yields st'
            (fun _ st'' => Carries base next u st'') fun raised => ∃ e ∈ (key, v) :: entries,
              e.1 ∈ placeholders ∧ CopyRaises interp base e.2 raised := by
        refine Action.yields_mono (ih carries' fun e he => held e (List.mem_cons_of_mem _ he))
          (fun _ _ h => h) fun raised fails => ?_
        rcases fails with ⟨e, he, fails⟩
        exact ⟨e, List.mem_cons_of_mem _ he, fails⟩
      refine Action.yields_bind_asking ?_
      split
      · next pass =>
          have named : key ∈ placeholders := by
            rw [Bool.and_eq_true, List.contains_iff_mem] at pass
            exact pass.1
          have one := yields_storeOne interp intact fresh key carries (held _ List.mem_cons_self)
          refine Action.yields_bind (Action.yields_mono one (fun _ _ h => h) fun raised fails => ?_)
            fun _ st' carries' => rest carries'
          exact ⟨_, List.mem_cons_self, named, fails⟩
      · exact rest carries

/-- The defaults of all inserted templates are passed on. -/
theorem yields_carryFromAll (placeholders : List String) {supplied : List (String × Value)}
    (carries : Carries base next u st) (held : ∀ e ∈ supplied, base.Holds e.2) :
    (carryFromAll interp (carryFrom interp placeholders next) supplied).Yields st
      (fun _ st' => Carries base next u st')
      fun raised => ∃ d ∈ supplied, ∃ q w, base.templateRef? d.2 = some q
        ∧ base.template? q = some w
        ∧ ∃ e ∈ w.defaults, e.1 ∈ placeholders ∧ CopyRaises interp base e.2 raised := by
  induction supplied generalizing st with
  | nil => exact carries
  | cons d supplied ih =>
      rcases d with ⟨key, v⟩
      have rest {st' : Store} (carries' : Carries base next u st') :
          (carryFromAll interp (carryFrom interp placeholders next) supplied).Yields st'
            (fun _ st'' => Carries base next u st'') fun raised => ∃ d ∈ (key, v) :: supplied,
              ∃ q w, base.templateRef? d.2 = some q ∧ base.template? q = some w
                ∧ ∃ e ∈ w.defaults, e.1 ∈ placeholders ∧ CopyRaises interp base e.2 raised := by
        refine Action.yields_mono (ih carries' fun e he => held e (List.mem_cons_of_mem _ he))
          (fun _ _ h => h) fun raised fails => ?_
        rcases fails with ⟨d, hd, fails⟩
        exact ⟨d, List.mem_cons_of_mem _ hd, fails⟩
      refine Action.yields_bind_asking ?_
      -- What is a template now was one when it was supplied.
      rw [carries.grown.templateRef?_eq intact.closed (held (key, v) List.mem_cons_self)]
      cases found : base.templateRef? v with
      | none => exact rest carries
      | some q =>
          rcases intact.untouched.template found with ⟨w, there⟩
          rcases defaultsOf_eq interp (carries.grown.template? there) with ⟨read, kept⟩
          refine Action.yields_bind_ok read ?_
          rw [kept]
          have inner := yields_carryFrom interp intact fresh placeholders carries
            fun e he => intact.closed.default there he
          refine Action.yields_bind (Action.yields_mono inner (fun _ _ h => h)
            fun raised fails => ?_) fun _ st' carries' => rest carries'
          exact ⟨(key, v), List.mem_cons_self, q, w, found, there, fails⟩

end

/-! ### The new template -/

/-- Building the new template gives one with the new source and the settings of the
    old one, or raises what copying a default that is passed on raises. -/
theorem yields_rebuilt (interp : Interpretation) (intact : st.Intact)
    (held : st.template? r = some t) (supplies : st.Supplies values supplied)
    {outline : Outline} (parses : Outline.ofSource? (t.splice texts) = .ok outline) :
    (t.rebuilt interp supplied texts).Yields st
      (fun q st' => q = st.next ∧ st.Extends st' ∧ ∃ u, st'.template? st.next = some u
        ∧ u.source = t.splice texts ∧ u.placeholders = outline.placeholders
        ∧ u.variant = t.derivedVariant ∧ u.settings = t.derivedSettings)
      fun raised => ∃ e, PassesOn st t supplied outline.placeholders e
        ∧ CopyRaises interp st e.2 raised := by
  rcases derive_ok st t parses with ⟨u, derived, given, added⟩
  have placeholders : u.placeholders = outline.placeholders := by
    rw [Template.placeholders, derived.outline_eq parses]
  have pushed := Store.extends_push st (Object.ofBody (.template u))
  have carries : Carries st st.next u (st.push (Object.ofBody (.template u))) :=
    ⟨pushed, u.defaults, Store.template?_push_next st u⟩
  refine Action.yields_bind_ok given ?_
  rw [added]
  have inside : ∀ e ∈ t.carriedOwn u.placeholders (supplied.map Prod.fst), st.Holds e.2 :=
    fun e he => intact.closed.default held (mem_carriedOwn.mp he).1
  have own := yields_storeAll interp intact (Nat.le_refl _) carries inside
  refine Action.yields_bind (Action.yields_mono own (fun _ _ h => h) fun raised fails => ?_)
    fun _ st₁ carries₁ => ?_
  · rcases fails with ⟨e, he, fails⟩
    rcases mem_carriedOwn.mp he with ⟨default, named, left⟩
    exact ⟨e, .own default left (placeholders ▸ named), fails⟩
  · have inner := yields_carryFromAll interp intact (Nat.le_refl _) u.placeholders carries₁
      (intact.closed.supplied supplies)
    refine Action.yields_bind (Action.yields_mono inner (fun _ _ h => h) fun raised fails => ?_)
      fun _ st₂ carries₂ => ?_
    · rcases fails with ⟨d, hd, q, w, isTemplate, there, e, he, named, fails⟩
      exact ⟨e, .inner hd isTemplate there he (placeholders ▸ named), fails⟩
    · rcases carries₂.held with ⟨defaults, there⟩
      exact ⟨rfl, carries₂.grown, _, there, derived.source_eq, placeholders, derived.variant,
        derived.settings⟩

/-! ### The outcome of one call -/

/-- All that substituting entries in a template can come to. The fields go by what
    takes precedence. -/
structure SubstituteOutcome (interp : Interpretation) (st : Store) (t : Template)
    (supplied : List (String × Value)) (result : Except Failure Value) (after : Store) : Prop where
  /-- Keys that name no placeholder are refused all at once, and nothing happens. -/
  unknown : let keys := (supplied.map Prod.fst).filter (· ∉ t.placeholders)
    keys ≠ [] → result = .error (.template (.invalidKeys keys t.placeholders t.name)) ∧ after = st
  /-- The first value without a text is refused, and under its key if it can be
      reported. -/
  refused : ∀ n v, t.InsertsFirst interp st supplied n v → ∃ f, result = .error f
    ∧ ∀ type cause, t.Blames interp st v type cause →
      f = .template (.serialization n type cause t.name)
  /-- A new source that does not parse is refused. -/
  malformed : ∀ (texts : List (String × String)) (c : Cut) m,
    (∀ e ∈ supplied, e.1 ∈ t.placeholders) →
    List.Forall₂ (t.Inserts interp st) supplied texts → c.Of t.source →
    Outline.ofSource? (String.ofList (c.fill (texts.lookup ·))) = .error m →
    result = .error (.template (.malformed m t.name))
  /-- A new source that parses is that of a new template, unless copying a default
      that goes on to it raises something. -/
  built : ∀ (texts : List (String × String)) (c : Cut) outline,
    (∀ e ∈ supplied, e.1 ∈ t.placeholders) →
    List.Forall₂ (t.Inserts interp st) supplied texts → c.Of t.source →
    Outline.ofSource? (String.ofList (c.fill (texts.lookup ·))) = .ok outline →
    (∃ q u, result = .ok (.object q) ∧ st.objects.size ≤ q.index ∧ st.Extends after
        ∧ after.template? q = some u
        ∧ u.source = String.ofList (c.fill (texts.lookup ·))
        ∧ u.placeholders = outline.placeholders ∧ u.variant = t.derivedVariant
        ∧ u.settings = t.derivedSettings)
      ∨ ∃ e raised, PassesOn st t supplied outline.placeholders e
        ∧ CopyRaises interp st e.2 raised ∧ result = .error (.thrown raised)
  /-- The settings that are passed on are those of the old template, though
      templates of one kind pass on their name alone. -/
  settings : t.derivedSettings.name = t.name
    ∧ (t.variant ≠ .shouting → t.derivedSettings = t.settings)
  /-- There are no other cases. -/
  complete : (supplied.map Prod.fst).filter (· ∉ t.placeholders) ≠ []
    ∨ (∃ n v, t.InsertsFirst interp st supplied n v)
    ∨ (∀ e ∈ supplied, e.1 ∈ t.placeholders) ∧ ∃ texts, ∃ c : Cut,
      List.Forall₂ (t.Inserts interp st) supplied texts ∧ c.Of t.source

theorem derivedSettings_name (t : Template) : t.derivedSettings.name = t.name := by
  unfold derivedSettings
  cases t.variant <;> rfl

theorem derivedSettings_eq (ordinary : t.variant ≠ .shouting) : t.derivedSettings = t.settings := by
  unfold derivedSettings
  split
  · next shouting => exact absurd shouting ordinary
  · rfl
  · rfl

/-- Substituting comes to one of these. -/
theorem outcome_of_substitute (interp : Interpretation) (what : String) (intact : st.Intact)
    (held : st.template? r = some t) (supplies : st.Supplies values supplied) :
    SubstituteOutcome interp st t supplied ((substitute interp what r values).resultAt st)
      ((substitute interp what r values).storeAfter st) where
  unknown := by
    intro keys some_
    have unknown_eq : t.unknownKeys (supplied.map Prod.fst) = keys := by
      refine List.filter_congr fun key _ => ?_
      simp only [List.contains_eq_mem, decide_not]
    rcases substitute_native interp what held supplies with ⟨gives, leaves⟩
    rw [← unknown_eq] at some_ ⊢
    have fails : (t.substituteSupplied interp supplied).resultAt st = _ :=
      resultAt_bind_checkKeys_unknown some_
    refine ⟨by rw [gives, fails]; rfl, ?_⟩
    rw [leaves]
    unfold substituteSupplied
    rw [Action.storeAfter_bind_error, Action.storeAfter_checked]
    rw [checkKeys, if_neg some_]
    rfl
  refused := by
    intro n v first
    cases writes : (t.write interp n v).resultAt st with
    | ok s => exact absurd (resultAt_write_eq_ok_iff.mp writes) (first.noText s)
    | error f =>
        refine ⟨f, substitute_eq_error what held supplies first writes, fun type cause blames => ?_⟩
        exact Except.error.inj (writes.symm.trans (resultAt_write_blamed n blames))
  malformed := by
    intro texts c m known inserts cut fails
    rw [← splice_eq_fill_cut cut] at fails
    rw [(substitute_eq what held supplies known inserts).1, resultAt_rebuilt_malformed fails,
      derivedSettings_name]
    rfl
  built := by
    intro texts c outline known inserts cut parses
    rw [← splice_eq_fill_cut cut] at parses ⊢
    have yields := yields_rebuilt interp intact held supplies parses
    rcases substitute_eq what held supplies known inserts with ⟨gives, leaves⟩
    rw [gives, leaves]
    unfold Action.Yields at yields
    cases built : (t.rebuilt interp supplied texts).resultAt st with
    | ok q =>
        rw [built] at yields
        rcases yields with ⟨rfl, grown, u, there, source, placeholders, variant, settings⟩
        exact .inl ⟨_, u, rfl, Nat.le_refl _, grown, there, source, placeholders, variant,
          settings⟩
    | error f =>
        rw [built] at yields
        rcases yields with ⟨raised, rfl, e, passes, fails⟩
        exact .inr ⟨e, raised, passes, fails, rfl⟩
  settings := ⟨derivedSettings_name t, derivedSettings_eq⟩
  complete := by
    -- Keys are checked before any value is written, and values are written before the new
    -- source is read.
    by_cases known : ∀ e ∈ supplied, e.1 ∈ t.placeholders
    · rcases exists_texts_or_first interp t intact.untouched supplied with
        ⟨texts, inserts⟩ | ⟨before, texts, n, v, after, split, inserts, simple, noText⟩
      · rcases t.exists_cut with ⟨c, cut, -⟩
        exact .inr (.inr ⟨known, texts, c, inserts, cut⟩)
      · exact .inr (.inl ⟨n, v, known, ⟨before, texts, after, split, inserts⟩, simple, noText⟩)
    · refine .inl fun none => known fun e he => ?_
      have := List.filter_eq_nil_iff.mp none e.1 (List.mem_map_of_mem he)
      simpa using this

end Template

/-! ### Settings as options -/

namespace Settings

variable {interp : Interpretation} {st : Store} {r : Ref} {settings : Settings}

/-- Settings as options, a plain object. -/
def asOptions (settings : Settings) : Object :=
  Object.plain [
    ("name", .text settings.name),
    ("serializer", (settings.serializer.map Value.object).getD .undefined),
    ("dedent", .boolean settings.dedent)]

/-- A serializer, if there is one, is a function. -/
def Callable (st : Store) (settings : Settings) : Prop :=
  ∀ f, settings.serializer = some f → (st.get f).isFunction = true

/-- Settings are what they come to as options. -/
theorem resolve_asOptions (checks : interp.Checks) (there : st.get r = settings.asOptions)
    (callable : settings.Callable st) :
    resolve interp st (.object r) = .ok (st, settings) := by
  rcases settings with ⟨name, f?, wish⟩
  have meets : st.Meets shape [("name", .text name),
      ("serializer", (f?.map Value.object).getD .undefined), ("dedent", .boolean wish)] := by
    refine ⟨?_, by simp, by simp, ?_⟩
    · refine .cons ⟨rfl, rfl⟩ (.cons ⟨rfl, ?_⟩ (.cons ⟨rfl, rfl⟩ .nil))
      cases f? with
      | none => rfl
      | some f =>
          simp [Schema.accepts, Store.functionRef?, callable f rfl]
    · intro e he q hq
      simp only [List.mem_cons, List.not_mem_nil, or_false] at he
      rcases he with rfl | rfl | rfl
      · cases hq
      · cases f? with
        | none => cases hq
        | some f =>
            rw [List.mem_singleton.mp hq]
            exact callable f rfl
      · cases hq
  rcases checks st shape _ r there meets with ⟨data, passes, same⟩
  -- What is given back is found under the same keys.
  have values : ofData st data = ⟨name, f?, wish⟩ := by
    rw [ofData, same, same, same]
    cases f? with
    | none => rfl
    | some f =>
        have isFunction := callable f rfl
        simp [List.lookup_cons, Store.functionRef?, isFunction]
  simp only [resolve, checkedAs, passes, lift, bind, Except.bind, Store.extended, List.foldl_nil,
    values]
  rfl

/-- A template passes on the serializer that it has, or none. -/
theorem Callable.derived {t : Template} (callable : t.settings.Callable st) :
    t.derivedSettings.Callable st := by
  intro f serializer
  unfold Template.derivedSettings at serializer
  split at serializer
  · cases serializer
  · exact callable f serializer
  · exact callable f serializer

theorem Callable.extends {st' : Store} (callable : settings.Callable st) (grown : st.Extends st') :
    settings.Callable st' := by
  intro f serializer
  have isFunction := callable f serializer
  by_cases inside : f.index < st.objects.size
  · rw [grown.get_eq f inside]
    exact isFunction
  · -- Where nothing was allocated there is no function.
    rw [Store.get_of_size_le (Nat.le_of_not_lt inside)] at isFunction
    cases isFunction

end Settings

namespace Template

variable {interp : Interpretation} {st st₀ : Store} {r r₀ : Ref} {t t₀ : Template}
  {values : Value} {supplied : List (String × Value)}

/-- The settings of a template pass as options, and come to themselves. -/
theorem resolve_settings (checks : interp.Checks) (callable : t.settings.Callable st) :
    let given := st.allocateSettings t.name t.serializer t.dedent
    Settings.resolve interp given.1 given.2 = .ok (given.1, t.settings) := by
  intro given
  have allocated : given = (st.push t.settings.asOptions, .object st.next) := by
    change st.allocatePlain _ = _
    unfold Settings.asOptions settings
    cases t.serializer <;> rfl
  rw [allocated]
  exact Settings.resolve_asOptions checks Store.get_push_next
    (callable.extends (Store.extends_push st _))

/-! ### The outcome after any number of calls -/

/-- A template came of another one by substituting, any number of times. In the
    meantime anything may happen, as long as the template keeps its settings and
    functions remain functions. -/
inductive Descends (interp : Interpretation) (st₀ : Store) (r₀ : Ref) : Store → Ref → Prop where
  | start : Descends interp st₀ r₀ st₀ r₀
  | meanwhile {st st' : Store} {r : Ref} (before : Descends interp st₀ r₀ st r)
      (same : ∀ t, st.template? r = some t →
        ∃ t', st'.template? r = some t' ∧ t'.variant = t.variant ∧ t'.settings = t.settings)
      (functions : ∀ f, (st.get f).isFunction = true → (st'.get f).isFunction = true) :
      Descends interp st₀ r₀ st' r
  | step {st : Store} {r next : Ref} {values : Value} {supplied : List (String × Value)}
      (what : String) (before : Descends interp st₀ r₀ st r) (intact : st.Intact)
      (supplies : st.Supplies values supplied)
      (gives : (substitute interp what r values).resultAt st = .ok (.object next)) :
      Descends interp st₀ r₀ ((substitute interp what r values).storeAfter st) next

/-- Only one of the cases gives a template. -/
theorem SubstituteOutcome.given {result : Except Failure Value} {after : Store}
    (outcome : SubstituteOutcome interp st t supplied result after) {q : Ref}
    (gives : result = .ok (.object q)) :
    st.Extends after ∧ ∃ u, after.template? q = some u ∧ u.variant = t.derivedVariant
      ∧ u.settings = t.derivedSettings := by
  rcases outcome.complete with unknown | ⟨n, v, first⟩ | ⟨known, texts, c, inserts, cut⟩
  · cases gives.symm.trans (outcome.unknown unknown).1
  · rcases outcome.refused n v first with ⟨f, fails, -⟩
    cases gives.symm.trans fails
  · cases parses : Outline.ofSource? (String.ofList (c.fill (texts.lookup ·))) with
    | error m => cases gives.symm.trans (outcome.malformed texts c m known inserts cut parses)
    | ok outline =>
        rcases outcome.built texts c outline known inserts cut parses with
          ⟨p, u, given, -, grown, there, -, -, variant, settings⟩ | ⟨e, raised, -, -, fails⟩
        · cases gives.symm.trans given
          exact ⟨grown, u, there, variant, settings⟩
        · cases gives.symm.trans fails

/-- Substituting keeps the name, and all settings unless templates of the kind
    pass on no others. -/
theorem Descends.settings (descends : Descends interp st₀ r₀ st r)
    (held₀ : st₀.template? r₀ = some t₀) (callable : t₀.settings.Callable st₀) :
    ∃ t, st.template? r = some t ∧ t.name = t₀.name ∧ t.settings.Callable st
      ∧ (t₀.variant ≠ .shouting → t.variant ≠ .shouting ∧ t.settings = t₀.settings) := by
  induction descends with
  | start => exact ⟨t₀, held₀, rfl, callable, fun ordinary => ⟨ordinary, rfl⟩⟩
  | meanwhile _ same functions ih =>
      rcases ih with ⟨t, held, name, callable, settings⟩
      rcases same t held with ⟨t', held', variant', settings'⟩
      refine ⟨t', held', ?_, ?_, fun ordinary => ?_⟩
      · exact (congrArg Settings.name settings').trans name
      · exact fun f serializer => functions f (callable f (settings' ▸ serializer))
      · rw [variant', settings']
        exact settings ordinary
  | @step st r next values supplied what _ intact supplies gives ih =>
      rcases ih with ⟨t, held, name, callable, settings⟩
      rcases (outcome_of_substitute interp what intact held supplies).given gives with
        ⟨grown, u, held', variant', settings'⟩
      refine ⟨u, held', ?_, ?_, fun ordinary => ?_⟩
      · rw [← name, ← derivedSettings_name t, ← settings']
        rfl
      · rw [settings']
        exact callable.derived.extends grown
      · rcases settings ordinary with ⟨ordinary', same⟩
        refine ⟨?_, settings'.trans ((derivedSettings_eq ordinary').trans same)⟩
        rw [variant']
        unfold derivedVariant
        split
        · next shouting => exact absurd shouting ordinary'
        · exact nofun
        · exact nofun

/-- The outcome of substituting in a template, also if the template came of earlier
    calls. Its settings are still those that the first one had, and pass as options
    whenever the library that checks these does what it documents. What the call comes
    to is told by `SubstituteOutcome`, for every serializer that only reads the store. -/
theorem substitute_outcome (checks : interp.Checks) (what : String)
    (descends : Descends interp st₀ r₀ st r)
    (held₀ : st₀.template? r₀ = some t₀) (callable : t₀.settings.Callable st₀)
    (intact : st.Intact) (supplies : st.Supplies values supplied) :
    ∃ t, st.template? r = some t ∧ t.name = t₀.name
      ∧ (t₀.variant ≠ .shouting → t.settings = t₀.settings)
      ∧ (let given := st.allocateSettings t.name t.serializer t.dedent
        Settings.resolve interp given.1 given.2 = .ok (given.1, t.settings))
      ∧ SubstituteOutcome interp st t supplied ((substitute interp what r values).resultAt st)
        ((substitute interp what r values).storeAfter st) := by
  rcases descends.settings held₀ callable with ⟨t, held, name, callable', settings⟩
  exact ⟨t, held, name, fun ordinary => (settings ordinary).2, resolve_settings checks callable',
    outcome_of_substitute interp what intact held supplies⟩

section

/-- A serializer that gives the same text for everything, a template that has it,
    and what is filled in first and next: a text, and the template itself. -/
private def lined : Template :=
  { ofCut "" (.placed [] "a" (.placed [] "b" (.last []))) (by decide) [] with
    serializer := some ⟨2⟩ }

private def lines : Store :=
  ⟨Store.initial.objects ++ #[Object.ofBody (.function (.constant (.text "s"))),
    Object.ofBody (.template lined), Object.plain [("a", .text "x")],
    Object.plain [("b", .object ⟨3⟩)]]⟩

/-- What came of the first call, and the source that comes of the second. -/
private def lined' : Template :=
  { ofCut "" (.placed ['s'] "b" (.last [])) (by decide) [] with serializer := some ⟨2⟩ }

private def relined : Cut :=
  .placed ['s'] "a" (.placed [] "b" (.last []))

/-- The second call inserts a template in what came of the first. -/
theorem substitute_outcome_of_lines :
    let interp := Interpretation.standard
    let first := substitute interp "this" ⟨3⟩ (.object ⟨4⟩)
    let second := substitute interp "this" ⟨6⟩ (.object ⟨5⟩)
    let st := first.storeAfter lines
    interp.Checks ∧ lines.Intact ∧ lines.template? ⟨3⟩ = some lined ∧ lined.settings.Callable lines
      ∧ lines.Supplies (.object ⟨4⟩) [("a", .text "x")]
      ∧ first.resultAt lines = .ok (.object ⟨6⟩) ∧ st.Intact
      ∧ st.Supplies (.object ⟨5⟩) [("b", .object ⟨3⟩)]
      ∧ ∃ q u, second.resultAt st = .ok (.object q) ∧ (second.storeAfter st).template? q = some u
        ∧ u.source = "s$\x7ba\x7d$\x7bb\x7d" ∧ u.settings = lined.settings := by
  intro interp first second st
  have checks : interp.Checks := Interpretation.checks_standard
  have intact : lines.Intact := by decide
  have held : lines.template? ⟨3⟩ = some lined := rfl
  have callable : lined.settings.Callable lines := by
    intro f serializer
    cases serializer
    rfl
  have supplies : lines.Supplies (.object ⟨4⟩) [("a", .text "x")] := by decide
  have gives : first.resultAt lines = .ok (.object ⟨6⟩) := by decide +kernel
  have intact' : st.Intact := by decide +kernel
  have supplies' : st.Supplies (.object ⟨5⟩) [("b", .object ⟨3⟩)] := by decide +kernel
  have held' : st.template? ⟨6⟩ = some lined' := by decide +kernel
  have inner : st.templateRef? (.object ⟨3⟩) = some ⟨3⟩ ∧ st.template? ⟨3⟩ = some lined := by
    decide +kernel
  refine ⟨checks, intact, held, callable, supplies, gives, intact', supplies', ?_⟩
  rcases substitute_outcome checks "this" (.step "this" .start intact supplies gives) held callable
    intact' supplies' with ⟨t, there, -, settings, -, outcome⟩
  cases held'.symm.trans there
  have inserts : List.Forall₂ (lined'.Inserts interp st) [("b", .object ⟨3⟩)]
      [("b", lined.source)] := by
    refine .cons ⟨rfl, ?_⟩ .nil
    rw [inner.1]
    exact ⟨lined, inner.2, rfl⟩
  have cut : (Cut.placed ['s'] "b" (.last [])).Of lined'.source := ⟨by decide, by decide⟩
  have cut' : relined.Of (String.ofList ((Cut.placed ['s'] "b" (.last [])).fill
      ([("b", lined.source)].lookup ·))) := ⟨by decide, by decide⟩
  rcases outcome.built _ _ _ (by decide) inserts cut cut'.ofSource?_eq with
    ⟨q, u, result, -, -, given, source, -, -, same⟩ | ⟨e, raised, passes, -⟩
  · refine ⟨q, u, result, given, source.trans ?_, ?_⟩
    · decide
    · rw [same, outcome.settings.2 (by decide), settings (by decide)]
  · -- There are no defaults that could be passed on.
    cases passes with
    | own default => cases default
    | inner among isTemplate held default =>
        cases List.mem_singleton.mp among
        cases inner.1.symm.trans isTemplate
        cases inner.2.symm.trans held
        cases default

end

section

/-- A template with a default, an array that somebody has put something into that
    derives from a link and has an address of its own, and the value for the other
    placeholder. -/
private def linked : Template :=
  ofCut "" (.placed [] "a" (.placed [] "b" (.last []))) (by decide) [("b", .object ⟨3⟩)]

private def links : Store :=
  ⟨Store.initial.objects ++ #[Object.ofBody (.template linked),
    Object.ofBody (.array [some (.object ⟨4⟩)]),
    { Object.plain [("href", .text "x")] with prototype := .object ⟨5⟩ },
    Object.ofBody (.url "http://a/"), Object.plain [("a", .text "x")]]⟩

/-- All keys are known, the value has a text and the new source parses, and yet
    something is raised: what copying a default raises. -/
theorem substitute_raises_of_default :
    let interp := Interpretation.standard
    let st := links
    st.Intact ∧ st.template? ⟨2⟩ = some linked ∧ st.Supplies (.object ⟨6⟩) [("a", .text "x")]
      ∧ "a" ∈ linked.placeholders
      ∧ List.Forall₂ (linked.Writes interp st) [("a", .text "x")] [("a", "x")]
      ∧ linked.splice [("a", "x")] = "x$\x7bb\x7d"
      ∧ (∃ outline, Outline.ofSource? "x$\x7bb\x7d" = .ok outline)
      ∧ (substitute interp "this" ⟨2⟩ (.object ⟨6⟩)).resultAt st
        = .error (.thrown (.fault .typeError "Invalid URL")) := by
  intro interp st
  have cut : (Cut.placed ['x'] "b" (.last [])).Of "x$\x7bb\x7d" := ⟨by decide, by decide⟩
  refine ⟨by decide, rfl, by decide, by decide, .cons ⟨rfl, rfl, rfl⟩ .nil, by decide,
    ⟨_, cut.ofSource?_eq⟩, ?_⟩
  decide +kernel

end

end Template

end Stencil
