import Stencil.Proofs.Copying
import Stencil.Template.Defaults

/-!
# Deriving Templates and Storing Defaults

What becomes of a store when a template is derived and given defaults.

Deriving a template adds one object. Storing a default then first copies the
value and afterwards changes that object and no other. The value may be a
template, and then the copy is derived and given defaults in the same way, so
the two statements need each other: `ensures_storeAll` takes what copying a
template ensures as an assumption, and `ensures_copyWithin` supplies it by
induction on the allowance.

The values that are copied belong to a store that the current one has grown out
of, and what matters is said of that one: it is intact, so what is a template
there is one that nobody has reached into, and it stays one. Nothing is
assumed of the values, so copying them may raise something. But nothing else
goes wrong, and no template error can come of it.

## Main definitions

* `Template.IsMade`: A template made of a source and settings.
* `Template.IsDerived`: A template derived from another one.

## Theorems

* `Template.add_ok`, `Template.add_error`: Adding a template.
* `Template.derive_ok`, `Template.derive_malformed`: Deriving a template.
* `Store.template?_putDefault`: A template with one of its defaults set.
* `Template.ensures_storeAll_of_step`: Storing defaults one after the other.
* `Template.ensures_storeAll`: What storing defaults changes.
* `Template.ensures_copyWithin`: Copying a template adds objects.
-/

namespace Stencil

namespace Template

/-- A template that was made of a source and settings. -/
structure IsMade (u : Template) (journal : Journal) (variant : Variant) (settings : Settings)
    (source : String) : Prop where
  variant : u.variant = variant
  settings : u.settings = settings
  source_eq : u.source = source
  defaults : u.defaults = []
  journal : u.journal = journal

/-- A template that was derived from another one with a source, before it is
    given defaults. -/
structure IsDerived (u t : Template) (source : String) : Prop where
  variant : u.variant = t.derivedVariant
  settings : u.settings = t.derivedSettings
  source_eq : u.source = source
  defaults : u.defaults = []
  root : u.journal.root = Store.globalLogger

variable {st : Store} {source : String}

theorem IsDerived.outline_eq {u t : Template} {outline : Outline} (derived : u.IsDerived t source)
    (parses : Outline.ofSource? source = .ok outline) : u.outline = outline := by
  have same := u.parses
  rw [derived.source_eq, parses, Except.ok.injEq] at same
  exact same.symm

/-! ### Deriving -/

/-- Adding a template with a source that parses adds one object. -/
theorem add_ok (variant : Variant) (settings : Settings) (st : Store) {outline : Outline}
    (parses : Outline.ofSource? source = .ok outline) :
    ∃ u, u.IsMade (st.newJournal settings.name) variant settings source
      ∧ (add variant settings source).resultAt st = .ok (u, st.next)
      ∧ (add variant settings source).storeAfter st = st.push (Object.ofBody (.template u)) := by
  have exists_made : ∃ u, make (st.newJournal settings.name) variant settings source = .ok u
      ∧ u.IsMade (st.newJournal settings.name) variant settings source := by
    rw [make]
    split
    · next m fails =>
        rw [parses] at fails
        cases fails
    · exact ⟨_, rfl, rfl, rfl, rfl, rfl, rfl⟩
  rcases exists_made with ⟨u, made, isMade⟩
  refine ⟨u, isMade, ?_, ?_⟩
  · rw [add, Action.resultAt_bind_asking, made]
    rfl
  · rw [add, Action.storeAfter_bind_asking, made]
    rfl

/-- Adding a template with a malformed source fails, and adds nothing. -/
theorem add_error (variant : Variant) (settings : Settings) (st : Store) {m : Malformed}
    (fails : Outline.ofSource? source = .error m) :
    (add variant settings source).resultAt st = .error (.template (.malformed m settings.name))
      ∧ (add variant settings source).storeAfter st = st := by
  have none : make (st.newJournal settings.name) variant settings source
      = .error (.malformed m settings.name) := by
    rw [make]
    split
    · next n same =>
        rw [fails, Except.error.injEq] at same
        rw [same]
    · next outline parses =>
        rw [fails] at parses
        cases parses
  constructor
  · rw [add, Action.resultAt_bind_asking, none]
    rfl
  · rw [add, Action.storeAfter_bind_asking, none]
    rfl

/-- Deriving a template with a source that parses adds one object. -/
theorem derive_ok (st : Store) (t : Template) {outline : Outline}
    (parses : Outline.ofSource? source = .ok outline) :
    ∃ u, u.IsDerived t source ∧ (t.derive source).resultAt st = .ok (u, st.next)
      ∧ (t.derive source).storeAfter st = st.push (Object.ofBody (.template u)) := by
  rcases add_ok t.derivedVariant t.derivedSettings st parses with ⟨u, made, given, added⟩
  refine ⟨u, ⟨made.variant, made.settings, made.source_eq, made.defaults, ?_⟩, given, added⟩
  rw [made.journal]
  rfl

/-- Deriving a template with a malformed source fails, and adds nothing. -/
theorem derive_malformed (st : Store) (t : Template) {m : Malformed}
    (fails : Outline.ofSource? source = .error m) :
    (t.derive source).resultAt st = .error (.template (.malformed m t.derivedSettings.name))
      ∧ (t.derive source).storeAfter st = st :=
  add_error t.derivedVariant t.derivedSettings st fails

end Template

/-! ### Setting a default -/

namespace Store

variable {st : Store} {r : Ref} {t : Template} {key : String} {v : Value}

theorem template?_of_body (body : (st.get r).body = .template t) : st.template? r = some t := by
  rw [template?, body]

theorem template?_push_next (st : Store) (t : Template) :
    (st.push (Object.ofBody (.template t))).template? st.next = some t := by
  refine template?_of_body ?_
  rw [get_push_next]
  rfl

theorem putDefault_eq (held : st.template? r = some t) :
    st.putDefault r key v = st.write r { st.get r with
      body := .template { t with defaults := setDefaultValue key v t.defaults } } := by
  rw [putDefault]
  simp only [body_of_template? held]

theorem get_putDefault_self (held : st.template? r = some t) :
    (st.putDefault r key v).get r = { st.get r with
      body := .template { t with defaults := setDefaultValue key v t.defaults } } := by
  rw [putDefault_eq held, get_write_self (index_lt_of_template? held)]

theorem get_putDefault_ne (held : st.template? r = some t) {q : Ref} (apart : q ≠ r) :
    (st.putDefault r key v).get q = st.get q := by
  rw [putDefault_eq held, get_write_ne apart]

/-- Setting a default of a template changes its defaults. -/
theorem template?_putDefault (held : st.template? r = some t) :
    (st.putDefault r key v).template? r
      = some { t with defaults := setDefaultValue key v t.defaults } := by
  refine template?_of_body ?_
  rw [get_putDefault_self held]

/-- Setting a default changes no other object. -/
theorem extendsBut_putDefault (held : st.template? r = some t) :
    st.ExtendsBut r (st.putDefault r key v) := by
  rw [putDefault_eq held]
  exact extendsBut_write st r _

theorem isSealed_of_template? (held : st.template? r = some t) : st.isSealed r = true := by
  rw [isSealed, held, Option.isSome_some]

end Store

namespace Template

variable {interp : Interpretation} {base : Store} {copyTemplate : Ref → Action Value}
  {mayRaise : Prop}

/-- Storing one default comes down to copying the value. -/
theorem ensures_storeOne {st : Store} {r : Ref} {key : String} {v : Value}
    {post : Unit → Store → Prop} (isSealed : st.isSealed r = true)
    (absent : v = .undefined → post () st)
    (present : v ≠ .undefined → (copied interp copyTemplate v).Ensures mayRaise st
      fun w st' => post () (st'.putDefault r key w)) :
    (storeOne interp copyTemplate r key v).Ensures mayRaise st post := by
  rw [storeOne]
  by_cases undefined : v = .undefined
  · rw [if_pos undefined]
    exact absent undefined
  · rw [if_neg undefined]
    refine Action.ensures_bind_asking ?_
    rw [isSealed, if_pos rfl]
    exact Action.ensures_bind (present undefined) fun w st' h => h

/-- Copying a value adds objects. -/
theorem ensures_copied (intact : base.Intact)
    (copies : ∀ {inner : Ref} {t : Template} {st : Store}, base.template? inner = some t →
      base.Extends st → (copyTemplate inner).Ensures True st fun _ st' => st.Extends st')
    {v : Value} (held : base.Holds v) {st : Store} (grown : base.Extends st) :
    (copied interp copyTemplate v).Ensures True st fun _ st' => st.Extends st' := by
  refine Action.ensures_bind_asking ?_
  -- Whether the value is a template was settled in the store that it belongs to.
  rw [grown.templateRef?_eq intact.closed held]
  cases found : base.templateRef? v with
  | none => exact Action.ensures_reading fun _ _ copied => Store.extends_copy copied
  | some inner =>
      rcases intact.untouched.template found with ⟨t, there⟩
      exact copies there grown

/-- Storing any number of defaults, one after the other. What is said of the store and
    of the entries that are stored so far holds in the beginning, and each entry carries
    it on. -/
theorem ensures_storeAll_of_step (inv : List (String × Value) → Store → Prop) {r : Ref}
    {entries : List (String × Value)}
    (step : ∀ before e after st, entries = before ++ e :: after → inv before st →
      (storeOne interp copyTemplate r e.1 e.2).Ensures mayRaise st fun _ st' =>
        inv (before ++ [e]) st')
    {st : Store} (start : inv [] st) :
    (storeAll interp copyTemplate r entries).Ensures mayRaise st fun _ st' => inv entries st' := by
  -- By induction on what is left, which moves over to what is stored.
  suffices rest : ∀ left before st, entries = before ++ left → inv before st →
      (storeAll interp copyTemplate r left).Ensures mayRaise st fun _ st' => inv entries st' from
    rest entries [] st (List.nil_append entries).symm start
  intro left
  induction left with
  | nil =>
      intro before st split holds
      rw [split, List.append_nil]
      exact holds
  | cons e left ih =>
      intro before st split holds
      refine Action.ensures_bind (step before e left st split holds) fun _ st' holds' => ?_
      exact ih (before ++ [e]) st' (split.trans (List.append_cons before e left)) holds'

/-- Storing defaults changes the template that they are stored in, and of that
    one nothing but the defaults. -/
theorem ensures_storeAll (intact : base.Intact)
    (copies : ∀ {inner : Ref} {t : Template} {st : Store}, base.template? inner = some t →
      base.Extends st → (copyTemplate inner).Ensures True st fun _ st' => st.Extends st')
    {entries : List (String × Value)} (held : ∀ e ∈ entries, base.Holds e.2) {next : Ref}
    {st : Store} {u : Template} (grown : base.Extends st) (fresh : base.objects.size ≤ next.index)
    (there : st.template? next = some u) :
    (storeAll interp copyTemplate next entries).Ensures True st fun _ st' =>
      st.ExtendsBut next st'
        ∧ ∃ defaults, st'.template? next = some { u with defaults := defaults } := by
  refine ensures_storeAll_of_step (fun _ st' => st.ExtendsBut next st'
    ∧ ∃ defaults, st'.template? next = some { u with defaults := defaults }) ?_
    ⟨(Store.Extends.refl st).but next, u.defaults, there⟩
  rintro before ⟨key, v⟩ after st' split ⟨changed, defaults, there'⟩
  have among : (key, v) ∈ entries := split ▸ List.mem_append_right _ List.mem_cons_self
  refine ensures_storeOne (Store.isSealed_of_template? there')
    (fun _ => ⟨changed, defaults, there'⟩) fun _ => ?_
  refine Action.ensures_mono (ensures_copied intact copies (held _ among)
    (changed.after grown fresh)) fun w st'' copied => ?_
  -- Copying only added objects, so the template is still the one that was derived.
  have still := copied.template? there'
  refine ⟨changed.trans ((copied.but next).trans (Store.extendsBut_putDefault still)),
    setDefaultValue key w defaults, ?_⟩
  exact Store.template?_putDefault still

/-- Copying a template adds objects. -/
theorem ensures_copyWithin (intact : base.Intact) (allowance : Nat) {r : Ref} {t : Template}
    {st : Store} (held : base.template? r = some t) (grown : base.Extends st) :
    (copyWithin interp allowance r).Ensures True st fun _ st' => st.Extends st' := by
  induction allowance generalizing r t st with
  | zero => exact ⟨trivial, .tooDeep, rfl⟩
  | succ allowance ih =>
      refine Action.ensures_bind_asking ?_
      rw [grown.template? held]
      rcases derive_ok st t t.parses with ⟨u, -, given, added⟩
      refine Action.ensures_bind_ok given ?_
      rw [added]
      have pushed := Store.extends_push st (Object.ofBody (.template u))
      refine Action.ensures_bind (ensures_storeAll intact ih
        (fun e he => intact.closed.default held he) (grown.trans pushed) grown.size_le
        (Store.template?_push_next st u)) fun _ st' stored => ?_
      exact stored.1.after pushed (Nat.le_refl _)

theorem ensures_copy (intact : base.Intact) {r : Ref} {t : Template} {st : Store}
    (held : base.template? r = some t) (grown : base.Extends st) :
    (copy interp r).Ensures True st fun _ st' => st.Extends st' :=
  Action.ensures_bind_asking (ensures_copyWithin intact _ held grown)

end Template

end Stencil
