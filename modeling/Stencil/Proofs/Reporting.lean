import Stencil.Proofs.RenderOutcome
import Stencil.Proofs.Substitution
import Stencil.Template.Methods

/-!
# Failures That Name Their Key

What becomes of a value that the serializer has no text for.

It is reported: an error names the key of the value and keeps as its cause what
the serializer raised, or, where it gave something that is no text, an error
that says so. `Blames` says which type and which cause that are. Putting the
error together asks the values themselves. The type of a value is the name of
its constructor, what was raised must have a text unless it is an error, and an
error must have a message that can be quoted. Each of these can raise something
of its own, and nothing catches that. So a failure is reported exactly when the
error can be put together, and something is raised in its place otherwise.

Rendering safely turns errors into results and lets through what is raised. It
follows that it always gives a result as long as every value that has no text
can be reported, and as long as no template is among its own defaults at any
depth, which `Nests` says.

## Main definitions

* `Template.Blames`: The type and the cause that a value is reported with.
* `Template.Reportable`: A value has a text, or it can be reported.
* `Template.safely`: What rendering comes to, with errors as results.
* `Template.RefusesFirst`, `Template.InsertsFirst`: The first value without a
  text, while rendering and while substituting.
* `Store.Nests`: No template contains itself.

## Theorems

* `Template.resultAt_write_blamed`, `Template.resultAt_write_unblamed`: What
  writing a value fails with.
* `Template.askSafeRender_eq`: Rendering safely is rendering.
* `Template.answers_render`: When rendering raises nothing but errors of
  templates.
* `Template.safeRender_outcome`: The outcome of rendering safely, and which
  failures of the serializer name their key.
-/

namespace Stencil

namespace Store

/-- No template is among its own defaults, at any depth. -/
def Nests (st : Store) : Prop :=
  ∃ rank : Ref → Nat, ∀ r t, st.template? r = some t → ∀ e ∈ t.defaults, ∀ inner,
    st.templateRef? e.2 = some inner → rank inner < rank r

end Store

namespace Template

variable {interp : Interpretation} {st : Store} {t : Template}

/-! ### What is reported -/

/-- The type and the cause that a value without a text is reported with. -/
inductive Blames (interp : Interpretation) (st : Store) (t : Template) (v : Value) :
    String → Cause → Prop
  /-- What the serializer raises is the cause, once it is caught. -/
  | raised {raised : Thrown} {c : Caught} {type : String} {cause : Cause}
      (fails : t.serialize interp st v = .error raised)
      (caught : st.caught interp raised = .ok c)
      (typed : st.typeName interp v = .ok type)
      (quoted : st.causeOf interp c = .ok cause) : Blames interp st t v type cause
  /-- What the serializer gives is no text, and the cause says what it is. -/
  | given {answer : Answer} {kind type : String}
      (gives : t.serialize interp st v = .ok answer)
      (noText : ∀ s, answer ≠ .existing (.text s))
      (named : (answer.settle st).1.typeName interp (answer.settle st).2 = .ok kind)
      (typed : (answer.settle st).1.typeName interp v = .ok type) :
      Blames interp st t v type (.plain .typeError (Template.noText kind))

/-- The serializer has a text for a value, or the value can be reported. -/
def Reportable (interp : Interpretation) (st : Store) (t : Template) (v : Value) : Prop :=
  (∃ s, t.serialize interp st v = .ok (.existing (.text s)))
    ∨ ∃ type cause, t.Blames interp st v type cause

/-- A value that can be reported is refused under its key. -/
theorem resultAt_write_blamed {v : Value} {type : String} {cause : Cause} (key : String)
    (blames : t.Blames interp st v type cause) :
    (t.write interp key v).resultAt st
      = .error (.template (.serialization key type cause t.name)) := by
  cases blames with
  | raised fails caught typed quoted =>
      rw [resultAt_write_raised fails caught typed, quoted]
  | given gives noText named typed => exact resultAt_write_given gives noText named typed

/-- Where a value has no text and cannot be reported, something else is raised. -/
theorem resultAt_write_unblamed {v : Value} (key : String)
    (noText : ∀ s, t.serialize interp st v ≠ .ok (.existing (.text s)))
    (unblamed : ∀ type cause, ¬ t.Blames interp st v type cause) :
    ∃ raised, (t.write interp key v).resultAt st = .error (.thrown raised) := by
  rw [write, Action.resultAt_bind_asking]
  split
  · next s gives => exact absurd gives (noText s)
  · next answer other gives =>
      rw [Action.settling, Action.resultAt_bind_adding]
      cases named : (answer.settle st).1.typeName interp (answer.settle st).2 with
      -- The refusal asks for two types, and each of them may raise.
      | error raised => exact ⟨raised, Action.resultAt_bind_looking_error named⟩
      | ok kind =>
          rw [Action.resultAt_bind_looking_ok named, resultAt_refuse]
          cases typed : (answer.settle st).1.typeName interp v with
          | error raised => exact ⟨raised, rfl⟩
          | ok type =>
              exact absurd (.given gives (fun s same => other s same) named typed) (unblamed _ _)
  · next raised fails =>
      cases caught : st.caught interp raised with
      -- What was raised must have a text, then the value a type, then the error a message.
      | error other => exact ⟨other, Action.resultAt_bind_looking_error caught⟩
      | ok c =>
          rw [Action.resultAt_bind_looking_ok caught, report, Action.resultAt_bind_report,
            resultAt_refuse]
          cases typed : st.typeName interp v with
          | error other => exact ⟨other, rfl⟩
          | ok type =>
              cases quoted : st.causeOf interp c with
              | error other => exact ⟨other, rfl⟩
              | ok cause => exact absurd (.raised fails caught typed quoted) (unblamed _ _)

/-! ### Raising nothing -/

/-- A computation gives a value or fails with the error of a template. -/
def Answers {α : Type} (x : Except Failure α) : Prop :=
  ∀ raised, x ≠ .error (.thrown raised)

section

variable {α β : Type}

theorem answers_ok {a : α} : Answers (.ok a) :=
  fun _ => nofun

theorem answers_template {e : TemplateError} : Answers (.error (.template e) : Except Failure α) :=
  fun _ => nofun

theorem answers_bind {x : Except Failure α} {f : α → Except Failure β} (first : Answers x)
    (rest : ∀ a, Answers (f a)) : Answers (x >>= f) := by
  cases x with
  | error e => exact fun raised thrown => first raised (congrArg _ (Except.error.inj thrown))
  | ok a => exact rest a

theorem answers_map {x : Except Failure α} {f : α → β} (h : Answers x) : Answers (x.map f) := by
  cases x with
  | error e => exact fun raised thrown => h raised (congrArg _ (Except.error.inj thrown))
  | ok a => exact answers_ok

theorem answers_mapM {f : α → Except Failure β} {xs : List α} (each : ∀ a ∈ xs, Answers (f a)) :
    Answers (xs.mapM f) := by
  induction xs with
  | nil => exact answers_ok
  | cons x xs ih =>
      rw [List.mapM_cons]
      refine answers_bind (each x List.mem_cons_self) fun y => ?_
      exact answers_bind (ih fun a mem => each a (List.mem_cons_of_mem _ mem)) fun _ => answers_ok

end

theorem answers_write {v : Value} (key : String) (reportable : t.Reportable interp st v) :
    Answers ((t.write interp key v).resultAt st) := by
  rcases reportable with ⟨s, gives⟩ | ⟨type, cause, blames⟩
  · rw [resultAt_write_eq_ok_iff.mpr gives]
    exact answers_ok
  · rw [resultAt_write_blamed key blames]
    exact answers_template

/-- Filling raises nothing if converting the values raises nothing. -/
theorem answers_filled {convert : String → Value → Except Failure String}
    {supplied : List (String × Value)}
    (each : ∀ n v, t.valueFor? supplied n = some v → Answers (convert n v)) :
    Answers (t.filled convert supplied) := by
  rw [filled]
  split
  · exact answers_template
  · split
    · exact answers_template
    · next complete =>
        refine answers_bind (answers_mapM fun n hn => ?_) fun _ => answers_ok
        rcases missing_eq_nil_iff.mp (not_not.mp complete) n hn with ⟨v, found⟩
        rw [found, Option.getD_some]
        exact answers_bind (each n v found) fun _ => answers_ok

/-- All defaults of templates can be reported. -/
def DefaultsReportable (interp : Interpretation) (st : Store) : Prop :=
  ∀ r t, st.template? r = some t → ∀ e ∈ t.defaults, st.templateRef? e.2 = none →
    t.Reportable interp st e.2

section

variable {r : Ref}

/-- Rendering a template with its defaults raises nothing, given enough depth. -/
theorem answers_rendered (untouched : st.Untouched) (reportable : DefaultsReportable interp st)
    {rank : Ref → Nat}
    (nested : ∀ r t, st.template? r = some t → ∀ e ∈ t.defaults, ∀ inner,
      st.templateRef? e.2 = some inner → rank inner < rank r)
    (held : st.template? r = some t) {n : Nat} (deep : rank r < n) :
    Answers (rendered interp st n r []) := by
  induction n generalizing r t with
  | zero => exact absurd deep (Nat.not_lt_zero _)
  | succ n ih =>
      rw [rendered, held]
      refine answers_filled fun key v found => ?_
      have default : (key, v) ∈ t.defaults := mem_of_lookup found
      rw [converted]
      cases isTemplate : st.templateRef? v with
      | none => exact answers_write key (reportable r t held _ default isTemplate)
      | some inner =>
          rcases untouched.template isTemplate with ⟨u, there⟩
          -- A template inside has a smaller rank, so the allowance that is left is enough.
          have smaller := nested r t held _ default inner isTemplate
          exact ih there (by omega)

/-- Rendering raises nothing but errors of templates, as long as all values can be
    reported. -/
theorem answers_render (untouched : st.Untouched) (nests : st.Nests)
    (reportable : DefaultsReportable interp st) (what : String) {values : Value}
    {supplied : List (String × Value)} (held : st.template? r = some t)
    (offered : Offers st values supplied)
    (given : ∀ e ∈ supplied, st.templateRef? e.2 = none → t.Reportable interp st e.2) :
    Answers ((render interp what r values).resultAt st) := by
  rcases nests with ⟨rank, nested⟩
  have text : Answers (rendered interp st (st.objects.size + 1) r supplied) := by
    rw [rendered, held]
    refine answers_filled fun key v found => ?_
    rw [converted]
    cases isTemplate : st.templateRef? v with
    | none =>
        rcases Option.or_eq_some_iff.mp found with own | ⟨-, default⟩
        · exact answers_write key (given _ (mem_of_lookup own) isTemplate)
        · exact answers_write key (reportable r t held _ (mem_of_lookup default) isTemplate)
    | some inner =>
        rcases untouched.template isTemplate with ⟨u, there⟩
        -- Any depth beyond the number of objects will do, also one beyond the rank.
        simp only
        rw [← rendered_of_size_le interp st (Nat.le_max_left _ (rank inner + 1)) inner]
        exact answers_rendered untouched reportable nested there
          (Nat.lt_of_lt_of_le (Nat.lt_succ_self _) (Nat.le_max_right _ _))
  rw [(render_eq untouched what held offered).2]
  exact answers_map text

end

/-! ### Rendering safely -/

/-- What rendering comes to, with the error of a template as a result. -/
def safely : Except Failure Value → Except Failure (Except Failure Value)
  | .ok text => .ok (.ok text)
  | .error (.template e) => .ok (.error (.template e))
  | .error (.thrown raised) => .error (.thrown raised)

section

variable {x : Except Failure Value}

theorem safely_eq_text_iff {text : Value} : safely x = .ok (.ok text) ↔ x = .ok text := by
  rcases x with (raised | e) | output <;> simp [safely]

theorem safely_eq_error_iff {f : Failure} :
    safely x = .ok (.error f) ↔ ∃ e, f = .template e ∧ x = .error f := by
  constructor
  · intro same
    rcases x with (raised | e) | output
    · cases same
    · cases same
      exact ⟨e, rfl, rfl⟩
    · cases same
  · rintro ⟨e, rfl, rfl⟩
    rfl

theorem safely_eq_raised_iff {f : Failure} :
    safely x = .error f ↔ ∃ raised, f = .thrown raised ∧ x = .error f := by
  constructor
  · intro same
    rcases x with (raised | e) | output
    · cases same
      exact ⟨raised, rfl, rfl⟩
    · cases same
    · cases same
  · rintro ⟨raised, rfl, rfl⟩
    rfl

/-- What raises nothing has a safe result. -/
theorem exists_safely (answers : Answers x) : ∃ outcome, safely x = .ok outcome := by
  rcases x with (raised | e) | output
  · exact absurd rfl (answers raised)
  · exact ⟨_, rfl⟩
  · exact ⟨_, rfl⟩

end

/-- Rendering with supplied values comes to a value that the serializer has no text
    for: all keys name placeholders, all placeholders have values, and those of
    the placeholders before it have texts. -/
structure RefusesFirst (interp : Interpretation) (st : Store) (t : Template)
    (supplied : List (String × Value)) (n : String) (v : Value) : Prop where
  known : ∀ e ∈ supplied, e.1 ∈ t.placeholders
  complete : ∀ m ∈ t.placeholders, ∃ w, t.valueFor? supplied m = some w
  place : ∃ before after, t.placeholders = before ++ n :: after
    ∧ ∀ m ∈ before, ∃ w s, t.valueFor? supplied m = some w ∧ t.Converts interp st w s
  value : t.valueFor? supplied n = some v
  simple : st.templateRef? v = none
  noText : ∀ s, t.serialize interp st v ≠ .ok (.existing (.text s))

/-- Substituting supplied values comes to a value that the serializer has no text
    for: all keys name placeholders, and the values before it have texts. -/
structure InsertsFirst (interp : Interpretation) (st : Store) (t : Template)
    (supplied : List (String × Value)) (n : String) (v : Value) : Prop where
  known : ∀ e ∈ supplied, e.1 ∈ t.placeholders
  place : ∃ before texts after, supplied = before ++ (n, v) :: after
    ∧ List.Forall₂ (t.Inserts interp st) before texts
  simple : st.templateRef? v = none
  noText : ∀ s, t.serialize interp st v ≠ .ok (.existing (.text s))

section

variable {r : Ref} {values v : Value} {supplied : List (String × Value)} {n : String}

/-- Rendering fails with what writing the first value without a text fails with. -/
theorem render_eq_error (untouched : st.Untouched) (what : String) (held : st.template? r = some t)
    (offered : Offers st values supplied) (first : t.RefusesFirst interp st supplied n v)
    {f : Failure} (fails : (t.write interp n v).resultAt st = .error f) :
    (render interp what r values).resultAt st = .error f := by
  rcases first.place with ⟨before, after, split, fine⟩
  rw [(render_eq untouched what held offered).2, rendered, held]
  simp only
  rw [filled_eq_error (unknownKeys_eq_nil first.known)
    (missing_eq_nil_iff.mpr first.complete) split ?_ (f := f) ?_]
  · rfl
  · intro m hm
    rcases fine m hm with ⟨w, s, found, converts⟩
    rw [found, Option.getD_some]
    exact ⟨s, (converted_eq_ok_iff m untouched).mpr converts⟩
  · rw [first.value, Option.getD_some, converted, first.simple]
    exact fails

/-- Substituting fails with what writing the first value without a text fails
    with. -/
theorem substitute_eq_error (what : String) (held : st.template? r = some t)
    (supplies : st.Supplies values supplied) (first : t.InsertsFirst interp st supplied n v)
    {f : Failure} (fails : (t.write interp n v).resultAt st = .error f) :
    (substitute interp what r values).resultAt st = .error f := by
  rcases first.place with ⟨before, texts, after, split, inserts⟩
  rw [(substitute_native interp what held supplies).1, substituteSupplied,
    resultAt_bind_checkKeys_known (unknownKeys_eq_nil first.known), split,
    Action.resultAt_bind_error (inserted_eq_error inserts first.simple fails)]
  rfl

/-- The method of templates for rendering safely is the one they all have. -/
theorem method?_safeRender (interp : Interpretation)
    (plain : st.get r = Object.ofBody (.template t)) :
    st.method? interp r "safeRender"
      = .ok (st, some (.native .safeRender (.template .prompt))) := by
  have found : st.find? r (.text "safeRender")
      = some (.native (.method .safeRender (.template .prompt)) (.family (.template .prompt))) := by
    rw [Store.find?, Store.findWithin, plain]
    change Family.find? (.template t.variant) (.text "safeRender") = _
    cases t.variant <;> rfl
  rw [Store.method?, found]

/-- Rendering safely is rendering, with the error of a template as a result. -/
theorem askSafeRender_eq (untouched : st.Untouched) (what : String)
    (plain : st.get r = Object.ofBody (.template t)) (offered : Offers st values supplied) :
    (askSafeRender interp what r values).resultAt st
      = safely ((render interp what r values).resultAt st) := by
  have held : st.template? r = some t := by
    rw [Store.template?, plain]
    rfl
  -- What the template is called makes no difference.
  have same : (render interp what r values).resultAt st
      = (render interp "this" r values).resultAt st := by
    rw [(render_eq untouched what held offered).2, (render_eq untouched "this" held offered).2]
  have native := method?_safeRender interp plain
  have safe : (safeRender interp r values).resultAt st
      = match (render interp "this" r values).resultAt st with
        | .ok text => .ok (.ok text)
        | .error (.template e) => .ok (.error e)
        | .error (.thrown raised) => .error (.thrown raised) := by
    rw [safeRender, Action.resultAt_bind_ok Action.resultAt_attempt]
    rcases (render interp "this" r values).resultAt st with (raised | e) | text <;> rfl
  rw [same, askSafeRender, Action.resultAt_bind_ok (Action.resultAt_reading_ok native),
    Action.storeAfter_reading_ok native]
  change (safeRender interp r values >>= _).resultAt st = _
  rcases gives : (render interp "this" r values).resultAt st with (raised | e) | text
  · rw [gives] at safe
    exact Action.resultAt_bind_error safe
  · rw [gives] at safe
    rw [Action.resultAt_bind_ok safe]
    rfl
  · rw [gives] at safe
    rw [Action.resultAt_bind_ok safe]
    rfl

/-- Rendering safely leaves what rendering does. -/
theorem storeAfter_askSafeRender (what : String) (plain : st.get r = Object.ofBody (.template t)) :
    (askSafeRender interp what r values).storeAfter st
      = (render interp "this" r values).storeAfter st := by
  have native := method?_safeRender interp plain
  rw [askSafeRender, Action.storeAfter_bind_ok (Action.resultAt_reading_ok native),
    Action.storeAfter_reading_ok native]
  change (safeRender interp r values >>= _).storeAfter st = _
  have safe : (safeRender interp r values).storeAfter st
      = (render interp "this" r values).storeAfter st := by
    rw [safeRender, Action.storeAfter_bind_ok Action.resultAt_attempt]
    rcases (render interp "this" r values).resultAt st with (raised | e) | text <;> rfl
  rw [← safe]
  cases gives : (safeRender interp r values).resultAt st with
  | error e => exact Action.storeAfter_bind_error gives
  | ok result =>
      rw [Action.storeAfter_bind_ok gives]
      cases result <;> rfl

/-- Rendering safely gives what rendering gives, with the errors of templates as
    results. The first value that the serializer has no text for is reported under
    its key, and so it is while rendering and while substituting, exactly if it can
    be reported. If all values can be, then rendering safely never fails. This is so for
    every serializer that only reads the store. -/
theorem safeRender_outcome (what : String) (untouched : st.Untouched)
    (plain : st.get r = Object.ofBody (.template t)) (offered : Offers st values supplied) :
    let result := (render interp what r values).resultAt st
    let safe := (askSafeRender interp what r values).resultAt st
    let substituted := (substitute interp what r values).resultAt st
    (∀ text, safe = .ok (.ok text) ↔ result = .ok text)
      ∧ (∀ f, safe = .ok (.error f) ↔ ∃ e, f = .template e ∧ result = .error f)
      ∧ (∀ f, safe = .error f ↔ ∃ raised, f = .thrown raised ∧ result = .error f)
      ∧ (st.Nests → DefaultsReportable interp st →
          (∀ e ∈ supplied, st.templateRef? e.2 = none → t.Reportable interp st e.2) →
          ∃ outcome, safe = .ok outcome)
      ∧ (∀ n v, t.RefusesFirst interp st supplied n v →
          (∀ type cause, t.Blames interp st v type cause →
            let e := TemplateError.serialization n type cause t.name
            result = .error (.template e) ∧ safe = .ok (.error (.template e))
              ∧ e.cause? = some cause)
          ∧ ((∀ type cause, ¬ t.Blames interp st v type cause) →
            ∃ raised, result = .error (.thrown raised) ∧ safe = .error (.thrown raised)))
      ∧ (st.Supplies values supplied → ∀ n v, t.InsertsFirst interp st supplied n v →
          (∀ type cause, t.Blames interp st v type cause →
            substituted = .error (.template (.serialization n type cause t.name)))
          ∧ ((∀ type cause, ¬ t.Blames interp st v type cause) →
            ∃ raised, substituted = .error (.thrown raised))) := by
  intro result safe substituted
  have held : st.template? r = some t := by
    rw [Store.template?, plain]
    rfl
  have safe_eq : safe = safely result := askSafeRender_eq untouched what plain offered
  rw [safe_eq]
  refine ⟨fun text => safely_eq_text_iff, fun f => safely_eq_error_iff,
    fun f => safely_eq_raised_iff, fun nests reportable given => ?_, fun n v first => ?_,
    fun supplies n v first => ?_⟩
  · exact exists_safely (answers_render untouched nests reportable what held offered given)
  · constructor
    · intro type cause blames e
      have fails : result = .error (.template e) :=
        render_eq_error untouched what held offered first (resultAt_write_blamed n blames)
      refine ⟨fails, ?_, rfl⟩
      rw [fails]
      rfl
    · intro unblamed
      rcases resultAt_write_unblamed n first.noText unblamed with ⟨raised, thrown⟩
      have fails : result = .error (.thrown raised) :=
        render_eq_error untouched what held offered first thrown
      refine ⟨raised, fails, ?_⟩
      rw [fails]
      rfl
  · constructor
    · intro type cause blames
      exact substitute_eq_error what held supplies first (resultAt_write_blamed n blames)
    · intro unblamed
      rcases resultAt_write_unblamed n first.noText unblamed with ⟨raised, thrown⟩
      exact ⟨raised, substitute_eq_error what held supplies first thrown⟩

end

section

/-- A template without placeholders. -/
private def insert : Template :=
  ofCut "" (.last ['i']) (by decide) []

/-- A template whose serializer is a function. -/
private def guarded (f : Ref) : Template :=
  { ofCut "g" (.placed [] "a" (.placed ['-'] "b" (.last []))) (by decide) [] with
    serializer := some f }

/-- A serializer that raises an error, and another one that raises an object without
    a text; a template for each, and values, of which the first is a template. -/
private def guarding : Store :=
  ⟨Store.initial.objects ++ #[Object.error .error "boom",
    Object.ofBody (.function (.raising (.object ⟨2⟩))), Object.ofBody (.template insert),
    Object.ofBody (.template (guarded ⟨3⟩)),
    Object.plain [("a", .object ⟨4⟩), ("b", .text "x")],
    { Object.plain [] with prototype := .none },
    Object.ofBody (.function (.raising (.object ⟨7⟩))),
    Object.ofBody (.template (guarded ⟨8⟩))]⟩

/-- What the serializer raises behind a template among the values is reported, and is
    kept as the cause. -/
theorem safeRender_outcome_of_boom :
    let interp := Interpretation.standard
    let st := guarding
    let t := guarded ⟨3⟩
    let supplied := [("a", Value.object ⟨4⟩), ("b", Value.text "x")]
    let cause : Cause := ⟨.value (.object ⟨2⟩), "boom"⟩
    let e := TemplateError.serialization "b" "string" cause "g"
    st.Untouched ∧ st.get ⟨5⟩ = Object.ofBody (.template t)
      ∧ st.Supplies (.object ⟨6⟩) supplied ∧ t.RefusesFirst interp st supplied "b" (.text "x")
      ∧ t.InsertsFirst interp st supplied "b" (.text "x")
      ∧ t.Blames interp st (.text "x") "string" cause
      ∧ (render interp "t" ⟨5⟩ (.object ⟨6⟩)).resultAt st = .error (.template e)
      ∧ (askSafeRender interp "t" ⟨5⟩ (.object ⟨6⟩)).resultAt st = .ok (.error (.template e))
      ∧ (substitute interp "t" ⟨5⟩ (.object ⟨6⟩)).resultAt st = .error (.template e) := by
  intro interp st t supplied cause e
  have untouched : st.Untouched := by decide
  have plain : st.get ⟨5⟩ = Object.ofBody (.template t) := rfl
  have supplies : st.Supplies (.object ⟨6⟩) supplied := by decide
  have known : ∀ e ∈ supplied, e.1 ∈ t.placeholders := by decide
  have fails : t.serialize interp st (.text "x") = .error (.value (.object ⟨2⟩)) := rfl
  have noText : ∀ s, t.serialize interp st (.text "x") ≠ .ok (.existing (.text s)) :=
    fun s gives => nomatch fails.symm.trans gives
  have inner : st.templateRef? (.object ⟨4⟩) = some ⟨4⟩ := rfl
  have inserted : (render interp "value" ⟨4⟩ .undefined).resultAt st = .ok (.text "i") := rfl
  have rendering : t.RefusesFirst interp st supplied "b" (.text "x") := by
    refine ⟨known, ?_, ⟨["a"], [], rfl, ?_⟩, rfl, rfl, noText⟩
    · intro m hm
      have two : m = "a" ∨ m = "b" := by simpa using show m ∈ ["a", "b"] from hm
      rcases two with rfl | rfl
      · exact ⟨_, rfl⟩
      · exact ⟨_, rfl⟩
    · intro m hm
      rcases List.mem_singleton.mp hm with rfl
      exact ⟨.object ⟨4⟩, "i", rfl, inserted⟩
  have substituting : t.InsertsFirst interp st supplied "b" (.text "x") := by
    refine ⟨known, ⟨[("a", .object ⟨4⟩)], [("a", "i")], [], rfl, ?_⟩, rfl, noText⟩
    exact .cons ⟨rfl, insert, rfl, rfl⟩ .nil
  have blames : t.Blames interp st (.text "x") "string" cause :=
    .raised fails (c := .object ⟨2⟩) rfl rfl rfl
  have outcome := (@safeRender_outcome interp st t ⟨5⟩ (.object ⟨6⟩) supplied "t" untouched plain
    (.inl supplies)).2.2.2.2
  rcases (outcome.1 "b" (.text "x") rendering).1 "string" _ blames with ⟨result, safe, -⟩
  have substituted := (outcome.2 supplies "b" (.text "x") substituting).1 "string" _ blames
  exact ⟨untouched, plain, supplies, rendering, substituting, blames, result, safe, substituted⟩

end

/-- An object without a text that is raised is not reported: what asking for its
    text raises comes out. -/
example :
    (askSafeRender Interpretation.standard "t" ⟨9⟩ (.object ⟨6⟩)).resultAt guarding
      = .error (.thrown (.fault .typeError "Cannot convert object to primitive value")) := by
  rfl

end Template

end Stencil
