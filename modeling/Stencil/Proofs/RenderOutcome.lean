import Mathlib.Data.List.Basic
import Stencil.Proofs.Extension
import Stencil.Proofs.Rendering
import Stencil.Routine

/-!
# What Rendering Comes To

All outcomes of rendering, in the order in which they take precedence.

Keys that name no placeholder come first, all of them at once and whatever else
is wrong. Then come the placeholders without a value, again all at once. Only
then are values converted, and there the first one that fails decides. If none
does, the text is the source with every placeholder replaced; nothing that was
put in is looked at again.

A value that fails is reported under its key. There is one way out of that. The
error of the key quotes the message of what the serializer raised, and if that
message has no text, quoting it raises something of its own, which nobody
catches. `Legible` says that this does not happen, and then it is the key that
is reported; otherwise it is never the key.

## Main definitions

* `Template.Converts`: A value has a text.
* `Template.Legible`: What the serializer raises on a value can be quoted.
* `Template.Describable`: The types of a value and of what is made of it can be
  named, and only errors and simple values are raised on it.
* `Template.Refuses`: How a value without a text fails.
* `Template.finish`: The output, with or without its margin.

## Theorems

* `Template.converted_eq_ok_iff`: When converting a value gives a text.
* `Template.refuses_converted`: What it fails with otherwise.
* `Template.filled_eq_of_same`: Filling is up to how values are converted.
* `Template.filled_of_texts`, `Template.filled_eq_error`: What filling gives, and
  what it fails with.
* `Template.render_outcome`: The outcome of rendering.
-/

namespace Stencil

/-! ### Lists of computations -/

section

variable {α β ε : Type} {f : α → Except ε β}

/-- The first failure is the failure of all. -/
theorem mapM_eq_error {before after : List α} {a : α} {e : ε}
    (fine : ∀ b ∈ before, ∃ c, f b = .ok c) (fails : f a = .error e) :
    (before ++ a :: after).mapM f = .error e := by
  induction before with
  | nil =>
      rw [List.nil_append, List.mapM_cons, fails]
      rfl
  | cons b before ih =>
      rcases fine b List.mem_cons_self with ⟨c, hc⟩
      rw [List.cons_append, List.mapM_cons, hc,
        ih fun d hd => fine d (List.mem_cons_of_mem b hd)]
      rfl

theorem mapM_eq_ok {g : α → β} {xs : List α} (fine : ∀ a ∈ xs, f a = .ok (g a)) :
    xs.mapM f = .ok (xs.map g) := by
  induction xs with
  | nil => rfl
  | cons a xs ih =>
      rw [List.mapM_cons, fine a List.mem_cons_self,
        ih fun b hb => fine b (List.mem_cons_of_mem a hb)]
      rfl

/-- Only what the computations give on the elements matters. -/
theorem mapM_congr {g : α → Except ε β} {xs : List α} (same : ∀ a ∈ xs, f a = g a) :
    xs.mapM f = xs.mapM g := by
  induction xs with
  | nil => rfl
  | cons a xs ih =>
      rw [List.mapM_cons, List.mapM_cons, same a List.mem_cons_self,
        ih fun b hb => same b (List.mem_cons_of_mem a hb)]

theorem exists_ok_of_mapM {xs : List α} {ys : List β} (fine : xs.mapM f = .ok ys) :
    ∀ a ∈ xs, ∃ b, f a = .ok b := by
  induction xs generalizing ys with
  | nil => exact fun _ mem => absurd mem List.not_mem_nil
  | cons x xs ih =>
      rw [List.mapM_cons] at fine
      rcases ok_of_bind fine with ⟨y, first, rest⟩
      rcases ok_of_bind rest with ⟨zs, others, -⟩
      intro a mem
      rcases List.mem_cons.mp mem with rfl | mem
      · exact ⟨y, first⟩
      · exact ih others a mem

end

namespace Store

/-- A simple value that is raised can always be caught. -/
theorem caught_simple (interp : Interpretation) (st : Store) {raised : Thrown}
    (simple : ∀ r, raised ≠ .value (.object r)) :
    ∃ kind message, st.caught interp raised = .ok (.plain kind message) := by
  rcases raised with v | ⟨kind, message⟩
  · cases v with
    | object r => exact absurd rfl (simple r)
    | _ => exact ⟨_, _, rfl⟩
  · exact ⟨kind, message, rfl⟩

end Store

namespace Template

variable (interp : Interpretation) (st : Store) (t : Template)

/-! ### Converting a value -/

/-- A text is that of a value: for a template, what it renders as by itself, and
    for any other value, what the serializer gives. -/
def Converts (v : Value) (s : String) : Prop :=
  match st.templateRef? v with
  | some inner => (render interp "value" inner .undefined).resultAt st = .ok (.text s)
  | none => t.serialize interp st v = .ok (.existing (.text s))

/-- If the serializer raises an error on a value, the message of the error has a
    text. -/
def Legible (v : Value) : Prop :=
  ∀ r, t.serialize interp st v = .error (.value (.object r)) →
    ∃ text, Statement.quotation interp st (.object r) = .ok text

/-- The serializer raises nothing on a value but errors and simple values, and
    the types of the value and of what the serializer gives can be named. -/
structure Describable (v : Value) : Prop where
  typed : ∃ type, st.typeName interp v = .ok type
  raised : ∀ r, t.serialize interp st v = .error (.value (.object r)) →
    st.isError (.object r) = true
  given : ∀ answer, t.serialize interp st v = .ok answer →
    ∃ type kind, (answer.settle st).1.typeName interp (answer.settle st).2 = .ok type
      ∧ (answer.settle st).1.typeName interp v = .ok kind

/-- A failure is that of the value for a key: for a template, what its own
    rendering fails with, and for any other value an error that names the key,
    as long as that can be put together. -/
def Refuses (key : String) (v : Value) (f : Failure) : Prop :=
  match st.templateRef? v with
  | some inner => (render interp "value" inner .undefined).resultAt st = .error f
  | none =>
    (t.Legible interp st v → ∃ type cause, f = .template (.serialization key type cause t.name))
      ∧ (¬ t.Legible interp st v → ∃ raised, f = .thrown raised)

variable {interp st t}

/-- What a value without a text is refused with. -/
theorem refuses_write {key : String} {v : Value} (describable : t.Describable interp st v)
    (noText : ∀ s, t.serialize interp st v ≠ .ok (.existing (.text s))) :
    ∃ f, (t.write interp key v).resultAt st = .error f
      ∧ (t.Legible interp st v → ∃ type cause, f = .template (.serialization key type cause t.name))
      ∧ (¬ t.Legible interp st v → ∃ raised, f = .thrown raised) := by
  cases gives : t.serialize interp st v with
  | ok answer =>
      rcases describable.given answer gives with ⟨type, kind, typed, kinded⟩
      refine ⟨_, resultAt_write_given gives ?_ typed kinded, fun _ => ⟨_, _, rfl⟩, fun h => ?_⟩
      · intro s same
        exact noText s (same ▸ gives)
      · refine absurd (fun r fails => ?_) h
        rw [gives] at fails
        cases fails
  | error raised =>
      rcases describable.typed with ⟨kind, kinded⟩
      -- An object is an error then, and only its message can stand in the way.
      by_cases object : ∃ r, raised = .value (.object r)
      · rcases object with ⟨r, rfl⟩
        have caught : st.caught interp (.value (.object r)) = .ok (.object r) := by
          rw [Store.caught, if_pos (describable.raised r gives)]
          rfl
        refine ⟨_, resultAt_write_raised gives caught kinded, ?_⟩
        rw [Store.causeOf, Statement.causeOf]
        cases quoted : Statement.quotation interp st (.object r) with
        | ok text =>
            refine ⟨fun _ => ⟨_, _, rfl⟩, fun illegible => absurd (fun q fails => ?_) illegible⟩
            rw [gives, Except.error.injEq, Thrown.value.injEq, Value.object.injEq] at fails
            exact ⟨text, fails ▸ quoted⟩
        | error other =>
            refine ⟨fun legible => ?_, fun _ => ⟨_, rfl⟩⟩
            rcases legible r gives with ⟨text, found⟩
            cases found.symm.trans quoted
      · rcases Store.caught_simple interp st fun r same => object ⟨r, same⟩ with
          ⟨other, message, caught⟩
        refine ⟨_, resultAt_write_raised gives caught kinded, fun _ => ⟨_, _, rfl⟩,
          fun illegible => absurd (fun r fails => ?_) illegible⟩
        rw [gives, Except.error.injEq] at fails
        exact absurd ⟨r, fails⟩ object

/-- Rendering a template among the values is rendering it by itself. -/
theorem render_inner_eq (untouched : st.Untouched) {v : Value} {inner : Ref}
    (found : st.templateRef? v = some inner) :
    (render interp "value" inner .undefined).resultAt st
      = (rendered interp st st.objects.size inner []).map Value.text := by
  rcases untouched.template found with ⟨u, held⟩
  rw [(render_eq untouched "value" held (.inr ⟨rfl, rfl⟩)).2, rendered_inner]

section

variable (key : String) {v : Value}

/-- A text as a value is a text. -/
theorem map_text_eq_ok_iff {x : Except Failure String} {s : String} :
    x.map Value.text = .ok (.text s) ↔ x = .ok s := by
  cases x with
  | error e => exact ⟨nofun, nofun⟩
  | ok out => simp only [Except.map, Except.ok.injEq, Value.text.injEq]

/-- The text of a value that is converted while rendering. -/
theorem converted_eq_ok_iff (untouched : st.Untouched) {s : String} :
    t.converted interp st (fun inner => rendered interp st st.objects.size inner []) key v = .ok s
      ↔ t.Converts interp st v s := by
  rw [converted, Converts]
  cases found : st.templateRef? v with
  | none => exact resultAt_write_eq_ok_iff
  | some inner =>
      simp only [render_inner_eq untouched found]
      exact map_text_eq_ok_iff.symm

/-- The failure of a value that has no text. -/
theorem refuses_converted (untouched : st.Untouched)
    (describable : st.templateRef? v = none → t.Describable interp st v)
    (noText : ∀ s, ¬ t.Converts interp st v s) :
    ∃ f, t.converted interp st (fun inner => rendered interp st st.objects.size inner []) key v
        = .error f
      ∧ t.Refuses interp st key v f := by
  simp only [Converts] at noText
  simp only [converted, Refuses]
  cases found : st.templateRef? v with
  | none =>
      simp only [found] at noText
      exact refuses_write (describable found) noText
  | some inner =>
      simp only [found, render_inner_eq untouched found] at noText ⊢
      cases gives : rendered interp st st.objects.size inner [] with
      | error e => exact ⟨e, rfl, rfl⟩
      | ok out => exact absurd (by rw [gives]; rfl) (noText out)

end

/-! ### Filling -/

/-- The output of a template, without its margin if it says so. -/
def finish (t : Template) (output : List Char) : String :=
  if t.dedent then Stencil.dedent (String.ofList output) else String.ofList output

theorem finish_congr {u : Template} (dedent : u.dedent = t.dedent) : u.finish = t.finish := by
  funext output
  rw [finish, finish, dedent]

theorem missing_eq_nil_iff {supplied : List (String × Value)} :
    t.missing supplied = [] ↔ ∀ n ∈ t.placeholders, ∃ v, t.valueFor? supplied n = some v := by
  rw [missing, List.filter_eq_nil_iff]
  refine forall_congr' fun n => forall_congr' fun _ => ?_
  rw [Option.isNone_iff_eq_none, ← Option.isSome_iff_exists, Option.isSome_iff_ne_none]

/-- Whether all placeholders have values, and what comes of them, is up to what is
    there under each name, be it supplied or a default. -/
theorem filled_eq_of_same {convert convert' : String → Value → Except Failure String}
    {defaults supplied supplied' : List (String × Value)}
    (unknown : t.unknownKeys (supplied'.map Prod.fst) = t.unknownKeys (supplied.map Prod.fst))
    (same : ∀ name ∈ t.placeholders,
      t.valueFor? supplied name = none
          ∧ ({ t with defaults := defaults } : Template).valueFor? supplied' name = none
        ∨ ∃ v v', t.valueFor? supplied name = some v
          ∧ ({ t with defaults := defaults } : Template).valueFor? supplied' name = some v'
          ∧ convert' name v' = convert name v) :
    ({ t with defaults := defaults } : Template).filled convert' supplied'
      = t.filled convert supplied := by
  set u : Template := { t with defaults := defaults }
  have missing : u.missing supplied' = t.missing supplied := by
    refine List.filter_congr fun name hn => ?_
    rcases same name hn with ⟨absent, absent'⟩ | ⟨v, v', given, given', -⟩
    · rw [absent, absent']
    · rw [given, given', Option.isNone_some, Option.isNone_some]
  have known : u.unknownKeys (supplied'.map Prod.fst) = t.unknownKeys (supplied.map Prod.fst) :=
    unknown
  rw [filled, filled, known, missing]
  -- Only if no value is missing are any of them converted.
  by_cases complete : t.missing supplied = []
  · have texts : (u.placeholders.mapM fun name => do
          return (name, ← convert' name ((u.valueFor? supplied' name).getD .undefined)))
        = t.placeholders.mapM fun name => do
          return (name, ← convert name ((t.valueFor? supplied name).getD .undefined)) := by
      refine mapM_congr fun name hn => ?_
      rcases same name hn with ⟨absent, -⟩ | ⟨v, v', given, given', converted⟩
      · rcases missing_eq_nil_iff.mp complete name hn with ⟨v, given⟩
        rw [absent] at given
        cases given
      · rw [given, given', Option.getD_some, Option.getD_some, converted]
    rw [texts]
    rfl
  · rw [if_pos complete, if_pos complete]
    rfl

section

variable {c : Cut} {convert : String → Value → Except Failure String}
  {supplied : List (String × Value)}

/-- Texts for all placeholders fill the cut of the source. -/
theorem filled_of_texts (hc : c.Of t.source) (known : t.unknownKeys (supplied.map Prod.fst) = [])
    {text : String → String}
    (written : ∀ n ∈ c.names, ∃ v, t.valueFor? supplied n = some v ∧ convert n v = .ok (text n)) :
    t.filled convert supplied = .ok (t.finish (c.fill fun n => some (text n))) := by
  have names : ∀ n ∈ t.placeholders, n ∈ c.names := fun n hn => by
    rw [placeholders_eq hc, List.mem_eraseDups] at hn
    exact hn
  -- A name with a text has a value.
  have complete : t.missing supplied = [] := by
    refine missing_eq_nil_iff.mpr fun n hn => ?_
    rcases written n (names n hn) with ⟨v, found, -⟩
    exact ⟨v, found⟩
  have all : (t.placeholders.mapM fun name => do
      return (name, ← convert name ((t.valueFor? supplied name).getD .undefined)))
      = .ok (t.placeholders.map fun n => (n, text n)) := by
    refine mapM_eq_ok fun n hn => ?_
    rcases written n (names n hn) with ⟨v, found, converted⟩
    rw [found, Option.getD_some, converted]
    rfl
  rw [filled, if_neg (not_not.mpr known), if_neg (not_not.mpr complete), all, finish,
    ← splice_graph hc]
  rfl

/-- The first value that is not converted decides how filling fails. -/
theorem filled_eq_error (known : t.unknownKeys (supplied.map Prod.fst) = [])
    (complete : t.missing supplied = []) {before after : List String} {n : String} {f : Failure}
    (split : t.placeholders = before ++ n :: after)
    (fine : ∀ m ∈ before, ∃ s, convert m ((t.valueFor? supplied m).getD .undefined) = .ok s)
    (fails : convert n ((t.valueFor? supplied n).getD .undefined) = .error f) :
    t.filled convert supplied = .error f := by
  rw [filled, if_neg (not_not.mpr known), if_neg (not_not.mpr complete), split,
    mapM_eq_error (e := f) ?_ ?_]
  · rfl
  · intro m hm
    rcases fine m hm with ⟨s, converted⟩
    refine ⟨(m, s), ?_⟩
    rw [converted]
    rfl
  · rw [fails]
    rfl

end

/-! ### Rendering -/

/-- The outcome of rendering with an object of data, or with nothing. The serializer may
    be any function, as long as all that it does besides giving or raising something is to
    read the store. -/
theorem render_outcome (what : String) {r : Ref} {t : Template} {values : Value}
    {supplied : List (String × Value)} (untouched : st.Untouched) (held : st.template? r = some t)
    (offered : Offers st values supplied)
    (describable : ∀ n ∈ t.placeholders, ∀ v,
      (supplied.lookup n).or (t.defaults.lookup n) = some v → st.templateRef? v = none →
        t.Describable interp st v) :
    let result := (render interp what r values).resultAt st
    let unknown := (supplied.map Prod.fst).filter fun key => key ∉ t.placeholders
    let missing := t.placeholders.filter fun n =>
      supplied.lookup n = none ∧ t.defaults.lookup n = none
    let value (n : String) := ((supplied.lookup n).or (t.defaults.lookup n)).getD .undefined
    (unknown ≠ [] → result = .error (.template (.invalidKeys unknown t.placeholders t.name)))
      ∧ (unknown = [] → missing ≠ [] →
          result = .error (.template (.missingValues missing t.name)))
      ∧ (unknown = [] → missing = [] → ∀ before n after, t.placeholders = before ++ n :: after →
          (∀ m ∈ before, ∃ s, t.Converts interp st (value m) s) →
          (∀ s, ¬ t.Converts interp st (value n) s) →
          ∃ f, result = .error f ∧ t.Refuses interp st n (value n) f)
      ∧ (unknown = [] → missing = [] → ∀ text : String → String,
          (∀ n ∈ t.placeholders, t.Converts interp st (value n) (text n)) →
          ∃ c : Cut, c.Of t.source
            ∧ result = .ok (.text
                (let output := String.ofList (c.fill fun n => some (text n))
                if t.dedent then Stencil.dedent output else output))) := by
  intro result unknown missing value
  have unknown_eq : t.unknownKeys (supplied.map Prod.fst) = unknown := by
    refine List.filter_congr fun key _ => ?_
    simp only [List.contains_eq_mem, decide_not]
  have missing_eq : t.missing supplied = missing := by
    refine List.filter_congr fun n _ => ?_
    rw [valueFor?]
    cases supplied.lookup n <;> cases t.defaults.lookup n <;> simp
  have result_eq : result = (t.filled (t.converted interp st
      fun inner => rendered interp st st.objects.size inner []) supplied).map Value.text := by
    have gives := (render_eq untouched what held offered : _ ∧ result = _).2
    rw [rendered, held] at gives
    exact gives
  -- Where nothing is missing, the value for a name is what the computation looks up.
  have effective : missing = [] → ∀ n ∈ t.placeholders, ∃ v, t.valueFor? supplied n = some v
      ∧ value n = v := by
    intro complete n hn
    rcases missing_eq_nil_iff.mp (missing_eq.trans complete) n hn with ⟨v, found⟩
    refine ⟨v, found, ?_⟩
    change (t.valueFor? supplied n).getD .undefined = v
    rw [found, Option.getD_some]
  refine ⟨fun h => ?_, fun known h => ?_, fun known complete before n after split fine fails => ?_,
    fun known complete text texts => ?_⟩
  · rw [result_eq, filled, unknown_eq, if_pos h]
    rfl
  · rw [result_eq, filled, unknown_eq, missing_eq, if_neg (not_not.mpr known), if_pos h]
    rfl
  · -- The names before it have texts, so its failure is that of all.
    have place : n ∈ t.placeholders := by
      rw [split]
      exact List.mem_append_right before List.mem_cons_self
    rcases effective complete n place with ⟨v, found, same⟩
    have simple : st.templateRef? (value n) = none → t.Describable interp st (value n) := by
      rw [same]
      exact describable n place v found
    rcases refuses_converted n untouched simple fails with ⟨f, gives, refuses⟩
    refine ⟨f, ?_, refuses⟩
    rw [result_eq, filled_eq_error (unknown_eq.trans known) (missing_eq.trans complete) split ?_
      gives]
    · rfl
    · intro m hm
      rcases fine m hm with ⟨s, converts⟩
      exact ⟨s, (converted_eq_ok_iff m untouched).mpr converts⟩
  · -- All names of the cut have texts, whose order does not matter.
    rcases t.exists_cut with ⟨c, hc, -⟩
    have written : ∀ n ∈ c.names, ∃ v, t.valueFor? supplied n = some v
        ∧ t.converted interp st (fun inner => rendered interp st st.objects.size inner []) n v
          = .ok (text n) := by
      intro n hn
      have place : n ∈ t.placeholders := by
        rw [placeholders_eq hc, List.mem_eraseDups]
        exact hn
      rcases effective complete n place with ⟨v, found, same⟩
      exact ⟨v, found, (converted_eq_ok_iff n untouched).mpr (same ▸ texts n place)⟩
    refine ⟨c, hc, ?_⟩
    rw [result_eq, filled_of_texts hc (unknown_eq.trans known) written]
    rfl

section

/-- A template in angle brackets whose default looks like a placeholder. -/
private def angled : Template :=
  ofCut "" (.placed ['<'] "d" (.last ['>'])) (by decide) [("d", .text "$\x7ba\x7d")]

/-- A template with a template among its defaults, and behind it a function. -/
private def barred : Template :=
  ofCut "t" (.placed ['$'] "a" (.placed ['|'] "b" (.placed ['|'] "c" (.placed [] "a" (.last [])))))
    (by decide) [("b", .object ⟨3⟩), ("c", .object ⟨1⟩)]

/-- The two templates, and a value for one of three placeholders. -/
private def store : Store :=
  ⟨Store.initial.objects ++ #[Object.ofBody (.template barred), Object.ofBody (.template angled),
    Object.plain [("a", .text "x"), ("b", .undefined)]]⟩

/-- The first default without a text is reported, behind a supplied text and a
    template. -/
theorem render_outcome_of_refused_default :
    let interp := Interpretation.standard
    store.Untouched ∧ store.template? ⟨2⟩ = some barred
      ∧ Offers store (.object ⟨4⟩) [("a", .text "x")]
      ∧ barred.Describable interp store (.text "x")
      ∧ store.templateRef? (.object ⟨3⟩) = some ⟨3⟩
      ∧ barred.Describable interp store (.object ⟨1⟩) ∧ barred.Legible interp store (.object ⟨1⟩)
      ∧ ∃ type cause, (render interp "this" ⟨2⟩ (.object ⟨4⟩)).resultAt store
        = .error (.template (.serialization "c" type cause "t")) := by
  intro interp
  have untouched : store.Untouched := by decide
  have offered : Offers store (.object ⟨4⟩) [("a", .text "x")] := .inl (by decide)
  have gives : barred.serialize interp store (.text "x") = .ok (.existing (.text "x")) := rfl
  have fails : barred.serialize interp store (.object ⟨1⟩)
      = .error (.fault .typeError "Object of type Function is not serializable") := by rfl
  have ofText : barred.Describable interp store (.text "x") := by
    refine ⟨⟨_, rfl⟩, ?_, ?_⟩
    · intro r h
      rw [gives] at h
      cases h
    · intro answer h
      rw [gives] at h
      cases h
      exact ⟨_, _, rfl, rfl⟩
  have ofFunction : barred.Describable interp store (.object ⟨1⟩) := by
    refine ⟨⟨_, rfl⟩, ?_, ?_⟩
    · intro r h
      rw [fails] at h
      cases h
    · intro answer h
      rw [fails] at h
      cases h
  have legible : barred.Legible interp store (.object ⟨1⟩) := by
    intro r h
    rw [fails] at h
    cases h
  have held : store.template? ⟨2⟩ = some barred := rfl
  refine ⟨untouched, held, offered, ofText, by decide, ofFunction, legible, ?_⟩
  have describable : ∀ n ∈ barred.placeholders, ∀ v,
      ([("a", Value.text "x")].lookup n).or (barred.defaults.lookup n) = some v →
        store.templateRef? v = none → barred.Describable interp store v := by
    intro n hn v found simple
    have three : n = "a" ∨ n = "b" ∨ n = "c" := by
      simpa using show n ∈ ["a", "b", "c"] from hn
    rcases three with rfl | rfl | rfl
    · cases found
      exact ofText
    · cases found
      exact absurd simple (by decide)
    · cases found
      exact ofFunction
  have outcome := (render_outcome "this" untouched held offered describable).2.2.1 rfl rfl
    ["a", "b"] "c" [] rfl
  have inserted : (render interp "value" ⟨3⟩ .undefined).resultAt store
      = .ok (.text "<$\x7ba\x7d>") := by rfl
  have earlier : ∀ m ∈ ["a", "b"], ∃ s, barred.Converts interp store
      ((([("a", Value.text "x")].lookup m).or (barred.defaults.lookup m)).getD .undefined) s := by
    intro m hm
    have two : m = "a" ∨ m = "b" := by simpa using hm
    rcases two with rfl | rfl
    · exact ⟨"x", gives⟩
    · exact ⟨"<$\x7ba\x7d>", inserted⟩
  have refused : ∀ s, ¬ barred.Converts interp store (.object ⟨1⟩) s :=
    fun s h => nomatch fails.symm.trans h
  rcases outcome earlier refused with ⟨f, result, refuses⟩
  rcases refuses.1 legible with ⟨type, cause, rfl⟩
  exact ⟨type, cause, result⟩

end

/-- What an error cannot be quoted with is raised in its place. -/
example :
    let e : Object := { Object.error .error "" with
      fields := [(.text "message", { slot := .data (.symbol "m") })] }
    let t := { ofCut "" (.placed [] "a" (.last [])) (by decide) [] with serializer := some ⟨3⟩ }
    let st : Store := ⟨Store.initial.objects ++ #[e,
      Object.ofBody (.function (.raising (.object ⟨2⟩))), Object.ofBody (.template t),
      Object.plain [("a", .text "x")]]⟩
    (render Interpretation.standard "this" ⟨4⟩ (.object ⟨5⟩)).resultAt st
      = .error (.thrown (.fault .typeError "Cannot convert a Symbol value to a string")) := by
  rfl

end Template

end Stencil
