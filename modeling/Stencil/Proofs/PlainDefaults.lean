import Stencil.Proofs.GivenDefaults

/-!
# Plain Data as Defaults

A default renders like the value that it was made from.

A template keeps a copy of what it is given as a default, so this is about copies.
What shows of an array, a map or an instance of a class when it is written is found
at its copy as well, and so are the reasons for which it is refused: a cycle leads
back to itself in a copy too, and an instance of a class has the class of the
original. Nothing is lost by that until something is called. A function that
computes the class of an object, or the name of the class, is told which object it
is called for, and one that is a method for JSON is called once for the original
and once for the copy.

The other values that are inserted come from the same two stores, with and without
the default. They must not lead to the template that was given it, or at least be
inserted as before.

## Theorems

* `Template.default_as_given`: Plain data as a default, and given directly.
* `Template.default_not_as_given`: What is called, and a template inside itself, may
  tell them apart.
-/

namespace Stencil

namespace Template

variable {st : Store} {v : Value}

/-- A copy of plain data is written as the original is, and if not, it is refused with
    the same error. A template therefore renders with such a default as it does with
    the value, as long as the other values are inserted as before. -/
theorem default_as_given (interp : Interpretation) (what : String) (intact : st.Intact)
    (data : st.IsFaithful v) :
    (∃ st' u, st.copy interp v = .ok (st', u)
        ∧ Serializer.serialize interp st' u = Serializer.serialize interp st v
        ∧ ((∃ s, Serializer.serialize interp st v = .ok (.existing (.text s)))
          ∨ ∃ kind message, Serializer.serialize interp st v = .error (.fault kind message)))
      ∧ ∀ {r d : Ref} {t : Template} {key : String} {w w' : Value}
          {supplied supplied' : List (String × Value)},
          let later := (askSetDefault interp what r (.object d)).storeAfter st
          st.template? r = some t → t.IsStandard → key ∈ t.placeholders →
          st.get d = .plain [(key, v)] →
          st.Holds w → Offers st w supplied → Offers st w' supplied' →
          Store.AddsEntry key v supplied supplied' →
          (∀ name ∈ t.placeholders, name ≠ key → ∀ x, t.valueFor? supplied name = some x →
            st.Avoids r x ∨ t.insertion interp later name x = t.insertion interp st name x) →
          (askSetDefault interp what r (.object d)).resultAt st = .ok .undefined
            ∧ (render interp what r w).resultAt later = (render interp what r w').resultAt st := by
  constructor
  · rcases data with ⟨S, on, covered⟩
    rcases Store.copy_likeness interp intact.closed on covered with
      ⟨state, T, copies, -, -, covered', like⟩
    refine ⟨state.store, v.rename state.target, copies, like.resemblance.serialize_eq covered', ?_⟩
    rcases like.resemblance.serialize_cases covered' with text | ⟨e, fails, kind, message, rfl⟩
    · exact .inl text
    · exact .inr ⟨kind, message, fails⟩
  · intro r d t key w w' supplied supplied' later held standard declared there inside offered
      offered' adds others
    exact setDefault_then_render what intact (reproduces_of_faithful interp intact data) held
      standard declared there inside offered offered' adds others

section

private theorem note_proper : (Cut.placed [] "k" (.placed [] "x" (.last []))).Proper := by
  decide

/-- A template with another one among its defaults. -/
private def note : Template :=
  ofCut "" (.placed [] "k" (.placed [] "x" (.last []))) note_proper [("x", .object ⟨3⟩)]

/-- A template with a default. -/
private def mark : Template :=
  ofCut "" (.placed [':'] "a" (.last [])) (by decide) [("a", .boolean true)]

/-- The two templates, an array in which something is missing and a map that it has,
    and what is given with it and without. -/
private def desk : Store :=
  ⟨Store.initial.objects ++ #[Object.ofBody (.template note), Object.ofBody (.template mark),
    Object.ofBody (.array [none, some (.object ⟨5⟩)]),
    Object.ofBody (.map [(.text "s", .null), (.boolean true, .text "q")]),
    Object.plain [("k", .object ⟨4⟩)], Object.plain [("k", .object ⟨4⟩)]]⟩

private theorem desk_faithful : desk.IsFaithful (.object ⟨4⟩) := by
  have inside : ∀ r ∈ ([⟨4⟩, ⟨5⟩] : List Ref), r.index < desk.objects.size := by decide
  have closed : ∀ r ∈ ([⟨4⟩, ⟨5⟩] : List Ref), (desk.get r).isFunction = false →
      ∀ q ∈ (desk.get r).held, q ∈ ([⟨4⟩, ⟨5⟩] : List Ref) := by decide
  refine ⟨{r | r ∈ ([⟨4⟩, ⟨5⟩] : List Ref)}, ⟨fun r hr => ?_, inside, closed⟩, ?_⟩
  · have two : r = ⟨4⟩ ∨ r = ⟨5⟩ := by simpa using hr
    rcases two with rfl | rfl
    · exact .array _ rfl
    · exact .map _ ⟨by decide, by decide⟩ rfl
  · intro r hr
    rw [List.mem_singleton.mp hr]
    exact List.mem_cons_self

/-- What is missing in an array is written like what is null, and a map by its
    entries. -/
theorem default_as_given_of_array :
    let interp := Interpretation.standard
    let later := (askSetDefault interp "this" ⟨2⟩ (.object ⟨6⟩)).storeAfter desk
    desk.Intact ∧ desk.IsFaithful (.object ⟨4⟩) ∧ desk.Avoids ⟨2⟩ (.object ⟨3⟩)
      ∧ (render interp "this" ⟨2⟩ .undefined).resultAt later
        = .ok (.text "[null,\x7b\"s\":null,\"true\":\"q\"\x7d]:true") := by
  intro interp later
  have intact : desk.Intact := by decide
  have avoids : desk.Avoids ⟨2⟩ (.object ⟨3⟩) := by
    refine .template (u := mark) rfl rfl (by decide) ⟨rfl, rfl⟩ fun name hn w found => ?_
    have one : name = "a" := by simpa using show name ∈ ["a"] from hn
    rw [one] at found
    cases found
    exact .data (Store.isFaithful_of_simple rfl)
  have adds : Store.AddsEntry "k" (.object ⟨4⟩) [] [("k", .object ⟨4⟩)] := ⟨by decide, by decide⟩
  have offered : Offers desk (.object ⟨7⟩) [("k", .object ⟨4⟩)] := .inl (by decide)
  have same := (default_as_given interp "this" intact desk_faithful).2 (r := ⟨2⟩) (d := ⟨6⟩)
    (t := note) rfl ⟨rfl, rfl⟩ (by decide) rfl (by decide) (.inr ⟨rfl, rfl⟩) offered adds
    fun name hn other x found => ?_
  · refine ⟨intact, desk_faithful, avoids, same.2.trans ?_⟩
    decide +kernel
  · have two : name = "k" ∨ name = "x" := by simpa using show name ∈ ["k", "x"] from hn
    rcases two with rfl | rfl
    · exact absurd rfl other
    · cases found
      exact .inl avoids

end

section

/-- A function that tells by whom it is called, and one that tells when. -/
private def telling : Interpretation := .ofCalls fun _ _ this _ =>
  .ok (.existing (if this = .object ⟨6⟩ then .object ⟨3⟩ else .object ⟨4⟩))

private def counting : Interpretation := .ofCalls fun st _ _ _ =>
  .ok (.existing (.text (indexName st.objects.size)))

/-- A template with a default, and objects to give it, with a second default and
    without: one has the template, and the other computes what it has. -/
private def mirror : Store :=
  ⟨Store.initial.objects ++ #[
    Object.ofBody (.template (ofCut "" (.placed [] "k" (.placed [] "x" (.last []))) note_proper
      [("x", .text "q")])),
    Object.plain [("k", .text "v")], Object.plain [("x", .object ⟨2⟩)],
    Object.plain [("x", .object ⟨2⟩), ("k", .text "v")],
    Object.ofBody (.array []), Object.plain [("k", .object ⟨6⟩)],
    { Object.plain [] with fields := [(.text "x", { slot := .accessor (some ⟨1⟩) none })] },
    Object.plain [("x", .text "10"), ("k", .object ⟨6⟩)]]⟩

/-- An instance whose class is computed, one of a class whose name is, and in an
    array a function with a method for JSON. -/
private def guises : Store :=
  ⟨Store.initial.objects ++ #[Object.ofBody (.function .silent),
    Object.plain [("name", .text "A")], Object.plain [("name", .text "B")],
    { Object.plain [] with
      fields := [(.text "constructor", { slot := .accessor (some ⟨2⟩) none })] },
    { Object.plain [] with prototype := .object ⟨5⟩ },
    { Object.ofBody (.function .silent) with
      fields := [(.text "name", { slot := .accessor (some ⟨2⟩) none })] },
    Object.plain [("constructor", .object ⟨7⟩)],
    { Object.plain [] with prototype := .object ⟨8⟩ },
    { Object.ofBody (.function .silent) with
      fields := [(.text "toJSON", { slot := .data (.object ⟨2⟩) })] },
    Object.ofBody (.array [some (.object ⟨10⟩)])]⟩

/-- What a value and its copy are written as. -/
private def Written (interp : Interpretation) (st : Store) (v : Value)
    (original copy : Except Thrown Answer) : Prop :=
  Serializer.serialize interp st v = original
    ∧ ∃ st' u, st.copy interp v = .ok (st', u) ∧ Serializer.serialize interp st' u = copy

/-- What a template renders as with a default, and with the value of that. -/
private def Rendered (interp : Interpretation) (d w w' : Ref)
    (stored given : Except Failure Value) : Prop :=
  (render interp "this" ⟨2⟩ (.object w)).resultAt
      ((askSetDefault interp "this" ⟨2⟩ (.object d)).storeAfter mirror) = stored
    ∧ (render interp "this" ⟨2⟩ (.object w')).resultAt mirror = given

/-- A template that is given to itself has the new default there as well, and what an
    object computes may tell an earlier time from a later one. A class or its name that
    is computed, and a method of a function, tell a copy from the original. -/
theorem default_not_as_given :
    let refused (name : String) : Except Thrown Answer :=
      .error (.fault .typeError ("Object of type " ++ name ++ " is not serializable"))
    let text (s : String) : Except Thrown Answer := .ok (.existing (.text s))
    (mirror.Intact ∧ guises.Intact)
      ∧ Rendered .standard ⟨3⟩ ⟨4⟩ ⟨5⟩ (.ok (.text "vvq"))
        (.error (.template (.missingValues ["k"] "")))
      ∧ mirror.supplied counting (.object ⟨8⟩) = .ok (mirror, [("x", .text "10")])
      ∧ Rendered counting ⟨7⟩ ⟨8⟩ ⟨9⟩ (.ok (.text "[]11")) (.ok (.text "[]10"))
      ∧ Written telling guises (.object ⟨6⟩) (refused "A") (refused "B")
      ∧ Written counting guises (.object ⟨9⟩) (refused "12") (refused "13")
      ∧ Written counting guises (.object ⟨11⟩) (text "[\"12\"]") (text "[\"13\"]") := by
  intro refused text
  have itself : Rendered .standard ⟨3⟩ ⟨4⟩ ⟨5⟩ (.ok (.text "vvq"))
      (.error (.template (.missingValues ["k"] ""))) := ⟨by decide +kernel, by decide +kernel⟩
  have computed : Rendered counting ⟨7⟩ ⟨8⟩ ⟨9⟩ (.ok (.text "[]11")) (.ok (.text "[]10")) :=
    ⟨by decide +kernel, by decide +kernel⟩
  have maker : Written telling guises (.object ⟨6⟩) (refused "A") (refused "B") :=
    ⟨by decide +kernel, _, _, rfl, by decide +kernel⟩
  have name : Written counting guises (.object ⟨9⟩) (refused "12") (refused "13") :=
    ⟨by decide +kernel, _, _, rfl, by decide +kernel⟩
  have method : Written counting guises (.object ⟨11⟩) (text "[\"12\"]") (text "[\"13\"]") :=
    ⟨by decide +kernel, _, _, rfl, by decide +kernel⟩
  exact ⟨⟨by decide, by decide⟩, itself, rfl, computed, maker, name, method⟩

end

end Template

end Stencil
