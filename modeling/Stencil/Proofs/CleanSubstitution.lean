import Stencil.Proofs.FirstFault
import Stencil.Proofs.SubstituteOutcome

/-!
# Clean Substitution

When filling some placeholders leaves exactly the others.

The new source is read from scratch, and the scan knows nothing of where its
characters came from. A placeholder may come about inside a text, at either end
of one, or between two literals that an empty text brings together. All of these
are places where a `$` and an opening brace are next to each other, and so are
the places where the remaining placeholders start. The criterion is that there
are no others.

That this is enough is not obvious, since a malformed placeholder is no place
of its own kind: it begins like any other. In terms of cuts the criterion says
that the literals, as they have grown together, are bare, which `opensOnlyAt_iff`
shows by going along the cut. Where they are, the cut is one of the new source.

`survivors` says where the remaining placeholders are without reference to a
cut: each moves by what the ones in front of it have grown.

## Main definitions

* `survivors`: The occurrences that stay, moved by the changes in front of them.
* `OpensOnlyAt`: All beginnings of placeholders are those of some occurrences.

## Theorems

* `Cut.survivors_eq`: The survivors are the placeholders of the cut that remains.
* `Cut.opensOnlyAt_iff`: Only placeholders begin one if the literals are bare.
* `Template.substitute_clean_iff`: When substituting leaves exactly the others.
-/

namespace Stencil

/-- The occurrences that stay when texts are put in place of others. All that
    follow a text move by the difference between it and what it replaces. -/
def survivors (texts : String → Option String) : Int → List Occurrence → List Occurrence
  | _, [] => []
  | moved, o :: more =>
    match texts o.name with
    | some s => survivors texts (moved + units s.toList - (o.stop - o.start)) more
    | none => o.shift moved :: survivors texts moved more

/-- Wherever a `$` and an opening brace are next to each other, one of some
    occurrences starts. -/
def OpensOnlyAt (source : String) (occurrences : List Occurrence) : Prop :=
  ∀ p, OpensAt source p → ∃ o ∈ occurrences, o.start = p

theorem names_survivors (texts : String → Option String) (moved : Int)
    (occurrences : List Occurrence) :
    (survivors texts moved occurrences).map Occurrence.name
      = (occurrences.map Occurrence.name).filter fun n => (texts n).isNone := by
  induction occurrences generalizing moved with
  | nil => rfl
  | cons o more ih =>
      rw [survivors, List.map_cons]
      cases found : texts o.name with
      | some s =>
          rw [ih, List.filter_cons_of_neg]
          simp [found]
      | none =>
          rw [List.map_cons, ih, List.filter_cons_of_pos (by simp [found])]
          rfl

namespace Cut

theorem occurrencesFrom_prepend (front : List Char) (c : Cut) (position : Nat) :
    (c.prepend front).occurrencesFrom position = c.occurrencesFrom (position + units front) := by
  cases c with
  | last l => rfl
  | placed l n rest =>
      simp only [prepend, occurrencesFrom, units_append, Nat.add_assoc]

/-- The survivors of the placeholders of a cut are those of the cut that remains.
    What they have moved by is the distance between the two texts. -/
theorem survivors_eq (texts : String → Option String) (c : Cut) (p q : Nat) :
    survivors texts (q - p) (c.occurrencesFrom p) = (c.subst texts).occurrencesFrom q := by
  induction c generalizing p q with
  | last l => rfl
  | placed l n rest ih =>
      rw [occurrencesFrom, survivors, subst]
      cases texts n with
      | some s =>
          have grown : (q : Int) - p + units s.toList
                - (((p + units l + units (placeholderText n) : Nat) : Int) - (p + units l : Nat))
              = (q + units (l ++ s.toList) : Nat)
                - (p + units l + units (placeholderText n) : Nat) := by
            rw [units_append]
            omega
          rw [occurrencesFrom_prepend, ← ih, ← grown]
      | none =>
          have moved : (q : Int) - p
              = (q + units l + units (placeholderText n) : Nat)
                - (p + units l + units (placeholderText n) : Nat) := by omega
          rw [occurrencesFrom, ← ih, ← moved, Occurrence.shift, List.cons.injEq,
            Occurrence.mk.injEq]
          refine ⟨⟨rfl, ?_, ?_⟩, rfl⟩ <;> simp only <;> omega

/-- A placeholder begins nowhere but where it starts. -/
theorem opening_behind {name : String} {body rest tail : List Char}
    (named : isName name.toList = true)
    (same : placeholderText name ++ rest = body ++ '$' :: '{' :: tail) :
    body = [] ∨ ∃ more, body = placeholderText name ++ more
      ∧ rest = more ++ '$' :: '{' :: tail := by
  rcases body with _ | ⟨d, _ | ⟨b, body⟩⟩
  · exact .inl rfl
  · simp [placeholderText] at same
  · simp only [placeholderText, List.cons_append, List.append_assoc, List.cons.injEq,
      List.nil_append] at same
    rcases same with ⟨rfl, rfl, same⟩
    rcases split_closing named same.symm with ⟨more, rfl, there⟩
    refine .inr ⟨more, ?_, there⟩
    simp [placeholderText]

/-- Literal text that is not bare divides where a placeholder begins. -/
theorem not_bare_iff {literal : List Char} :
    ¬ Bare literal ↔ ∃ body tail, literal = body ++ '$' :: '{' :: tail := by
  rw [Bare, Classical.not_not]
  constructor
  · rintro ⟨body, tail, rfl⟩
    exact ⟨body, tail, by simp⟩
  · rintro ⟨body, tail, rfl⟩
    exact ⟨body, tail, by simp⟩

/-- What begins in the text of a cut whose first literal is bare begins at its
    first placeholder or in the text behind it. -/
theorem opening_placed {l body tail : List Char} {name : String} {rest : Cut}
    (bare : Bare l) (named : isName name.toList = true)
    (there : (placed l name rest).text = body ++ '$' :: '{' :: tail) :
    body = l ∨ ∃ more, body = l ++ (placeholderText name ++ more)
      ∧ rest.text = more ++ '$' :: '{' :: tail := by
  rcases List.append_eq_append_iff.mp there with ⟨k, rfl, behind⟩ | ⟨k, rfl, behind⟩
  · rcases opening_behind named behind with rfl | ⟨more, rfl, later⟩
    · exact .inl (List.append_nil l)
    · exact .inr ⟨more, rfl, later⟩
  · -- The literal would end in what begins, and a placeholder does not go on with a brace.
    rcases k with _ | ⟨d, _ | ⟨b, k⟩⟩
    · exact .inl (by simp)
    · simp [placeholderText] at behind
    · simp only [List.cons_append, List.cons.injEq] at behind
      rcases behind with ⟨rfl, rfl, -⟩
      exact absurd bare (not_bare_iff.mpr ⟨body, k, rfl⟩)

/-- Where a placeholder begins in the text of a cut, one of its placeholders
    starts, if and only if its literals are bare. `front` is what precedes the text. -/
theorem openings_iff {c : Cut} (named : ∀ n ∈ c.names, isName n.toList = true)
    (front : List Char) :
    (∀ body tail, c.text = body ++ '$' :: '{' :: tail →
        ∃ o ∈ c.occurrencesFrom (units front), o.start = units (front ++ body))
      ↔ ∀ l ∈ c.literals, Bare l := by
  -- By induction on the cut: what begins in its text begins in the first literal, is the
  -- first placeholder, or begins behind that one.
  induction c generalizing front with
  | last l =>
      rw [literals, List.forall_mem_singleton]
      constructor
      · intro only
        by_contra filled
        rcases not_bare_iff.mp filled with ⟨body, tail, there⟩
        rcases only body tail there with ⟨o, mem, -⟩
        cases mem
      · intro bare body tail there
        exact absurd bare (not_bare_iff.mpr ⟨body, tail, there⟩)
  | placed l n rest ih =>
      have here : isName n.toList = true := named n List.mem_cons_self
      have behind := ih (fun m hm => named m (List.mem_cons_of_mem n hm))
        (front ++ (l ++ placeholderText n))
      have base : units (front ++ (l ++ placeholderText n))
          = units front + units l + units (placeholderText n) := by
        rw [units_append, units_append, Nat.add_assoc]
      rw [base] at behind
      rw [literals, List.forall_mem_cons, ← behind, occurrencesFrom]
      constructor
      · intro only
        refine ⟨?_, fun body tail there => ?_⟩
        · by_contra filled
          rcases not_bare_iff.mp filled with ⟨body, tail, rfl⟩
          rcases only body (tail ++ (placeholderText n ++ rest.text)) (by simp [text]) with
            ⟨o, mem, start⟩
          have two : units ('$' :: '{' :: tail) = 2 + units tail := by
            simp only [units, show unitsOf '$' = 1 from by decide,
              show unitsOf '{' = 1 from by decide]
            omega
          -- All placeholders start behind the literal, and so behind what begins in it.
          have low : (units front + units body + 2 : Int) ≤ o.start := by
            rcases List.mem_cons.mp mem with rfl | mem
            · simp only [units_append, two]
              omega
            · rw [← base] at mem
              have := (slice_of_mem mem).2.1
              simp only [units_append, two] at this
              omega
          rw [start, units_append] at low
          omega
        · rcases only (l ++ (placeholderText n ++ body)) tail (by simp [text, there]) with
            ⟨o, mem, start⟩
          rcases List.mem_cons.mp mem with rfl | mem
          · simp only [units_append, units_placeholderText] at start
            omega
          · exact ⟨o, mem, by rw [start]; simp only [List.append_assoc]⟩
      · rintro ⟨bare, only⟩ body tail there
        rcases opening_placed bare here there with rfl | ⟨more, rfl, later⟩
        · exact ⟨_, List.mem_cons_self, by rw [units_append]⟩
        · rcases only more tail later with ⟨o, mem, start⟩
          exact ⟨o, List.mem_cons_of_mem _ mem, by rw [start]; simp only [List.append_assoc]⟩

/-- Placeholders begin only where those of a cut start if and only if its literals
    are bare. -/
theorem opensOnlyAt_iff {c : Cut} (named : ∀ n ∈ c.names, isName n.toList = true) :
    OpensOnlyAt (String.ofList c.text) (c.occurrencesFrom 0) ↔ ∀ l ∈ c.literals, Bare l := by
  rw [← openings_iff named []]
  simp only [OpensOnlyAt, opensAt_iff, String.toList_ofList, List.nil_append]
  constructor
  · intro only body tail there
    exact only (units body) ⟨body, tail, there, rfl⟩
  · rintro only _ ⟨body, tail, there, rfl⟩
    exact only body tail there

end Cut

namespace Template

variable {interp : Interpretation} {st : Store} {r : Ref} {t : Template} {values : Value}
  {supplied : List (String × Value)} {texts : List (String × String)}

/-- The new source has just the survivors for placeholders if and only if
    placeholders begin only where these start. -/
theorem parses_survivors_iff (t : Template) (texts : List (String × String)) :
    let left := survivors (texts.lookup ·) 0 t.outline.occurrences
    Outline.ofSource? (t.splice texts) = .ok (Outline.ofOccurrences left)
      ↔ OpensOnlyAt (t.splice texts) left := by
  intro left
  rcases t.exists_cut with ⟨c, cut, outline⟩
  have remains : left = (c.subst (texts.lookup ·)).occurrencesFrom 0 := by
    have := c.survivors_eq (texts.lookup ·) 0 0
    simp only [left, outline]
    exact this
  have named : ∀ n ∈ (c.subst (texts.lookup ·)).names, isName n.toList = true :=
    fun n hn => cut.named n (mem_names_subst_lookup.mp hn).1
  rw [splice_eq_fill_cut cut, remains, parses_fill_iff cut, ← Cut.opensOnlyAt_iff named,
    Cut.text_subst]

/-- An outline is determined by its occurrences. -/
theorem outline_eq_ofOccurrences (t : Template) :
    t.outline = Outline.ofOccurrences t.outline.occurrences := by
  rcases t.exists_cut with ⟨c, -, outline⟩
  rw [outline]
  rfl

/-- Substituting texts leaves exactly the placeholders that were not filled, moved
    by what the ones in front of them have grown, if and only if nothing else in
    the new source begins a placeholder; unless a default that is passed on cannot
    be copied, and then what that raises is raised. -/
theorem substitute_clean_iff (what : String) (intact : st.Intact) (held : st.template? r = some t)
    (supplies : st.Supplies values supplied) (known : ∀ e ∈ supplied, e.1 ∈ t.placeholders)
    (written : List.Forall₂ (t.Writes interp st) supplied texts) :
    let source := t.splice texts
    let left := survivors (texts.lookup ·) 0 t.outline.occurrences
    let result := (substitute interp what r values).resultAt st
    let after := (substitute interp what r values).storeAfter st
    (left.map Occurrence.name
        = (t.outline.occurrences.map Occurrence.name).filter (· ∉ supplied.map Prod.fst))
      ∧ ((∃ q u, result = .ok (.object q) ∧ after.template? q = some u ∧ u.source = source
          ∧ u.outline.occurrences = left)
        ↔ OpensOnlyAt source left
          ∧ ¬ ∃ e ∈ t.defaults, e.1 ∈ left.map Occurrence.name
            ∧ ∃ raised, CopyRaises interp st e.2 raised ∧ result = .error (.thrown raised)) := by
  intro source left result after
  have outcome := outcome_of_substitute interp what intact held supplies
  have inserts := inserts_of_writes written
  have clean_iff : Outline.ofSource? source = .ok (Outline.ofOccurrences left)
      ↔ OpensOnlyAt source left := t.parses_survivors_iff texts
  rcases t.exists_cut with ⟨c, cut, -⟩
  have source_eq : source = String.ofList (c.fill (texts.lookup ·)) := splice_eq_fill_cut cut texts
  refine ⟨?_, ?_⟩
  · rw [names_survivors, ← keys_eq written]
    refine List.filter_congr fun n _ => ?_
    rw [Bool.eq_iff_iff, Option.isNone_iff_eq_none, lookup_eq_none_iff_keys, decide_eq_true_iff]
  rw [← clean_iff]
  cases parses : Outline.ofSource? source with
  | error m =>
      have fails : result = _ := outcome.malformed texts c m known inserts cut (source_eq ▸ parses)
      refine ⟨fun ⟨q, u, gives, _⟩ => ?_, fun ⟨clean, _⟩ => ?_⟩
      · cases gives.symm.trans fails
      · cases clean
  | ok outline =>
      rcases outcome.built texts c outline known inserts cut (source_eq ▸ parses) with
        ⟨q, u, given, -, -, there, same, -⟩ | ⟨e, raised, passes, raises, fails⟩
      · rw [← source_eq] at same
        have reads := u.parses
        rw [same, parses, Except.ok.injEq] at reads
        constructor
        · rintro ⟨q', u', gives, there', -, occurrences⟩
          cases given.symm.trans gives
          cases there.symm.trans there'
          refine ⟨?_, fun ⟨e, _, _, raised, _, fails⟩ => ?_⟩
          · rw [reads, outline_eq_ofOccurrences, occurrences]
          · cases given.symm.trans fails
        · rintro ⟨clean, -⟩
          refine ⟨q, u, given, there, same, ?_⟩
          rw [← reads, Except.ok.inj clean]
          rfl
      · constructor
        · rintro ⟨q, u, gives, -⟩
          cases fails.symm.trans gives
        · rintro ⟨clean, none_⟩
          rw [Except.ok.inj clean] at passes
          refine absurd ?_ none_
          cases passes with
          | own default absent named =>
              exact ⟨e, default, List.mem_eraseDups.mp named, raised, raises, fails⟩
          | inner among isTemplate =>
              -- What is written as a text is no template.
              rcases List.forall₂_iff_get.mp written with ⟨long, each⟩
              rcases List.getElem_of_mem among with ⟨i, inside, rfl⟩
              cases (each i inside (long ▸ inside)).simple.symm.trans isTemplate

section

/-- A template with a default, what its cut becomes when the other placeholder is
    filled, and that text. -/
private def summed : Template :=
  ofCut "" (.placed [] "a" (.placed ['-'] "b" (.placed ['='] "a" (.last [])))) (by decide)
    [("b", .text "1")]

private def sum : Cut :=
  .placed ['$', 'x', '-'] "b" (.last ['=', '$', 'x'])

private def sums : Store :=
  ⟨Store.initial.objects ++ #[Object.ofBody (.template summed), Object.plain [("a", .text "$x")]]⟩

/-- The text has a `$`, but no brace comes to stand behind it. -/
theorem substitute_clean_of_sum :
    let interp := Interpretation.standard
    let result := (substitute interp "this" ⟨2⟩ (.object ⟨3⟩)).resultAt sums
    let after := (substitute interp "this" ⟨2⟩ (.object ⟨3⟩)).storeAfter sums
    sums.Intact ∧ sums.template? ⟨2⟩ = some summed
      ∧ sums.Supplies (.object ⟨3⟩) [("a", .text "$x")] ∧ "a" ∈ summed.placeholders
      ∧ List.Forall₂ (summed.Writes interp sums) [("a", .text "$x")] [("a", "$x")]
      ∧ ∃ q u, result = .ok (.object q) ∧ after.template? q = some u
        ∧ u.source = "$x-$\x7bb\x7d=$x" ∧ u.outline.occurrences = [⟨"b", 3, 7⟩] := by
  intro interp result after
  have intact : sums.Intact := by decide
  have held : sums.template? ⟨2⟩ = some summed := rfl
  have supplies : sums.Supplies (.object ⟨3⟩) [("a", .text "$x")] := by decide
  have known : "a" ∈ summed.placeholders := by decide
  have written : List.Forall₂ (summed.Writes interp sums) [("a", .text "$x")] [("a", "$x")] :=
    .cons ⟨rfl, rfl, rfl⟩ .nil
  refine ⟨intact, held, supplies, known, written, ?_⟩
  have source : summed.splice [("a", "$x")] = String.ofList sum.text := by decide
  have left : survivors ([("a", "$x")].lookup ·) 0 summed.outline.occurrences
      = sum.occurrencesFrom 0 := by decide
  have clean : OpensOnlyAt (String.ofList sum.text) (sum.occurrencesFrom 0) :=
    (Cut.opensOnlyAt_iff (by decide)).mpr (by decide)
  have criterion := (substitute_clean_iff "this" intact held supplies
    (List.forall_mem_singleton.mpr known) written).2
  rw [source, left] at criterion
  refine criterion.mpr ⟨clean, ?_⟩
  -- Nothing is raised when a text is copied.
  rintro ⟨e, mem, -, raised, ⟨st, -, raises⟩, -⟩
  cases List.mem_singleton.mp mem
  cases raises

end

section

private def flaggedCut : Cut :=
  .placed [] "a" (.placed [] "b" (.last []))

/-- A template with a default, an array that somebody has put something into that
    derives from a pattern and has flags of its own, and the value for the other
    placeholder. -/
private def flagged : Template :=
  ofCut "" flaggedCut (by decide) [("b", .object ⟨3⟩)]

private def flags : Store :=
  ⟨Store.initial.objects ++ #[Object.ofBody (.template flagged),
    Object.ofBody (.array [some (.object ⟨4⟩)]),
    { Object.plain [("source", .text "x"), ("flags", .text "?")] with prototype := .object ⟨5⟩ },
    Object.ofBody (.pattern ⟨"x", ""⟩ (.number (Number.ofInt 0))), Object.plain [("a", .text "x")]]⟩

/-- Only the remaining placeholder begins one, and yet there is no new template:
    copying a default raises something. -/
theorem substitute_raises_of_clean :
    let interp := Interpretation.standard
    let texts := [("a", "x")]
    let left := survivors (texts.lookup ·) 0 flagged.outline.occurrences
    flags.Intact ∧ flags.template? ⟨2⟩ = some flagged
      ∧ flags.Supplies (.object ⟨6⟩) [("a", .text "x")] ∧ "a" ∈ flagged.placeholders
      ∧ List.Forall₂ (flagged.Writes interp flags) [("a", .text "x")] texts
      ∧ OpensOnlyAt (flagged.splice texts) left
      ∧ (substitute interp "this" ⟨2⟩ (.object ⟨6⟩)).resultAt flags
        = .error (.thrown
          (.fault .syntaxError "Invalid flags supplied to RegExp constructor '?'")) := by
  intro interp texts left
  let rest : Cut := .placed ['x'] "b" (.last [])
  have source : flagged.splice texts = String.ofList rest.text := by decide
  have remains : left = rest.occurrencesFrom 0 := by decide
  refine ⟨by decide, rfl, by decide, by decide, .cons ⟨rfl, rfl, rfl⟩ .nil, ?_, by decide +kernel⟩
  rw [source, remains]
  exact (Cut.opensOnlyAt_iff (by decide)).mpr (by decide)

end

end Template

end Stencil
