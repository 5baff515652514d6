import Stencil.Proofs.Reindenting

/-!
# Line Ends of Two Characters

Removing the margin of a text whose lines end with a carriage return and a line feed.

Lines are cut at line feeds, so each of these lines but the last has the carriage return
as its last character. That is whitespace, and it is neither a space nor a tab. So a line
that has something on it is indented as before and loses the same margin, and a blank
line has no say in the margin as before. Only one thing is different: a blank line of
spaces and tabs is not one of spaces and tabs alone any more, and keeps them.

Where such lines are trimmed away that does not show. What remains are the inner ones, so
the order in which line ends are written and the margin is removed matters exactly if
there is an inner line of spaces and tabs that is not empty.

## Main definitions

* `crlf`: A text with carriage returns before its line feeds.
* `CutsMargin`: What is left of a line without the margin, if blank lines are kept.

## Theorems

* `lines_crlfChars`: The lines of such a text end with carriage returns.
* `trim_crlfChars`: Trimming does not see the difference.
* `dedent_crlf`: What a text with carriage returns comes out as.
-/

namespace Stencil

variable {cs m line line' last : List Char} {ls : List (List Char)}

/-- Characters with a carriage return before each line feed. -/
def crlfChars (cs : List Char) : List Char :=
  cs.flatMap fun c => if c = '\n' then ['\r', '\n'] else [c]

/-- A text with a carriage return before each line feed. -/
def crlf (text : String) : String :=
  String.ofList (crlfChars text.toList)

/-! ### Carriage returns in a text -/

theorem crlfChars_append (a b : List Char) : crlfChars (a ++ b) = crlfChars a ++ crlfChars b :=
  List.flatMap_append

theorem crlfChars_cons {c : Char} (other : c ≠ '\n') (cs : List Char) :
    crlfChars (c :: cs) = c :: crlfChars cs := by
  rw [crlfChars, List.flatMap_cons, if_neg other]
  rfl

theorem crlfChars_line (bare : '\n' ∉ line) : crlfChars line = line := by
  induction line with
  | nil => rfl
  | cons c line ih =>
      rcases not_or.mp (mt List.mem_cons.mpr bare) with ⟨other, bare⟩
      rw [crlfChars_cons (Ne.symm other), ih bare]

theorem crlfChars_feed (cs : List Char) : crlfChars ('\n' :: cs) = '\r' :: '\n' :: crlfChars cs :=
  rfl

theorem all_crlfChars (cs : List Char) : (crlfChars cs).all isBlank = cs.all isBlank := by
  induction cs with
  | nil => rfl
  | cons c cs ih =>
      by_cases feed : c = '\n'
      · subst feed
        rw [List.all_cons, ← ih]
        rfl
      · rw [crlfChars_cons feed, List.all_cons, List.all_cons, ih]

theorem IsTrimmed.crlfChars (trimmed : IsTrimmed isBlank cs) :
    IsTrimmed isBlank (crlfChars cs) := by
  -- What is not blank is no line feed, so it stays the first or the last character.
  have other {c : Char} (filled : isBlank c = false) : c ≠ '\n' := by
    rintro rfl
    cases filled
  constructor
  · cases cs with
    | nil => exact fun c => nofun
    | cons c cs =>
        have first := trimmed.first c rfl
        rw [crlfChars_cons (other first)]
        rintro d ⟨⟩
        exact first
  · rcases List.eq_nil_or_concat cs with rfl | ⟨init, c, rfl⟩
    · exact fun c => nofun
    · have last := trimmed.last c (by simp)
      rw [List.concat_eq_append, crlfChars_append, crlfChars_cons (other last)]
      intro d there
      rw [List.getLast?_append_of_ne_nil _ (List.cons_ne_nil _ _)] at there
      cases there
      exact last

/-- Trimming does not see the difference. -/
theorem trim_crlfChars (cs : List Char) : trim (crlfChars cs) = crlfChars (trim cs) := by
  rcases trim_parts cs with ⟨trimmed, a, b, left, right, parts⟩
  refine trim_eq_iff.mpr ⟨trimmed.crlfChars, crlfChars a, crlfChars b, ?_, ?_, ?_⟩
  · rw [all_crlfChars, left]
  · rw [all_crlfChars, right]
  · rw [← crlfChars_append, ← crlfChars_append, ← parts]

/-! ### Lines that end with a carriage return -/

theorem exists_lines_concat (cs : List Char) : ∃ ls last, lines cs = ls ++ [last] :=
  ⟨_, _, (List.dropLast_append_getLast (lines_ne_nil cs)).symm⟩

theorem crlfChars_unlines (bare : ∀ line ∈ ls ++ [last], '\n' ∉ line) :
    crlfChars (unlines (ls ++ [last])) = unlines (ls.map (· ++ ['\r']) ++ [last]) := by
  induction ls with
  | nil =>
      rw [List.nil_append, List.map_nil, List.nil_append, unlines_singleton,
        crlfChars_line (bare last (by simp))]
  | cons line ls ih =>
      rcases List.forall_mem_cons.mp bare with ⟨here, there⟩
      rw [List.cons_append, unlines_cons line (by simp), crlfChars_append, crlfChars_line here,
        crlfChars_feed, ih there, List.map_cons, List.cons_append, unlines_cons _ (by simp),
        List.append_assoc, List.singleton_append]

/-- All lines but the last end with a carriage return. -/
theorem lines_crlfChars (cut : lines cs = ls ++ [last]) :
    lines (crlfChars cs) = ls.map (· ++ ['\r']) ++ [last] := by
  have bare : ∀ line ∈ ls ++ [last], '\n' ∉ line := cut ▸ fun line => bare_of_mem_lines
  rw [← unlines_lines cs, cut, crlfChars_unlines bare]
  refine lines_unlines (by simp) ?_
  simpa [or_imp, forall_and] using bare

/-- The lines can be told from those with carriage returns, and so the text. -/
theorem crlfChars_injective : Function.Injective crlfChars := by
  intro a b same
  rcases exists_lines_concat a with ⟨ls, last, cut⟩
  rcases exists_lines_concat b with ⟨ls', last', cut'⟩
  have alike := congrArg lines same
  rw [lines_crlfChars cut, lines_crlfChars cut'] at alike
  rcases List.append_inj' alike rfl with ⟨returns, lasts⟩
  have inner : ls = ls' :=
    List.map_injective_iff.mpr (fun _ _ => List.append_cancel_right) returns
  rw [← unlines_lines a, ← unlines_lines b, cut, cut', inner, lasts]

theorem isBlankLine_return (line : List Char) :
    isBlankLine (line ++ ['\r']) = isBlankLine line := by
  rw [isBlankLine, List.all_append, isBlankLine]
  exact Bool.and_true _

theorem indent_return (line : List Char) : indent (line ++ ['\r']) = indent line := by
  rw [indent, List.takeWhile_append]
  split
  · next whole =>
      rw [indent, (List.takeWhile_prefix isIndent).eq_of_length whole]
      exact List.append_nil _
  · rfl

theorem indents_return (ls : List (List Char)) (last : List Char) :
    indents (ls.map (· ++ ['\r']) ++ [last]) = indents (ls ++ [last]) := by
  induction ls with
  | nil => rfl
  | cons line ls ih =>
      rw [List.map_cons, List.cons_append, List.cons_append, indents_cons, indents_cons,
        isBlankLine_return, indent_return, ih]

theorem margin_crlfChars (cs : List Char) :
    margin (lines (crlfChars cs)) = margin (lines cs) := by
  rcases exists_lines_concat cs with ⟨ls, last, cut⟩
  rw [lines_crlfChars cut, margin_eq, indents_return, cut, margin_eq]

/-! ### Lines without the margin -/

/-- What is left of a line without the margin, if a blank line stays as it is. -/
inductive CutsMargin (m : List Char) : List Char → List Char → Prop
  | filled (line : List Char) (filled : isBlankLine (m ++ line) = false) :
      CutsMargin m (m ++ line) line
  | blank (line : List Char) (blank : isBlankLine line = true) : CutsMargin m line line

/-- A line without a margin of the given length, if it is not blank. -/
def cutLine (width : Nat) (line : List Char) : List Char :=
  if isBlankLine line then line else line.drop width

theorem cutLine_blank (width : Nat) (blank : isBlankLine line = true) :
    cutLine width line = line := by
  rw [cutLine, if_pos blank]

theorem cutLine_filled (width : Nat) (filled : isBlankLine line = false) :
    cutLine width line = line.drop width := by
  rw [cutLine, filled]
  rfl

theorem cutsMargin_cutLine (shared : isBlankLine line = false → m <+: line) :
    CutsMargin m line (cutLine m.length line) := by
  cases blank : isBlankLine line with
  | false =>
      rcases shared blank with ⟨rest, rfl⟩
      rw [cutLine_filled _ blank, List.drop_left]
      exact .filled rest blank
  | true =>
      rw [cutLine_blank _ blank]
      exact .blank line blank

theorem cutsMargin_of_mem (mem : line ∈ ls) :
    CutsMargin (margin ls) line (cutLine (margin ls).length line) :=
  cutsMargin_cutLine ((isMargin_margin ls).shared line mem)

theorem CutsMargin.bare (cuts : CutsMargin m line line') (bare : '\n' ∉ line) : '\n' ∉ line' := by
  cases cuts with
  | filled line filled => exact fun there => bare (List.mem_append_right m there)
  | blank line blank => exact bare

theorem CutsMargin.isBlankLine_eq (cuts : CutsMargin m line line')
    (spaces : m.all isIndent = true) : isBlankLine line' = isBlankLine line := by
  cases cuts with
  | filled line filled => exact (isBlankLine_indent_append spaces line').symm
  | blank line blank => rfl

/-- A line keeps its carriage return, and with it what spaces and tabs it has if it is
    blank. -/
theorem stripLine_return (shared : isBlankLine line = false → m <+: line) :
    stripLine m.length (line ++ ['\r']) = cutLine m.length line ++ ['\r'] := by
  cases blank : isBlankLine line with
  | false =>
      rw [stripLine_filled _ ((isBlankLine_return line).trans blank), cutLine_filled _ blank,
        List.drop_append_of_le_length (shared blank).length_le]
  | true =>
      have other : (line ++ ['\r']).all isIndent = false := by
        rw [List.all_append]
        exact Bool.and_false _
      rw [stripLine_blank _ ((isBlankLine_return line).trans blank) other, cutLine_blank _ blank]

theorem trim_unlines_last (blank : isBlankLine last = true) (ls : List (List Char)) :
    trim (unlines (ls ++ [last])) = trim (unlines ls) := by
  have before : ([] : List (List Char)).all isBlankLine = true := rfl
  have after : [last].all isBlankLine = true := by rw [List.all_cons, blank]; rfl
  exact trim_unlines_core before after

/-- What a text with carriage returns comes out as. -/
theorem dedentChars_crlfChars (cs : List Char) :
    dedentChars (crlfChars cs)
      = crlfChars (trim (unlines ((lines cs).map (cutLine (margin (lines cs)).length)))) := by
  have cuts : ∀ line ∈ lines cs, CutsMargin (margin (lines cs)) line _ := fun _ => cutsMargin_of_mem
  have strips : ∀ line ∈ lines cs, LosesMargin (margin (lines cs)) line _ :=
    fun _ => losesMargin_of_mem
  have bare : ∀ line ∈ lines cs, '\n' ∉ line := fun _ => bare_of_mem_lines
  have isMargin := isMargin_margin (lines cs)
  rcases exists_lines_concat cs with ⟨ls, last, cut⟩
  rw [dedentChars, margin_crlfChars, lines_crlfChars cut]
  generalize margin (lines cs) = m at isMargin cuts strips ⊢
  have shared := isMargin.shared
  simp only [cut, List.forall_mem_append, List.forall_mem_singleton] at shared cuts strips bare
  have stripped : (ls.map (· ++ ['\r'])).map (stripLine m.length)
      = (ls.map (cutLine m.length)).map (· ++ ['\r']) := by
    rw [List.map_map, List.map_map]
    exact List.map_congr_left fun line mem => stripLine_return (shared.1 line mem)
  have bareLines :
      ∀ line ∈ ls.map (cutLine m.length) ++ [stripLine m.length last], '\n' ∉ line := by
    rw [List.forall_mem_append, List.forall_mem_map, List.forall_mem_singleton]
    exact ⟨fun line mem => (cuts.1 line mem).bare (bare.1 line mem), strips.2.bare bare.2⟩
  rw [List.map_append, stripped, List.map_singleton, ← crlfChars_unlines bareLines, trim_crlfChars,
    cut, List.map_append, List.map_singleton]
  -- The last line has no carriage return, but if it is blank it is trimmed away anyway.
  cases blank : isBlankLine last with
  | false => rw [stripLine_filled _ blank, cutLine_filled _ blank]
  | true =>
      rw [trim_unlines_last ((strips.2.isBlankLine_eq isMargin.spaces).trans blank),
        trim_unlines_last ((cuts.2.isBlankLine_eq isMargin.spaces).trans blank)]

/-! ### Which comes first -/

/-- Keeping blank lines as they are shows exactly if there are inner ones of spaces and tabs. -/
theorem trim_cutLine_eq_iff (cs : List Char) :
    trim (unlines ((lines cs).map (cutLine (margin (lines cs)).length))) = dedentChars cs ↔
      ∀ line, IsInner line (lines cs) → line.all isIndent = true → line = [] := by
  have spaces := (isMargin_margin (lines cs)).spaces
  have blankCut : ∀ line ∈ lines cs,
      isBlankLine (cutLine (margin (lines cs)).length line) = isBlankLine line :=
    fun _ mem => (cutsMargin_of_mem mem).isBlankLine_eq spaces
  constructor
  · intro alike line inner indent
    have bare : ∀ line ∈ (lines cs).map (cutLine (margin (lines cs)).length), '\n' ∉ line := by
      rw [List.forall_mem_map]
      exact fun _ mem => (cutsMargin_of_mem mem).bare (bare_of_mem_lines mem)
    have blank := isBlankLine_of_indent indent
    have kept := inner.map blankCut
    rw [cutLine_blank _ blank, ← lines_unlines (by simp [lines_ne_nil]) bare] at kept
    by_contra filled
    -- The line is still there, but no line of spaces and tabs is.
    have there := kept.mem_lines_trim
    rw [alike] at there
    exact filled ((isLevel_dedentChars cs).cleared line there indent)
  · intro cleared
    refine trim_unlines_congr blankCut
      (fun _ mem => (losesMargin_of_mem mem).isBlankLine_eq spaces) ?_ ?_
    · intro line mem filled
      rw [cutLine_filled _ filled, stripLine_filled _ filled]
    · intro line inner blank
      rw [cutLine_blank _ blank]
      cases indent : line.all isIndent with
      | false => rw [stripLine_blank _ blank indent]
      | true => rw [stripLine_spaces _ indent, cleared line inner indent]

/-- It does not matter to a text which comes first, the carriage returns or the removal of
    its margin, exactly if its inner lines of spaces and tabs are empty. If they come first,
    then these lines stay as they are, and nothing else is different. -/
theorem dedent_crlf (text : String) :
    let ls := text.toList.splitOn '\n'
    (dedent (crlf text) = crlf (dedent text) ↔
        ∀ line, IsInner line ls → line.all isIndent = true → line = [])
      ∧ ∃ m ls', IsMargin ls m ∧ List.Forall₂ (CutsMargin m) ls ls'
        ∧ dedent (crlf text) = crlf (String.ofList (trim (['\n'].intercalate ls'))) := by
  intro ls
  have cut : lines text.toList = ls := lines_eq_splitOn _
  have result : dedent (crlf text)
      = crlf (String.ofList (trim (unlines (ls.map (cutLine (margin ls).length))))) := by
    rw [dedent, crlf, crlf, String.toList_ofList, String.toList_ofList, dedentChars_crlfChars, cut]
  constructor
  · rw [result, crlf, crlf, String.ofList_inj, crlfChars_injective.eq_iff, dedent,
      String.toList_ofList, String.toList_ofList, ← cut]
    exact trim_cutLine_eq_iff text.toList
  · exact ⟨margin ls, ls.map (cutLine (margin ls).length), isMargin_margin ls,
      List.forall₂_map_right_iff.mpr (List.forall₂_same.mpr fun _ => cutsMargin_of_mem), result⟩

/-- Spaces between two lines are lost to a line feed, and not if a carriage return comes
    before it. -/
theorem dedent_crlf_keeps_spaces :
    ¬ ∀ text : String, '\r' ∉ text.toList → dedent (crlf text) = crlf (dedent text) := by
  intro alike
  exact absurd (alike "a\n \nb" (by decide +kernel)) (by decide +kernel)

end Stencil
