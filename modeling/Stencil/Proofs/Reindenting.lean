import Stencil.Proofs.Margins

/-!
# Texts That Come out Alike

How a text is indented as a whole, and what lines of spaces and tabs look like, is gone
once its margin has been removed. So removing the margin twice is the same as doing it
once, and moving the text to the right before makes no difference.

The first half is less obvious than it sounds, since the text is trimmed in between. That
can take indentation from the first line which the others keep, as in a text that goes
to the left. What makes it true is that nothing can be taken away the second time: the
first line starts with something that is not whitespace, so there is no margin any more,
and lines of spaces and tabs are empty already. `IsLevel` says just that, and these texts
are exactly those that stay as they are.

## Main definitions

* `IsLevel`: Trimmed texts without lines of spaces and tabs.
* `Reindents`: A line that is moved to the right.

## Theorems

* `isLevel_dedentChars`: A text without its margin is level.
* `dedentChars_eq_self_iff`: Level texts stay as they are, and no others.
* `margin_of_reindents`: Moving lines to the right moves their margin.
* `dedent_sees_through_indentation`: Texts that are indented differently come out alike.
-/

namespace Stencil

variable {cs w line line' : List Char} {ls ls' : List (List Char)}

/-! ### Level texts -/

/-- A text that is trimmed and whose lines of spaces and tabs are empty. -/
structure IsLevel (cs : List Char) : Prop where
  trimmed : IsTrimmed isBlank cs
  cleared : ∀ line ∈ lines cs, line.all isIndent = true → line = []

theorem isLevel_dedentChars (cs : List Char) : IsLevel (dedentChars cs) := by
  have bare : ∀ line ∈ (lines cs).map (stripLine (margin (lines cs)).length), '\n' ∉ line := by
    rw [List.forall_mem_map]
    exact fun line mem => (losesMargin_of_mem mem).bare (bare_of_mem_lines mem)
  refine ⟨(trim_parts _).1, fun line mem spaces => ?_⟩
  by_contra filled
  -- A line of spaces and tabs would be an inner one, and so one that was stripped.
  have there := ((mem_lines_trim_iff (isBlankLine_of_indent spaces) filled).mp mem).mem
  rw [lines_unlines (by simp [lines_ne_nil]) bare] at there
  rcases List.mem_map.mp there with ⟨whole, among, rfl⟩
  exact filled ((losesMargin_of_mem among).cleared (isMargin_margin _).spaces spaces)

/-- A trimmed text has no margin, since its first line is not indented. -/
theorem IsTrimmed.margin_eq_nil (trimmed : IsTrimmed isBlank cs) : margin (lines cs) = [] := by
  cases cs with
  | nil => rfl
  | cons c cs =>
      have here : isBlank c = false := trimmed.first c rfl
      have other : c ≠ '\n' := by
        rintro rfl
        cases here
      rcases exists_lines_cons other cs with ⟨rest, more, -, cut⟩
      have starts : margin (lines (c :: cs)) <+: c :: rest := by
        refine (isMargin_margin _).shared _ (by rw [cut]; simp) ?_
        rw [isBlankLine, List.all_cons, here, Bool.false_and]
      cases there : margin (lines (c :: cs)) with
      | nil => rfl
      | cons d margin =>
          have spaces := (isMargin_margin (lines (c :: cs))).spaces
          rw [there] at starts spaces
          have same : d = c := (List.cons_prefix_cons.mp starts).1
          rw [List.all_cons, same, Bool.and_eq_true_iff] at spaces
          cases here.symm.trans (isBlank_of_isIndent spaces.1)

/-- A line that is not padded stays as it is where there is no margin. -/
theorem LosesMargin.eq_of_cleared (loses : LosesMargin [] line line')
    (cleared : line.all isIndent = true → line = []) : line' = line := by
  cases loses with
  | filled line filled => rfl
  | spaces line spaces => exact (cleared spaces).symm
  | blank line blank other => rfl

/-- Level texts stay as they are, and no others. -/
theorem dedentChars_eq_self_iff : dedentChars cs = cs ↔ IsLevel cs := by
  constructor
  · intro same
    exact same ▸ isLevel_dedentChars cs
  · intro level
    have kept : (lines cs).map (stripLine 0) = lines cs := by
      refine (List.map_congr_left fun line mem => ?_).trans (List.map_id _)
      have loses : LosesMargin [] line (stripLine 0 line) :=
        losesMargin_stripLine fun _ => List.nil_prefix
      exact loses.eq_of_cleared (level.cleared line mem)
    rw [dedentChars, level.trimmed.margin_eq_nil]
    change trim (unlines ((lines cs).map (stripLine 0))) = cs
    rw [kept, unlines_lines, level.trimmed.trim_eq]

/-! ### Moving to the right -/

theorem commonPrefix_append (w a b : List Char) :
    commonPrefix (w ++ a) (w ++ b) = w ++ commonPrefix a b := by
  induction w with
  | nil => rfl
  | cons c w ih => rw [List.cons_append, List.cons_append, commonPrefix, if_pos rfl, ih]; rfl

theorem foldl_commonPrefix_append (w a : List Char) (ls : List (List Char)) :
    (ls.map (w ++ ·)).foldl commonPrefix (w ++ a) = w ++ ls.foldl commonPrefix a := by
  induction ls generalizing a with
  | nil => rfl
  | cons line ls ih => rw [List.map_cons, List.foldl_cons, commonPrefix_append, ih, List.foldl_cons]

/-- What a line may become when a text is moved to the right: it is moved if there is
    something on it, and it may get any other spaces and tabs if it has nothing else. -/
inductive Reindents (w line : List Char) : List Char → Prop
  | filled (filled : isBlankLine line = false) : Reindents w line (w ++ line)
  | spaces (line' : List Char) (spaces : line.all isIndent = true)
      (spaces' : line'.all isIndent = true) : Reindents w line line'
  | blank (blank : isBlankLine line = true) (other : line.all isIndent = false) :
      Reindents w line line

theorem indent_append (spaces : w.all isIndent = true) (line : List Char) :
    indent (w ++ line) = w ++ indent line :=
  List.takeWhile_append_of_pos (List.all_eq_true.mp spaces)

theorem indents_cons (line : List Char) (ls : List (List Char)) :
    indents (line :: ls) = if isBlankLine line then indents ls else indent line :: indents ls := by
  cases blank : isBlankLine line <;> simp [indents, blank]

theorem indents_of_reindents (spaces : w.all isIndent = true)
    (moves : List.Forall₂ (Reindents w) ls ls') : indents ls' = (indents ls).map (w ++ ·) := by
  induction moves with
  | nil => rfl
  | cons here _ ih =>
      rw [indents_cons, indents_cons]
      cases here with
      | filled filled =>
          rw [isBlankLine_indent_append spaces, filled, indent_append spaces, ih]
          rfl
      | spaces line' before after =>
          rw [isBlankLine_of_indent before, isBlankLine_of_indent after, if_pos rfl, if_pos rfl, ih]
      | blank blank other => rw [blank, if_pos rfl, if_pos rfl, ih]

/-- Moving lines to the right moves their margin. -/
theorem margin_of_reindents (spaces : w.all isIndent = true)
    (moves : List.Forall₂ (Reindents w) ls ls') (filled : ls.all isBlankLine = false) :
    margin ls' = w ++ margin ls := by
  rw [margin_eq, margin_eq, indents_of_reindents spaces moves]
  cases there : indents ls with
  | nil => cases (indents_eq_nil_iff.mp there).symm.trans filled
  | cons first more => exact foldl_commonPrefix_append w first more

/-- Moving a line to the right does not change what it is without the margin, if the margin
    is moved too. -/
theorem Reindents.stripLine_eq {width width' : Nat} (moves : Reindents w line line')
    (spaces : w.all isIndent = true)
    (moved : isBlankLine line = false → width' = w.length + width) :
    stripLine width' line' = stripLine width line := by
  cases moves with
  | filled filled =>
      have there := (isBlankLine_indent_append spaces line).trans filled
      rw [stripLine_filled _ there, stripLine_filled _ filled, moved filled, List.drop_append,
        List.drop_of_length_le (by omega), Nat.add_sub_cancel_left, List.nil_append]
  | spaces line' before after => rw [stripLine_spaces _ before, stripLine_spaces _ after]
  | blank blank other => rw [stripLine_blank _ blank other, stripLine_blank _ blank other]

theorem map_stripLine_of_reindents (spaces : w.all isIndent = true)
    (moves : List.Forall₂ (Reindents w) ls ls') :
    ls'.map (stripLine (margin ls').length) = ls.map (stripLine (margin ls).length) := by
  have moved : ∀ line ∈ ls, isBlankLine line = false →
      (margin ls').length = w.length + (margin ls).length := by
    intro line mem filled
    have some : ls.all isBlankLine = false := List.all_eq_false.mpr ⟨line, mem, by simp [filled]⟩
    rw [margin_of_reindents spaces moves some, List.length_append]
  generalize (margin ls').length = width' at moved ⊢
  generalize (margin ls).length = width at moved ⊢
  induction moves with
  | nil => rfl
  | cons here _ ih =>
      rcases List.forall_mem_cons.mp moved with ⟨first, more⟩
      rw [List.map_cons, List.map_cons, here.stripLine_eq spaces first, ih more]

theorem Reindents.bare (moves : Reindents w line line') (spaces : w.all isIndent = true)
    (bare : '\n' ∉ line) : '\n' ∉ line' := by
  have none {cs : List Char} (spaces : cs.all isIndent = true) : '\n' ∉ cs := fun there =>
    nomatch List.all_eq_true.mp spaces _ there
  cases moves with
  | filled filled =>
      rw [List.mem_append, not_or]
      exact ⟨none spaces, bare⟩
  | spaces line' before after => exact none after
  | blank blank other => exact bare

theorem lines_unlines_of_reindents (spaces : w.all isIndent = true)
    (moves : List.Forall₂ (Reindents w) (lines cs) ls') : lines (unlines ls') = ls' := by
  have some : ls' ≠ [] := by
    rintro rfl
    exact lines_ne_nil cs (List.forall₂_nil_right_iff.mp moves)
  have bare : ∀ line ∈ lines cs, '\n' ∉ line := fun line => bare_of_mem_lines
  refine lines_unlines some ?_
  generalize lines cs = ls at moves bare
  clear some
  induction moves with
  | nil => exact fun line => nofun
  | cons here _ ih =>
      rcases List.forall_mem_cons.mp bare with ⟨first, more⟩
      exact List.forall_mem_cons.mpr ⟨here.bare spaces first, ih more⟩

/-- Texts that are indented differently come out alike: a text that has come out already, and
    one that is moved to the right, with any spaces and tabs on lines of nothing else. -/
theorem dedent_sees_through_indentation (text : String) :
    dedent (dedent text) = dedent text
      ∧ ∀ (w : List Char) (ls : List (List Char)), w.all isIndent = true →
        List.Forall₂ (Reindents w) (text.toList.splitOn '\n') ls →
          dedent (String.ofList (['\n'].intercalate ls)) = dedent text := by
  constructor
  · have level := isLevel_dedentChars text.toList
    rw [dedent, dedent, String.toList_ofList, dedentChars_eq_self_iff.mpr level]
  · intro w ls spaces moves
    rw [← lines_eq_splitOn] at moves
    change dedent (String.ofList (unlines ls)) = dedent text
    rw [dedent, dedent, String.toList_ofList, dedentChars, dedentChars,
      lines_unlines_of_reindents spaces moves, map_stripLine_of_reindents spaces moves]

/-- A list moved by a tab and a space, with other whitespace on the line that has only that. -/
theorem dedent_sees_through_indentation_of_list :
    let line (text : String) : List Char := text.toList
    let before : List (List Char) := [line "  a", [], line "\u00a0", line "   b"]
    let after : List (List Char) := [line "\t   a", line " \t", line "\u00a0", line "\t    b"]
    "  a\n\n\u00a0\n   b".toList.splitOn '\n' = before
      ∧ List.Forall₂ (Reindents (line "\t ")) before after
      ∧ dedent (String.ofList (['\n'].intercalate after)) = "a\n\n\u00a0\n b" := by
  intro line before after
  have cut : "  a\n\n\u00a0\n   b".toList.splitOn '\n' = before := by decide +kernel
  have moves : List.Forall₂ (Reindents (line "\t ")) before after :=
    .cons (.filled (by decide +kernel)) <|
      .cons (.spaces _ (by decide +kernel) (by decide +kernel)) <|
        .cons (.blank (by decide +kernel) (by decide +kernel)) <|
          .cons (.filled (by decide +kernel)) .nil
  refine ⟨cut, moves, ?_⟩
  have alike := (dedent_sees_through_indentation "  a\n\n\u00a0\n   b").2 (line "\t ") after
    (by decide +kernel) (cut ▸ moves)
  exact alike.trans (by decide +kernel)

end Stencil
