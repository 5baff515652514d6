import Mathlib.Data.List.Forall2
import Stencil.Proofs.Lines

/-!
# The Margin of a Text

The margin is worked out two lines at a time, by what the indentation of the next line
has in common with what is left of the others. What comes out is the longest run of
spaces and tabs that all lines with something on them start with. The order of the lines
does not matter to that, and so not to the result either.

Only the length of the margin is used to take it away. Each line that is cut starts with
the margin, so what the length cuts off is the margin and nothing else.

There are three kinds of whitespace here. Spaces and tabs are what a margin consists of
and what is cleared from a line without anything else. A line of any whitespace has no
say in the margin. And whitespace, line feeds included, is trimmed from the ends. Each is
contained in the next, so at no point anything is lost that is not whitespace.

## Main definitions

* `IsMargin`: The longest indentation that lines share.
* `LosesMargin`: What is left of a line without the margin.

## Theorems

* `prefix_margin_iff`: What starts the margin starts all lines.
* `IsMargin.unique`: Lines have one margin, whatever their order.
* `dedent_removes_margin`: The text without its margin.
-/

namespace Stencil

variable {a b m p line line' : List Char} {ls ls' : List (List Char)}

/-! ### Indentation -/

theorem isBlank_of_isIndent {c : Char} (indents : isIndent c = true) : isBlank c = true := by
  rcases Bool.or_eq_true_iff.mp indents with space | tab
  · rw [beq_iff_eq.mp space]
    rfl
  · rw [beq_iff_eq.mp tab]
    rfl

theorem isBlankLine_of_indent (spaces : line.all isIndent = true) : isBlankLine line = true :=
  List.all_eq_true.mpr fun c there => isBlank_of_isIndent (List.all_eq_true.mp spaces c there)

theorem isBlankLine_indent_append (spaces : m.all isIndent = true) (line : List Char) :
    isBlankLine (m ++ line) = isBlankLine line := by
  have blank : m.all isBlank = true := isBlankLine_of_indent spaces
  rw [isBlankLine, List.all_append, blank, Bool.true_and, isBlankLine]

theorem prefix_indent_iff : p <+: indent line ↔ p.all isIndent = true ∧ p <+: line := by
  constructor
  · intro starts
    refine ⟨List.all_eq_true.mpr fun c there => ?_, starts.trans (List.takeWhile_prefix _)⟩
    exact List.mem_takeWhile_imp (starts.mem there)
  · rintro ⟨spaces, rest, rfl⟩
    rw [indent, List.takeWhile_append_of_pos (List.all_eq_true.mp spaces)]
    exact List.prefix_append _ _

/-- What starts two texts starts what they have in common. -/
theorem prefix_commonPrefix_iff : p <+: commonPrefix a b ↔ p <+: a ∧ p <+: b := by
  fun_induction commonPrefix a b generalizing p with
  | case1 c as bs ih =>
      cases p with
      | nil => simp
      | cons d p =>
          rw [List.cons_prefix_cons, List.cons_prefix_cons, List.cons_prefix_cons, ih]
          exact and_and_left
  | case2 c as d bs other =>
      cases p with
      | nil => simp
      | cons e p =>
          rw [List.prefix_nil, List.cons_prefix_cons, List.cons_prefix_cons]
          constructor
          · intro none
            cases none
          · rintro ⟨⟨rfl, -⟩, ⟨rfl, -⟩⟩
            exact absurd rfl other
  | case3 a b short =>
      -- One of the texts is empty, and nothing but the empty text starts that.
      rw [List.prefix_nil]
      constructor
      · rintro rfl
        exact ⟨List.nil_prefix, List.nil_prefix⟩
      · rintro ⟨⟨as, rfl⟩, ⟨bs, both⟩⟩
        cases p with
        | nil => rfl
        | cons e p => exact (short _ _ _ _ rfl both.symm).elim

theorem prefix_foldl_iff :
    p <+: ls.foldl commonPrefix a ↔ p <+: a ∧ ∀ line ∈ ls, p <+: line := by
  induction ls generalizing a with
  | nil => simp
  | cons line ls ih =>
      rw [List.foldl_cons, ih, prefix_commonPrefix_iff, List.forall_mem_cons, and_assoc]

/-! ### The margin -/

/-- The indentations of the lines that are not blank. -/
def indents (ls : List (List Char)) : List (List Char) :=
  (ls.filter fun line => !isBlankLine line).map indent

theorem margin_eq : margin ls = match indents ls with
    | [] => []
    | first :: more => more.foldl commonPrefix first :=
  rfl

theorem forall_mem_indents {P : List Char → Prop} :
    (∀ i ∈ indents ls, P i) ↔ ∀ line ∈ ls, isBlankLine line = false → P (indent line) := by
  simp only [indents, List.forall_mem_map, List.mem_filter, Bool.not_eq_true', and_imp]

theorem indents_eq_nil_iff : indents ls = [] ↔ ls.all isBlankLine = true := by
  rw [indents, List.map_eq_nil_iff, List.filter_eq_nil_iff, List.all_eq_true]
  simp only [Bool.not_eq_true', Bool.not_eq_false]

theorem margin_of_blank (blank : ls.all isBlankLine = true) : margin ls = [] := by
  rw [margin_eq, indents_eq_nil_iff.mpr blank]

/-- What starts the margin starts all lines that are not blank, and the other way round. -/
theorem prefix_margin_iff (filled : ls.all isBlankLine = false) :
    p <+: margin ls ↔
      p.all isIndent = true ∧ ∀ line ∈ ls, isBlankLine line = false → p <+: line := by
  have start : p <+: margin ls ↔ ∀ i ∈ indents ls, p <+: i := by
    rw [margin_eq]
    cases there : indents ls with
    | nil => rw [indents_eq_nil_iff.mp there] at filled; cases filled
    | cons first more => rw [prefix_foldl_iff, List.forall_mem_cons]
  rw [start, forall_mem_indents]
  simp only [prefix_indent_iff]
  constructor
  · intro starts
    rcases List.all_eq_false.mp filled with ⟨line, mem, here⟩
    exact ⟨(starts line mem (by simpa using here)).1, fun line mem here => (starts line mem here).2⟩
  · rintro ⟨spaces, starts⟩ line mem here
    exact ⟨spaces, starts line mem here⟩

/-- The longest run of spaces and tabs that all lines start with, except for blank ones. It is
    empty if there are no other lines. -/
structure IsMargin (ls : List (List Char)) (m : List Char) : Prop where
  spaces : m.all isIndent = true
  shared : ∀ line ∈ ls, isBlankLine line = false → m <+: line
  longest : ls.all isBlankLine = false → ∀ p : List Char, p.all isIndent = true →
    (∀ line ∈ ls, isBlankLine line = false → p <+: line) → p.length ≤ m.length
  none : ls.all isBlankLine = true → m = []

theorem isMargin_margin (ls : List (List Char)) : IsMargin ls (margin ls) := by
  cases filled : ls.all isBlankLine with
  | true =>
      rw [margin_of_blank filled]
      exact ⟨rfl, fun _ _ _ => List.nil_prefix, fun some => (nomatch filled.symm.trans some),
        fun _ => rfl⟩
  | false =>
      rcases (prefix_margin_iff filled).mp (List.prefix_refl _) with ⟨spaces, shared⟩
      refine ⟨spaces, shared, fun _ p spaces starts => ?_, fun none =>
        (nomatch filled.symm.trans none)⟩
      exact ((prefix_margin_iff filled).mpr ⟨spaces, starts⟩).length_le

/-- Lines have one margin, whatever their order. -/
theorem IsMargin.unique {m' : List Char} (isMargin : IsMargin ls m) (other : IsMargin ls' m')
    (same : ∀ line, line ∈ ls ↔ line ∈ ls') : m = m' := by
  have blank : ls'.all isBlankLine = ls.all isBlankLine := by
    rw [Bool.eq_iff_iff, List.all_eq_true, List.all_eq_true]
    simp only [same]
  cases filled : ls.all isBlankLine with
  | true => rw [isMargin.none filled, other.none (blank.trans filled)]
  | false =>
      rcases List.all_eq_false.mp filled with ⟨line, mem, here⟩
      have here : isBlankLine line = false := by simpa using here
      have short := isMargin.longest filled m' other.spaces fun line mem =>
        other.shared line ((same line).mp mem)
      have long := other.longest (blank.trans filled) m isMargin.spaces fun line mem =>
        isMargin.shared line ((same line).mpr mem)
      -- Both start the same line, and so the longer one of them starts with the other.
      exact (List.prefix_of_prefix_length_le (isMargin.shared line mem here)
        (other.shared line ((same line).mp mem) here) long).eq_of_length (by omega)

theorem margin_of_perm (order : ls'.Perm ls) : margin ls' = margin ls :=
  (isMargin_margin ls').unique (isMargin_margin ls) fun _ => order.mem_iff

/-! ### Lines without the margin -/

theorem stripLine_filled (width : Nat) (filled : isBlankLine line = false) :
    stripLine width line = line.drop width := by
  rw [stripLine, filled]
  rfl

theorem stripLine_spaces (width : Nat) (spaces : line.all isIndent = true) :
    stripLine width line = [] := by
  rw [stripLine, isBlankLine_of_indent spaces, spaces]
  rfl

theorem stripLine_blank (width : Nat) (blank : isBlankLine line = true)
    (other : line.all isIndent = false) : stripLine width line = line := by
  rw [stripLine, blank, other]
  rfl

/-- What a line is without the margin. -/
inductive LosesMargin (m : List Char) : List Char → List Char → Prop
  | filled (line : List Char) (filled : isBlankLine (m ++ line) = false) :
      LosesMargin m (m ++ line) line
  | spaces (line : List Char) (spaces : line.all isIndent = true) : LosesMargin m line []
  | blank (line : List Char) (blank : isBlankLine line = true)
      (other : line.all isIndent = false) : LosesMargin m line line

theorem losesMargin_stripLine (shared : isBlankLine line = false → m <+: line) :
    LosesMargin m line (stripLine m.length line) := by
  cases blank : isBlankLine line with
  | false =>
      rcases shared blank with ⟨rest, rfl⟩
      rw [stripLine_filled _ blank, List.drop_left]
      exact .filled rest blank
  | true =>
      cases spaces : line.all isIndent with
      | true =>
          rw [stripLine_spaces _ spaces]
          exact .spaces line spaces
      | false =>
          rw [stripLine_blank _ blank spaces]
          exact .blank line blank spaces

theorem losesMargin_of_mem (mem : line ∈ ls) :
    LosesMargin (margin ls) line (stripLine (margin ls).length line) :=
  losesMargin_stripLine ((isMargin_margin ls).shared line mem)

namespace LosesMargin

variable (loses : LosesMargin m line line')
include loses

theorem bare (bare : '\n' ∉ line) : '\n' ∉ line' := by
  cases loses with
  | filled line filled => exact fun there => bare (List.mem_append_right m there)
  | spaces line spaces => exact List.not_mem_nil
  | blank line blank other => exact bare

theorem isBlankLine_eq (spaces : m.all isIndent = true) :
    isBlankLine line' = isBlankLine line := by
  cases loses with
  | filled line filled => exact (isBlankLine_indent_append spaces line').symm
  | spaces line spaces =>
      rw [isBlankLine_of_indent spaces]
      rfl
  | blank line blank other => rfl

/-- No line of spaces and tabs is left but empty ones. -/
theorem cleared (spaces : m.all isIndent = true) (indent : line'.all isIndent = true) :
    line' = [] := by
  have blank := loses.isBlankLine_eq spaces
  rw [isBlankLine_of_indent indent] at blank
  cases loses with
  | filled line filled => cases blank.trans filled
  | spaces line spaces => rfl
  | blank line blank other => cases indent.symm.trans other

end LosesMargin

/-! ### What is not whitespace -/

/-- The characters of a text that are not whitespace. -/
def ink (cs : List Char) : List Char :=
  cs.filter fun c => !isBlank c

theorem ink_append (a b : List Char) : ink (a ++ b) = ink a ++ ink b :=
  List.filter_append ..

theorem ink_blank (blank : a.all isBlank = true) : ink a = [] :=
  List.filter_eq_nil_iff.mpr fun c there => by simp [List.all_eq_true.mp blank c there]

theorem ink_trim (cs : List Char) : ink (trim cs) = ink cs := by
  rcases trim_parts cs with ⟨-, a, b, left, right, parts⟩
  calc ink (trim cs) = ink a ++ (ink (trim cs) ++ ink b) := by
        rw [ink_blank left, ink_blank right, List.nil_append, List.append_nil]
    _ = ink (a ++ (trim cs ++ b)) := by rw [ink_append, ink_append]
    _ = ink cs := by rw [← parts]

theorem ink_unlines (ls : List (List Char)) : ink (unlines ls) = ls.flatMap ink := by
  induction ls with
  | nil => rfl
  | cons line ls ih =>
      cases ls with
      | nil => rw [unlines_singleton, List.flatMap_singleton]
      | cons next ls =>
          rw [unlines_cons line (List.cons_ne_nil _ _), List.append_cons, ink_append, ih,
            ink_append, ink_blank (a := ['\n']) rfl, List.append_nil]
          rfl

/-- A line without the margin has lost spaces and tabs only. -/
theorem LosesMargin.ink_eq (loses : LosesMargin m line line') (spaces : m.all isIndent = true) :
    ink line' = ink line := by
  cases loses with
  | filled line filled => rw [ink_append, ink_blank (isBlankLine_of_indent spaces), List.nil_append]
  | spaces line spaces =>
      rw [ink_blank (isBlankLine_of_indent spaces)]
      rfl
  | blank line blank other => rfl

theorem ink_flatMap (spaces : m.all isIndent = true)
    (loses : List.Forall₂ (LosesMargin m) ls ls') : ls'.flatMap ink = ls.flatMap ink := by
  induction loses with
  | nil => rfl
  | cons here _ ih => rw [List.flatMap_cons, List.flatMap_cons, ih, here.ink_eq spaces]

/-- The text is trimmed after each of its lines has lost the margin and lines of spaces and
    tabs have become empty. The margin is the only longest indentation that the lines share,
    in whichever order they are put together, and nothing is lost but whitespace. -/
theorem dedent_removes_margin (text : String) :
    let ls := text.toList.splitOn '\n'
    (IsMargin ls (margin ls) ∧ ∀ m, IsMargin ls m → m = margin ls)
      ∧ (∃ ls', List.Forall₂ (LosesMargin (margin ls)) ls ls'
        ∧ dedent text = String.ofList (trim (['\n'].intercalate ls')))
      ∧ ink (dedent text).toList = ink text.toList
      ∧ ∀ ls', ls'.Perm ls → margin ls' = margin ls := by
  intro ls
  have cut : lines text.toList = ls := lines_eq_splitOn _
  have isMargin := isMargin_margin ls
  have loses : List.Forall₂ (LosesMargin (margin ls)) ls (ls.map (stripLine (margin ls).length)) :=
    List.forall₂_map_right_iff.mpr (List.forall₂_same.mpr fun _ => losesMargin_of_mem)
  have result : dedent text
      = String.ofList (trim (unlines (ls.map (stripLine (margin ls).length)))) := by
    rw [dedent, dedentChars, cut]
  refine ⟨⟨isMargin, fun m other => other.unique isMargin fun _ => Iff.rfl⟩, ⟨_, loses, result⟩,
    ?_, fun ls' => margin_of_perm⟩
  rw [result, String.toList_ofList, ink_trim, ink_unlines, ink_flatMap isMargin.spaces loses,
    ← ink_unlines, ← cut, unlines_lines]

end Stencil
