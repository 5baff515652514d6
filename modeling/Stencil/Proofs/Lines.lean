import Mathlib.Data.List.DropRight
import Stencil.Margin

/-!
# Lines and Trimmed Text

What trimming does to the lines of a text.

A text is its lines with line feeds in between, and cutting it there is the only way to
get lines that have no line feeds of their own. Trimming does not look at lines: it
takes whitespace from both ends, line feeds like any other. So it takes away all blank
lines at the ends and a part of the first and the last line that are not blank, and
leaves what is in between. A blank line is still there afterwards exactly if it is an
inner one, with something on a line before it and on a line after it.

Empty lines are left out of that statement because of one text: what remains of
whitespace alone is empty, and that has an empty line.

The same happens twice, to the characters of a text and to its lines, so cutting a list
down to what is between the first and the last element that matters is stated for lists
of anything.

## Main definitions

* `IsTrimmed`: Lists that start and end with an element that matters.
* `IsInner`: Lines between others that are not blank.

## Theorems

* `exists_trimmed`: Every list is a trimmed one between elements that do not matter.
* `trim_eq_iff`: Trimming gives what is trimmed between whitespace.
* `lines_eq_splitOn`: The lines of a text are what is between its line feeds.
* `mem_lines_trim_iff`: Which blank lines a trimmed text has.
* `trim_unlines_congr`: Only the inner ones of the blank lines matter to a trimmed text.
-/

namespace Stencil

/-! ### Lists between elements that do not matter -/

section

variable {α : Type} {p : α → Bool} {a b : List α}

/-- A list that neither starts nor ends with an element that is left out. -/
structure IsTrimmed (p : α → Bool) (l : List α) : Prop where
  first : ∀ x ∈ l.head?, p x = false
  last : ∀ x ∈ l.getLast?, p x = false

theorem IsTrimmed.left (trimmed : IsTrimmed p (a ++ b)) (filled : a ≠ []) : a.all p = false := by
  cases a with
  | nil => exact absurd rfl filled
  | cons x a => rw [List.all_cons, trimmed.first x rfl, Bool.false_and]

theorem IsTrimmed.right (trimmed : IsTrimmed p (a ++ b)) (filled : b ≠ []) :
    b.all p = false := by
  have last := trimmed.last (b.getLast filled)
    (by rw [List.getLast?_append_of_ne_nil a filled, List.getLast?_eq_some_getLast filled]; rfl)
  exact List.all_eq_false.mpr ⟨_, List.getLast_mem filled, by simp [last]⟩

/-- Every list is a trimmed one between elements that are left out. -/
theorem exists_trimmed (p : α → Bool) (l : List α) :
    ∃ a core b, l = a ++ (core ++ b) ∧ a.all p = true ∧ b.all p = true ∧ IsTrimmed p core := by
  have parts : (l.dropWhile p).rdropWhile p ++ (l.dropWhile p).rtakeWhile p = l.dropWhile p :=
    List.rdropWhile_append_rtakeWhile
  refine ⟨l.takeWhile p, (l.dropWhile p).rdropWhile p, (l.dropWhile p).rtakeWhile p, ?_, ?_, ?_,
    ?_, ?_⟩
  · rw [parts, List.takeWhile_append_dropWhile]
  · exact List.all_eq_true.mpr fun x there => List.mem_takeWhile_imp there
  · exact List.all_eq_true.mpr fun x there => List.mem_rtakeWhile_imp there
  · intro x there
    -- What is cut off at the end does not change where the rest starts.
    have starts : (l.dropWhile p).head? = some x := by
      rw [← parts, List.head?_append, there]
      rfl
    have stops := List.head?_dropWhile_not p l
    rw [starts] at stops
    exact stops
  · intro x there
    have stops := List.head?_dropWhile_not p (l.dropWhile p).reverse
    rw [List.rdropWhile, List.getLast?_reverse] at there
    rw [there] at stops
    exact stops

end

variable {a b cs line : List Char} {ls : List (List Char)}

/-! ### Whitespace at the ends of a text -/

theorem trimStart_append (a b : List Char) :
    trimStart (a ++ b) = if a.all isBlank then trimStart b else trimStart a ++ b := by
  have blank : (a.dropWhile isBlank).isEmpty = a.all isBlank := by
    rw [Bool.eq_iff_iff, List.isEmpty_iff, List.dropWhile_eq_nil_iff, List.all_eq_true]
  rw [trimStart, List.dropWhile_append, blank]
  rfl

theorem trimEnd_append (a b : List Char) :
    trimEnd (a ++ b) = if b.all isBlank then trimEnd a else a ++ trimEnd b := by
  rw [trimEnd, List.reverse_append, trimStart_append, List.all_reverse]
  split
  · rfl
  · rw [List.reverse_append, List.reverse_reverse]
    rfl

theorem trimStart_eq_nil (blank : a.all isBlank = true) : trimStart a = [] :=
  List.dropWhile_eq_nil_iff.mpr (List.all_eq_true.mp blank)

theorem trim_blank_append (blank : a.all isBlank = true) : trim (a ++ b) = trim b := by
  rw [trim, trimStart_append, if_pos blank, trim]

theorem trim_append_blank (blank : b.all isBlank = true) : trim (a ++ b) = trim a := by
  rw [trim, trimStart_append, trim]
  split
  · next all => rw [trimStart_eq_nil blank, trimStart_eq_nil all]
  · rw [trimEnd_append, if_pos blank]

theorem trim_eq_nil (blank : a.all isBlank = true) : trim a = [] := by
  rw [trim, trimStart_eq_nil blank]
  rfl

/-- Trimming does not reach beyond what is not blank. -/
theorem trim_between (before : a.all isBlank = false) (after : b.all isBlank = false)
    (cs : List Char) : trim (a ++ (cs ++ b)) = trimStart a ++ (cs ++ trimEnd b) := by
  rw [trim, trimStart_append, if_neg (by simp [before]), ← List.append_assoc, trimEnd_append,
    if_neg (by simp [after]), List.append_assoc]

theorem IsTrimmed.trim_eq (trimmed : IsTrimmed isBlank cs) : trim cs = cs := by
  have start : trimStart cs = cs := by
    cases cs with
    | nil => rfl
    | cons c cs => exact List.dropWhile_cons_of_neg (by simp [trimmed.first c rfl])
  rw [trim, start]
  refine List.rdropWhile_eq_self_iff.mpr fun filled => ?_
  rw [trimmed.last _ (List.getLast?_eq_some_getLast filled)]
  exact Bool.false_ne_true

/-- Trimming gives what is trimmed between whitespace. -/
theorem trim_eq_iff {core : List Char} :
    trim cs = core ↔ IsTrimmed isBlank core
      ∧ ∃ a b, a.all isBlank = true ∧ b.all isBlank = true ∧ cs = a ++ (core ++ b) := by
  have between {a b core : List Char} (left : a.all isBlank = true) (right : b.all isBlank = true)
      (trimmed : IsTrimmed isBlank core) : trim (a ++ (core ++ b)) = core := by
    rw [trim_blank_append left, trim_append_blank right, trimmed.trim_eq]
  constructor
  · rintro rfl
    rcases exists_trimmed isBlank cs with ⟨a, core, b, parts, left, right, trimmed⟩
    rw [parts, between left right trimmed]
    exact ⟨trimmed, a, b, left, right, rfl⟩
  · rintro ⟨trimmed, a, b, left, right, rfl⟩
    exact between left right trimmed

/-- Trimming takes whitespace from both ends and leaves none there. -/
theorem trim_parts (cs : List Char) : IsTrimmed isBlank (trim cs)
    ∧ ∃ a b, a.all isBlank = true ∧ b.all isBlank = true ∧ cs = a ++ (trim cs ++ b) :=
  trim_eq_iff.mp rfl

/-! ### Lines -/

/-- The lines of a text are what is between its line feeds. -/
theorem lines_eq_splitOn (cs : List Char) : lines cs = cs.splitOn '\n' := by
  induction cs with
  | nil => rfl
  | cons c cs ih =>
      rw [List.splitOn_cons_eq_if_modifyHead, lines, ih]
      simp only [beq_iff_eq]
      split
      · rfl
      · cases split : cs.splitOn '\n' with
        | nil => exact absurd split (List.splitOn_ne_nil _ _)
        | cons line more => rfl

theorem unlines_lines (cs : List Char) : unlines (lines cs) = cs := by
  rw [lines_eq_splitOn]
  exact List.intercalate_splitOn '\n'

theorem lines_unlines (filled : ls ≠ []) (bare : ∀ line ∈ ls, '\n' ∉ line) :
    lines (unlines ls) = ls := by
  rw [lines_eq_splitOn]
  exact List.splitOn_intercalate '\n' bare filled

theorem lines_ne_nil (cs : List Char) : lines cs ≠ [] := by
  rw [lines_eq_splitOn]
  exact List.splitOn_ne_nil _ _

theorem exists_lines_cons {c : Char} (other : c ≠ '\n') (cs : List Char) :
    ∃ line more, lines cs = line :: more ∧ lines (c :: cs) = (c :: line) :: more := by
  rcases List.exists_cons_of_ne_nil (lines_ne_nil cs) with ⟨line, more, cut⟩
  exact ⟨line, more, cut, by rw [lines, if_neg other, cut]⟩

theorem bare_of_mem_lines (mem : line ∈ lines cs) : '\n' ∉ line := by
  fun_induction lines cs generalizing line with
  | case1 => simp_all
  | case2 cs ih =>
      rcases List.mem_cons.mp mem with rfl | mem
      · exact List.not_mem_nil
      · exact ih mem
  | case3 c cs other none ih => exact absurd none (lines_ne_nil cs)
  | case4 c cs other first more cut ih =>
      rw [cut] at ih
      rcases List.mem_cons.mp mem with rfl | mem
      · intro there
        rcases List.mem_cons.mp there with same | there
        · exact other same.symm
        · exact ih (List.mem_cons_self ..) there
      · exact ih (List.mem_cons_of_mem _ mem)

theorem unlines_singleton (line : List Char) : unlines [line] = line :=
  List.intercalate_singleton

theorem unlines_cons (line : List Char) (filled : ls ≠ []) :
    unlines (line :: ls) = line ++ '\n' :: unlines ls := by
  rw [unlines, List.intercalate_cons_of_ne_nil filled, List.append_assoc]
  rfl

theorem unlines_append {as bs : List (List Char)} (left : as ≠ []) (right : bs ≠ []) :
    unlines (as ++ bs) = unlines as ++ '\n' :: unlines bs := by
  induction as with
  | nil => exact absurd rfl left
  | cons line as ih =>
      cases as with
      | nil => rw [List.singleton_append, unlines_cons line right, unlines_singleton]
      | cons next as =>
          rw [List.cons_append, unlines_cons line (by simp), ih (by simp),
            unlines_cons line (by simp), List.append_assoc, List.cons_append]

theorem exists_unlines_left {as : List (List Char)} (filled : as ≠ []) (bs : List (List Char)) :
    ∃ rest, unlines (as ++ bs) = unlines as ++ rest := by
  cases bs with
  | nil => exact ⟨[], by rw [List.append_nil, List.append_nil]⟩
  | cons line bs => exact ⟨_, unlines_append filled (List.cons_ne_nil _ _)⟩

theorem exists_unlines_right (as : List (List Char)) {bs : List (List Char)} (filled : bs ≠ []) :
    ∃ rest, unlines (as ++ bs) = rest ++ unlines bs := by
  cases as with
  | nil => exact ⟨[], rfl⟩
  | cons line as =>
      refine ⟨unlines (line :: as) ++ ['\n'], ?_⟩
      rw [unlines_append (List.cons_ne_nil _ _) filled, List.append_assoc, List.singleton_append]

/-- A text is cut where a line of it starts and where it ends. -/
theorem unlines_around {before after : List (List Char)} (left : before ≠ []) (right : after ≠ []) :
    unlines (before ++ line :: after)
      = unlines before ++ (('\n' :: line ++ ['\n']) ++ unlines after) := by
  rw [unlines_append left (List.cons_ne_nil _ _), unlines_cons line right]
  simp only [List.cons_append, List.append_assoc, List.nil_append]

theorem lines_around (bare : '\n' ∉ line) (a b : List Char) :
    lines (a ++ (('\n' :: line ++ ['\n']) ++ b)) = lines a ++ line :: lines b := by
  have parts : a ++ (('\n' :: line ++ ['\n']) ++ b) = a ++ '\n' :: (line ++ '\n' :: b) := by
    simp only [List.cons_append, List.append_assoc, List.nil_append]
  simp only [parts, lines_eq_splitOn, List.splitOn_append_cons_self,
    List.splitOn_eq_singleton bare, List.singleton_append]

/-! ### Blank lines -/

/-- A text is blank if all of its lines are. -/
theorem all_unlines (ls : List (List Char)) :
    (unlines ls).all isBlank = ls.all isBlankLine := by
  induction ls with
  | nil => rfl
  | cons line ls ih =>
      cases ls with
      | nil => rw [unlines_singleton, List.all_cons, List.all_nil, Bool.and_true, isBlankLine]
      | cons next ls =>
          rw [unlines_cons line (List.cons_ne_nil _ _), List.all_append, List.all_cons, ih,
            List.all_cons, isBlankLine]
          rfl

theorem all_lines (cs : List Char) : (lines cs).all isBlankLine = cs.all isBlank := by
  rw [← all_unlines, unlines_lines]

/-- Blank lines at the ends are trimmed. -/
theorem trim_unlines_core {as core bs : List (List Char)} (left : as.all isBlankLine = true)
    (right : bs.all isBlankLine = true) :
    trim (unlines (as ++ (core ++ bs))) = trim (unlines core) := by
  by_cases none : core = []
  · have blank : (unlines (as ++ (core ++ bs))).all isBlank = true := by
      rw [all_unlines, none, List.nil_append, List.all_append, left, right, Bool.and_self]
    rw [trim_eq_nil blank, none]
    rfl
  have before : trim (unlines (as ++ (core ++ bs))) = trim (unlines (core ++ bs)) := by
    cases as with
    | nil => rfl
    | cons line as =>
        have blank : (unlines (line :: as) ++ ['\n']).all isBlank = true := by
          rw [List.all_append, all_unlines, left]
          rfl
        rw [unlines_append (List.cons_ne_nil _ _) (List.append_ne_nil_of_left_ne_nil none _),
          List.append_cons, trim_blank_append blank]
  have after : trim (unlines (core ++ bs)) = trim (unlines core) := by
    cases bs with
    | nil => rw [List.append_nil]
    | cons line bs =>
        have blank : ('\n' :: unlines (line :: bs)).all isBlank = true := by
          rw [List.all_cons, all_unlines, right]
          rfl
        rw [unlines_append none (List.cons_ne_nil _ _), trim_append_blank blank]
  rw [before, after]

/-- A line with something on a line before it and on a line after it. -/
def IsInner (line : List Char) (ls : List (List Char)) : Prop :=
  ∃ before after, ls = before ++ line :: after
    ∧ before.all isBlankLine = false ∧ after.all isBlankLine = false

theorem ne_nil_of_filled (filled : ls.all isBlankLine = false) : ls ≠ [] := by
  rintro rfl
  cases filled

theorem IsInner.mem (inner : IsInner line ls) : line ∈ ls := by
  rcases inner with ⟨before, after, rfl, -, -⟩
  exact List.mem_append_right _ (List.mem_cons_self ..)

/-- Lines that change without becoming blank or ceasing to be so. -/
theorem all_map_blank {f : List Char → List Char}
    (same : ∀ line ∈ ls, isBlankLine (f line) = isBlankLine line) :
    (ls.map f).all isBlankLine = ls.all isBlankLine := by
  induction ls with
  | nil => rfl
  | cons line ls ih =>
      rcases List.forall_mem_cons.mp same with ⟨here, there⟩
      rw [List.map_cons, List.all_cons, List.all_cons, here, ih there]

theorem IsInner.map {f : List Char → List Char} (inner : IsInner line ls)
    (same : ∀ line ∈ ls, isBlankLine (f line) = isBlankLine line) :
    IsInner (f line) (ls.map f) := by
  rcases inner with ⟨before, after, rfl, left, right⟩
  refine ⟨before.map f, after.map f, by rw [List.map_append, List.map_cons], ?_, ?_⟩
  · rw [all_map_blank fun line mem => same line (by simp [mem]), left]
  · rw [all_map_blank fun line mem => same line (by simp [mem]), right]

/-- A blank line among lines that are trimmed is an inner one. -/
theorem IsTrimmed.isInner {as bs core : List (List Char)} (trimmed : IsTrimmed isBlankLine core)
    (mem : line ∈ core) (blank : isBlankLine line = true) : IsInner line (as ++ (core ++ bs)) := by
  rcases List.append_of_mem mem with ⟨before, after, rfl⟩
  have right := trimmed.right (List.cons_ne_nil _ _)
  rw [List.append_cons] at trimmed
  have left := trimmed.left (by simp)
  rw [List.all_append, List.all_cons, blank, List.all_nil, Bool.and_self, Bool.and_true] at left
  rw [List.all_cons, blank, Bool.true_and] at right
  refine ⟨as ++ before, after ++ bs, by simp only [List.append_assoc, List.cons_append], ?_, ?_⟩
  · rw [List.all_append, left, Bool.and_false]
  · rw [List.all_append, right, Bool.false_and]

/-- Only the inner ones of the blank lines matter to a trimmed text. -/
theorem trim_unlines_congr {f g : List Char → List Char}
    (blankF : ∀ line ∈ ls, isBlankLine (f line) = isBlankLine line)
    (blankG : ∀ line ∈ ls, isBlankLine (g line) = isBlankLine line)
    (filled : ∀ line ∈ ls, isBlankLine line = false → f line = g line)
    (inner : ∀ line, IsInner line ls → isBlankLine line = true → f line = g line) :
    trim (unlines (ls.map f)) = trim (unlines (ls.map g)) := by
  rcases exists_trimmed isBlankLine ls with ⟨as, core, bs, rfl, left, right, trimmed⟩
  have inside : core.map f = core.map g := by
    refine List.map_congr_left fun line mem => ?_
    cases here : isBlankLine line with
    | false => exact filled line (by simp [mem]) here
    | true => exact inner line (trimmed.isInner mem here) here
  have cut {f : List Char → List Char}
      (same : ∀ line ∈ as ++ (core ++ bs), isBlankLine (f line) = isBlankLine line) :
      trim (unlines ((as ++ (core ++ bs)).map f)) = trim (unlines (core.map f)) := by
    rw [List.map_append, List.map_append]
    exact trim_unlines_core
      ((all_map_blank fun line mem => same line (by simp [mem])).trans left)
      ((all_map_blank fun line mem => same line (by simp [mem])).trans right)
  rw [cut blankF, cut blankG, inside]

/-- An inner line is still there when the text is trimmed. -/
theorem IsInner.mem_lines_trim (inner : IsInner line (lines cs)) : line ∈ lines (trim cs) := by
  have bare : '\n' ∉ line := bare_of_mem_lines inner.mem
  rcases inner with ⟨before, after, cut, left, right⟩
  have whole : cs = unlines (before ++ line :: after) := by rw [← cut, unlines_lines]
  rw [whole, unlines_around (ne_nil_of_filled left) (ne_nil_of_filled right),
    trim_between ((all_unlines _).trans left) ((all_unlines _).trans right), lines_around bare]
  exact List.mem_append_right _ (List.mem_cons_self ..)

/-- An inner line is one of any text around it. -/
theorem IsInner.extend (inner : IsInner line (lines cs)) (a b : List Char) :
    IsInner line (lines (a ++ (cs ++ b))) := by
  have bare : '\n' ∉ line := bare_of_mem_lines inner.mem
  rcases inner with ⟨before, after, cut, left, right⟩
  have whole : cs = unlines (before ++ line :: after) := by rw [← cut, unlines_lines]
  rw [unlines_around (ne_nil_of_filled left) (ne_nil_of_filled right)] at whole
  refine ⟨lines (a ++ unlines before), lines (unlines after ++ b), ?_, ?_, ?_⟩
  · rw [← lines_around bare, whole]
    simp only [List.append_assoc]
  · rw [all_lines, List.all_append, all_unlines, left, Bool.and_false]
  · rw [all_lines, List.all_append, all_unlines, right, Bool.false_and]

/-- A blank line of a trimmed text is an inner one. It is not the whole text, and what is at
    the ends of the text is on other lines. -/
theorem IsTrimmed.isInner_line (trimmed : IsTrimmed isBlank (unlines ls)) (mem : line ∈ ls)
    (blank : isBlankLine line = true) (filled : line ≠ []) : IsInner line ls := by
  rcases List.append_of_mem mem with ⟨before, after, rfl⟩
  refine ⟨before, after, rfl, ?_, ?_⟩
  · rcases exists_unlines_right before (List.cons_ne_nil line []) with ⟨start, ends⟩
    have some : before ++ [line] ≠ [] := by simp
    rcases exists_unlines_left some after with ⟨rest, parts⟩
    rw [List.append_assoc, List.singleton_append] at parts
    have there := IsTrimmed.left (parts ▸ trimmed)
      (by rw [ends, unlines_singleton]; exact List.append_ne_nil_of_right_ne_nil _ filled)
    rw [all_unlines, List.all_append, List.all_cons, blank, List.all_nil, Bool.and_self,
      Bool.and_true] at there
    exact there
  · rcases exists_unlines_left (List.cons_ne_nil line []) after with ⟨rest, starts⟩
    rcases exists_unlines_right before (List.cons_ne_nil line after) with ⟨start, parts⟩
    rw [List.singleton_append, unlines_singleton] at starts
    have there := IsTrimmed.right (parts ▸ trimmed)
      (by rw [starts]; exact List.append_ne_nil_of_left_ne_nil filled _)
    rw [all_unlines, List.all_cons, blank, Bool.true_and] at there
    exact there

/-- A blank line that is not empty is in a trimmed text exactly if it is an inner line. -/
theorem mem_lines_trim_iff (blank : isBlankLine line = true) (filled : line ≠ []) :
    line ∈ lines (trim cs) ↔ IsInner line (lines cs) := by
  refine ⟨fun mem => ?_, IsInner.mem_lines_trim⟩
  rcases trim_parts cs with ⟨trimmed, a, b, -, -, parts⟩
  rw [← unlines_lines (trim cs)] at trimmed
  rw [parts]
  exact (trimmed.isInner_line mem blank filled).extend a b

end Stencil
