import Stencil.Proofs.Cut
import Stencil.Template.Basic

/-!
# The First Malformed Placeholder

Which fault a source is refused for.

A source can hold many malformed placeholders and is refused for one of them.
Where a placeholder is malformed is said here for every position by itself,
from the code units that stand there and behind: a `$` and an opening brace,
and then the first brace of either kind, which decides what is wrong. Nothing
is said of what stands in front. That the fault reported is the one at the
first such position is then a statement about the scan, which never looks
back.

Two things have to be seen. No malformed placeholder begins inside a
well-formed one, because a name contains no `$`; so what the scan jumps over
hides nothing, and every malformed placeholder makes it fail there or earlier
(`scan_fails`). And what stands in front of the place where it fails is a
source of its own that parses (`exists_faulty_of_scan`).

The scan reads characters and positions count code units. `standsAt_iff` is
the passage between the two, and the only place where halves of characters
come up: the characters that matter are single units.

## Main definitions

* `StandsAt`, `BraceAt`, `FirstBrace`: What stands at a position of a source.
* `between`, `onward`: The text between two positions, and from one on.
* `MalformedAt`: A malformed placeholder begins at a position.
* `FirstMalformed`: It is the first one, and what precedes it parses.
* `Faulty`: What makes a placeholder malformed, told from the characters
  behind its opening brace.

## Theorems

* `firstBrace_iff`: The first brace, in characters.
* `malformedAt_iff`: A malformed placeholder, in characters.
* `scan_fails`: A malformed placeholder makes the scan fail there or earlier.
* `exists_faulty_of_scan`: Where the scan fails there is a malformed
  placeholder, behind a source that parses.
* `fails_at_first_malformed`: Parsing fails exactly if a placeholder is
  malformed, and reports the first.
-/

namespace Stencil

/-! ### Positions in a source -/

/-- A character stands at a position of a source. -/
def StandsAt (source : String) (c : Char) (i : Nat) : Prop :=
  (codeUnits source.toList)[i]? = some c.toNat

/-- A brace stands at a position of a source. -/
def BraceAt (source : String) (i : Nat) : Prop :=
  StandsAt source '{' i ∨ StandsAt source '}' i

/-- The first brace from a position on stands at another. -/
structure FirstBrace (source : String) (start j : Nat) : Prop where
  le : start ≤ j
  brace : BraceAt source j
  first : ∀ i, start ≤ i → i < j → ¬ BraceAt source i

/-- The text between two positions of a source. -/
def between (source : String) (start stop : Nat) : String :=
  String.ofList (ofCodeUnits (slice (codeUnits source.toList) start stop))

/-- The text from a position of a source on. -/
def onward (source : String) (start : Nat) : String :=
  String.ofList (ofCodeUnits (sliceFrom (codeUnits source.toList) start))

/-- A placeholder begins at a position. -/
structure OpensAt (source : String) (p : Nat) : Prop where
  dollar : StandsAt source '$' p
  opening : StandsAt source '{' (p + 1)

/-- A malformed placeholder begins at a position. The first brace behind its
    opening brace decides what is wrong with it. -/
inductive MalformedAt (source : String) (p : Nat) : Malformed → Prop where
  /-- There is no brace. -/
  | unclosed (opens : OpensAt source p) (none_ : ∀ i, p + 2 ≤ i → ¬ BraceAt source i) :
      MalformedAt source p ⟨.unclosed, onward source p, p⟩
  /-- It opens another placeholder. -/
  | nested (j : Nat) (opens : OpensAt source p) (first : FirstBrace source (p + 2) j)
      (opening : StandsAt source '{' j) :
      MalformedAt source p ⟨.nested, between source p (j + 1), p⟩
  /-- It closes the placeholder at once. -/
  | emptyName (opens : OpensAt source p) (closing : StandsAt source '}' (p + 2)) :
      MalformedAt source p ⟨.emptyName, between source p (p + 3), p⟩
  /-- It closes the placeholder behind something that is no identifier. -/
  | invalidName (j : Nat) (opens : OpensAt source p) (first : FirstBrace source (p + 2) j)
      (closing : StandsAt source '}' j) (filled : p + 2 < j)
      (unnamed : isName (between source (p + 2) j).toList = false) :
      MalformedAt source p ⟨.invalidName, between source p (j + 1), p⟩

/-- The first malformed placeholder of a source begins at a position, and what
    precedes it parses. -/
structure FirstMalformed (source : String) (p : Nat) (m : Malformed) : Prop where
  here : MalformedAt source p m
  before : ∃ outline, Outline.ofSource? (between source 0 p) = .ok outline
  first : ∀ q, q < p → ∀ other, ¬ MalformedAt source q other

/-! ### Positions and characters -/

/-- Of two beginnings of a text the shorter one begins the longer one. -/
theorem append_split_units {l m x y : List Char} (same : l ++ x = m ++ y)
    (short : units l ≤ units m) : ∃ k, m = l ++ k ∧ x = k ++ y := by
  rcases List.append_eq_append_iff.mp same with ⟨k, longer, rest⟩ | ⟨k, longer, rest⟩
  · exact ⟨k, longer, rest⟩
  · cases k with
    | nil => exact ⟨[], by simpa using longer.symm, by simpa using rest.symm⟩
    | cons c k =>
        have := unitsOf_pos c
        rw [longer, units_append, units] at short
        omega

/-- A unit that is no half of a character is a character by itself, and the
    text divides there. -/
theorem getElem?_codeUnits_iff {cs : List Char} {c : Char} {i : Nat} (small : c.toNat < 0xD800) :
    (codeUnits cs)[i]? = some c.toNat ↔
      ∃ before after, cs = before ++ c :: after ∧ units before = i := by
  constructor
  · intro found
    induction cs generalizing i with
    | nil => simp [codeUnits] at found
    | cons d cs ih =>
        by_cases behind : unitsOf d ≤ i
        · rw [codeUnits, List.getElem?_append_right (by rw [length_halves]; exact behind),
            length_halves] at found
          rcases ih found with ⟨before, after, rfl, long⟩
          refine ⟨d :: before, after, rfl, ?_⟩
          simp only [units]
          omega
        · -- The unit belongs to the first character, whose halves are larger.
          rw [codeUnits, List.getElem?_append_left (by rw [length_halves]; omega)] at found
          by_cases single : d.toNat < 0x10000
          · simp only [halves, unitsOf, single, if_true] at found behind
            have zero : i = 0 := by omega
            subst zero
            rw [List.getElem?_cons_zero, Option.some.injEq] at found
            have same : d = c := by
              rw [← Char.ofNat_toNat d, found, Char.ofNat_toNat]
            exact ⟨[], cs, by rw [same]; rfl, rfl⟩
          · have member := List.mem_of_getElem? found
            simp only [halves, single, if_false, List.mem_cons, List.not_mem_nil, or_false]
              at member
            omega
  · rintro ⟨before, after, rfl, rfl⟩
    have single : c.toNat < 0x10000 := by omega
    rw [codeUnits_append, ← length_codeUnits, List.getElem?_append_right (Nat.le_refl _),
      Nat.sub_self, codeUnits]
    simp [halves, single]

theorem standsAt_iff {source : String} {c : Char} {i : Nat} (small : c.toNat < 0xD800) :
    StandsAt source c i ↔
      ∃ before after, source.toList = before ++ c :: after ∧ units before = i :=
  getElem?_codeUnits_iff small

theorem standsAt_opening {source : String} {i : Nat} :
    StandsAt source '{' i ↔
      ∃ before after, source.toList = before ++ '{' :: after ∧ units before = i :=
  standsAt_iff (by decide)

theorem standsAt_closing {source : String} {i : Nat} :
    StandsAt source '}' i ↔
      ∃ before after, source.toList = before ++ '}' :: after ∧ units before = i :=
  standsAt_iff (by decide)

/-- A brace at a position is a character that is a brace. -/
theorem braceAt_iff {source : String} {i : Nat} :
    BraceAt source i ↔ ∃ before c after,
      source.toList = before ++ c :: after ∧ units before = i ∧ notBrace c = false := by
  have braces (c : Char) : notBrace c = false ↔ c = '{' ∨ c = '}' := by
    rw [notBrace, Bool.and_eq_false_iff, bne_eq_false_iff_eq, bne_eq_false_iff_eq]
  simp only [BraceAt, standsAt_opening, standsAt_closing, braces]
  constructor
  · rintro (⟨before, after, text, long⟩ | ⟨before, after, text, long⟩)
    · exact ⟨before, _, after, text, long, .inl rfl⟩
    · exact ⟨before, _, after, text, long, .inr rfl⟩
  · rintro ⟨before, c, after, text, long, rfl | rfl⟩
    · exact .inl ⟨before, after, text, long⟩
    · exact .inr ⟨before, after, text, long⟩


/-! ### The first brace -/

/-- Text without braces. -/
def Unbraced (cs : List Char) : Prop :=
  ∀ c ∈ cs, notBrace c = true

section

variable {source : String} {front rest : List Char}

/-- A brace in text that stands in a source is a brace of the source. -/
theorem braceAt_of_text {c : Char} {body tail : List Char}
    (text : source.toList = front ++ rest) (there : rest = body ++ c :: tail)
    (isBrace : notBrace c = false) : BraceAt source (units front + units body) :=
  braceAt_iff.mpr
    ⟨front ++ body, c, tail, by rw [text, there, List.append_assoc], units_append front body,
      isBrace⟩

/-- A brace of a source is one in the text that stands there. -/
theorem exists_of_braceAt {i : Nat} (text : source.toList = front ++ rest)
    (brace : BraceAt source i) (behind : units front ≤ i) :
    ∃ body c tail, rest = body ++ c :: tail ∧ notBrace c = false
      ∧ i = units front + units body := by
  rcases braceAt_iff.mp brace with ⟨before, c, tail, text', rfl, isBrace⟩
  rcases append_split_units (text.symm.trans text') behind with ⟨body, rfl, there⟩
  exact ⟨body, c, tail, there, isBrace, units_append front body⟩

/-- There is no brace behind a part of a source if what follows has none. -/
theorem no_brace_iff (text : source.toList = front ++ rest) :
    (∀ i, units front ≤ i → ¬ BraceAt source i) ↔ Unbraced rest := by
  constructor
  · intro none_ c mem
    rcases List.mem_iff_append.mp mem with ⟨body, tail, there⟩
    by_cases isBrace : notBrace c = true
    · exact isBrace
    · rw [Bool.not_eq_true] at isBrace
      exact absurd (braceAt_of_text text there isBrace) (none_ _ (Nat.le_add_right _ _))
  · intro plain i behind brace
    rcases exists_of_braceAt text brace behind with ⟨body, c, tail, rfl, isBrace, -⟩
    have := plain c (List.mem_append_right body List.mem_cons_self)
    rw [isBrace] at this
    cases this

/-- The first brace behind a part of a source ends the text without braces that
    follows. -/
theorem firstBrace_iff {c : Char} {j : Nat} (isBrace : notBrace c = false)
    (text : source.toList = front ++ rest) :
    FirstBrace source (units front) j ∧ StandsAt source c j ↔
      ∃ body tail, rest = body ++ c :: tail ∧ Unbraced body ∧ j = units front + units body := by
  have small : c.toNat < 0xD800 := by
    rw [notBrace, Bool.and_eq_false_iff, bne_eq_false_iff_eq, bne_eq_false_iff_eq] at isBrace
    rcases isBrace with rfl | rfl <;> decide
  constructor
  · rintro ⟨⟨le, -, first⟩, stands⟩
    rcases (standsAt_iff small).mp stands with ⟨before, tail, text', rfl⟩
    rcases append_split_units (text.symm.trans text') le with ⟨body, rfl, there⟩
    refine ⟨body, tail, there, ?_, units_append front body⟩
    intro d mem
    -- A brace in the body would be an earlier one.
    rcases List.mem_iff_append.mp mem with ⟨body', tail', rfl⟩
    by_cases earlier : notBrace d = true
    · exact earlier
    · rw [Bool.not_eq_true] at earlier
      have := unitsOf_pos d
      rw [List.append_assoc, List.cons_append] at there
      refine absurd (braceAt_of_text text there earlier) (first _ (Nat.le_add_right _ _) ?_)
      simp only [units_append, units]
      omega
  · rintro ⟨body, tail, rfl, plain, rfl⟩
    refine ⟨⟨Nat.le_add_right _ _, braceAt_of_text text rfl isBrace, ?_⟩,
      (standsAt_iff small).mpr ⟨front ++ body, tail, by rw [text, List.append_assoc],
        units_append front body⟩⟩
    intro i behind before brace
    rcases exists_of_braceAt text brace behind with ⟨body', d, tail', same, isBrace', rfl⟩
    rcases append_split_units same.symm (by omega) with ⟨k, rfl, same'⟩
    cases k with
    | nil =>
        simp only [List.append_nil] at before
        omega
    | cons e k =>
        rw [List.cons_append, List.cons.injEq] at same'
        have := plain d (same'.1 ▸ List.mem_append_right body' List.mem_cons_self)
        rw [isBrace'] at this
        cases this

end

/-! ### Malformed placeholders -/

/-- What is wrong with the placeholder that begins at a position, told from what
    stands behind its opening brace. -/
inductive Faulty (position : Nat) : List Char → Malformed → Prop where
  /-- There is no brace. -/
  | unclosed {rest : List Char} (plain : Unbraced rest) :
      Faulty position rest ⟨.unclosed, String.ofList ('$' :: '{' :: rest), position⟩
  /-- An opening brace comes first. -/
  | nested {body tail : List Char} (plain : Unbraced body) :
      Faulty position (body ++ '{' :: tail)
        ⟨.nested, String.ofList ('$' :: '{' :: (body ++ ['{'])), position⟩
  /-- Nothing stands in front of the closing brace. -/
  | emptyName {tail : List Char} :
      Faulty position ('}' :: tail) ⟨.emptyName, String.ofList ['$', '{', '}'], position⟩
  /-- What stands in front of the closing brace is no identifier. -/
  | invalidName {body tail : List Char} (plain : Unbraced body) (filled : body ≠ [])
      (unnamed : isName body = false) :
      Faulty position (body ++ '}' :: tail)
        ⟨.invalidName, String.ofList ('$' :: '{' :: (body ++ ['}'])), position⟩

/-- The text between the ends of a part of a source is that part. -/
theorem between_eq {source : String} {before part after : List Char}
    (text : source.toList = before ++ (part ++ after)) :
    between source (units before) (units before + units part) = String.ofList part := by
  rw [between, text, ← units_append, slice_codeUnits, ofCodeUnits_codeUnits]

theorem onward_eq {source : String} {before after : List Char}
    (text : source.toList = before ++ after) :
    onward source (units before) = String.ofList after := by
  rw [onward, text, sliceFrom_codeUnits, ofCodeUnits_codeUnits]

/-- A placeholder begins where its first two characters stand. -/
theorem opensAt_iff {source : String} {p : Nat} :
    OpensAt source p ↔
      ∃ before rest, source.toList = before ++ '$' :: '{' :: rest ∧ units before = p := by
  have one : unitsOf '$' = 1 := by decide
  constructor
  · rintro ⟨dollar, opening⟩
    rcases (standsAt_iff (by decide)).mp dollar with ⟨before, after, text, rfl⟩
    rcases standsAt_opening.mp opening with ⟨before', rest, text', long⟩
    rcases append_inj_units (l := before ++ ['$']) (x := after)
      (by rw [← text', text, List.append_assoc]; rfl)
      (by simp only [units_append, units, one, long]) with ⟨-, rfl⟩
    exact ⟨before, rest, text, rfl⟩
  · rintro ⟨before, rest, text, rfl⟩
    refine ⟨(standsAt_iff (by decide)).mpr ⟨before, _, text, rfl⟩,
      standsAt_opening.mpr ⟨before ++ ['$'], rest, by rw [text, List.append_assoc]; rfl, ?_⟩⟩
    simp only [units_append, units, one]

section

variable {source : String} {before body tail : List Char} {c : Char}

/-- What stands behind the first two characters of a placeholder. -/
theorem text_behind {rest : List Char} (text : source.toList = before ++ '$' :: '{' :: rest) :
    source.toList = (before ++ ['$', '{']) ++ rest ∧
      units (before ++ ['$', '{']) = units before + 2 := by
  have two : units ['$', '{'] = 2 := by decide
  refine ⟨by rw [text, List.append_assoc]; rfl, ?_⟩
  rw [units_append, two]

/-- The text from a `$` to a brace. -/
theorem fragment_eq (single : unitsOf c = 1)
    (text : source.toList = before ++ '$' :: '{' :: (body ++ c :: tail)) :
    between source (units before) (units before + 2 + units body + 1)
      = String.ofList ('$' :: '{' :: (body ++ [c])) := by
  have two : unitsOf '$' = 1 ∧ unitsOf '{' = 1 := by decide
  have long : units before + 2 + units body + 1
      = units before + units ('$' :: '{' :: (body ++ [c])) := by
    simp only [units, units_append, two, single]
    omega
  have whole : source.toList = before ++ (('$' :: '{' :: (body ++ [c])) ++ tail) := by
    simpa using text
  rw [long, between_eq whole]

end

/-- What is wrong with a placeholder in code units is wrong with it in characters. -/
theorem faulty_of_malformedAt {source : String} {before rest : List Char} {m : Malformed}
    (text : source.toList = before ++ '$' :: '{' :: rest)
    (malformed : MalformedAt source (units before) m) : Faulty (units before) rest m := by
  have single : unitsOf '{' = 1 ∧ unitsOf '}' = 1 := by decide
  rcases text_behind text with ⟨text', behind⟩
  -- In each case but the first there is a first brace, and it cuts what stands behind the
  -- opening one into a body and a tail.
  cases malformed with
  | unclosed _ none_ =>
      rw [onward_eq text]
      exact .unclosed ((no_brace_iff text').mp (by rw [behind]; exact none_))
  | nested j _ first opening =>
      rw [← behind] at first
      rcases (firstBrace_iff (by decide) text').mp ⟨first, opening⟩ with
        ⟨body, tail, rfl, plain, rfl⟩
      rw [behind, fragment_eq single.1 text]
      exact .nested plain
  | emptyName _ closing =>
      rw [← behind] at closing
      have first : FirstBrace source (units (before ++ ['$', '{']))
          (units (before ++ ['$', '{'])) :=
        ⟨Nat.le_refl _, .inr closing, fun i le lt => absurd lt (Nat.not_lt.mpr le)⟩
      rcases (firstBrace_iff (by decide) text').mp ⟨first, closing⟩ with
        ⟨body, tail, rfl, plain, long⟩
      cases body with
      | nil =>
          rw [show units before + 3 = units before + 2 + units [] + 1 from rfl,
            fragment_eq single.2 text]
          exact .emptyName
      | cons d body =>
          -- A character takes up at least one unit, and the brace follows at once.
          have := unitsOf_pos d
          rw [units] at long
          omega
  | invalidName j _ first closing filled unnamed =>
      rw [← behind] at first filled unnamed
      rcases (firstBrace_iff (by decide) text').mp ⟨first, closing⟩ with
        ⟨body, tail, rfl, plain, rfl⟩
      rw [between_eq text', String.toList_ofList] at unnamed
      rw [behind, fragment_eq single.2 text]
      refine .invalidName plain ?_ unnamed
      rintro rfl
      exact absurd filled (Nat.lt_irrefl _)

/-- What is wrong with a placeholder in characters is wrong with it in code units. -/
theorem malformedAt_of_faulty {source : String} {before rest : List Char} {m : Malformed}
    (text : source.toList = before ++ '$' :: '{' :: rest)
    (faulty : Faulty (units before) rest m) : MalformedAt source (units before) m := by
  have single : unitsOf '{' = 1 ∧ unitsOf '}' = 1 := by decide
  have opens : OpensAt source (units before) := opensAt_iff.mpr ⟨before, rest, text, rfl⟩
  rcases text_behind text with ⟨text', behind⟩
  cases faulty with
  | unclosed plain =>
      rw [← onward_eq text]
      exact .unclosed opens (by rw [← behind]; exact (no_brace_iff text').mpr plain)
  | @nested body tail plain =>
      rcases (firstBrace_iff (c := '{') (by decide) text').mpr ⟨body, tail, rfl, plain, rfl⟩ with
        ⟨first, opening⟩
      rw [behind] at first opening
      rw [← fragment_eq single.1 text]
      exact .nested _ opens first opening
  | @emptyName tail =>
      have closing := ((firstBrace_iff (c := '}') (by decide) text').mpr
        ⟨[], tail, rfl, fun d hd => absurd hd List.not_mem_nil, rfl⟩).2
      rw [behind] at closing
      have bare : source.toList = before ++ '$' :: '{' :: ([] ++ '}' :: tail) := text
      have fragment := fragment_eq single.2 bare
      rw [List.nil_append] at fragment
      rw [← fragment]
      exact .emptyName opens closing
  | @invalidName body tail plain filled unnamed =>
      rcases (firstBrace_iff (c := '}') (by decide) text').mpr ⟨body, tail, rfl, plain, rfl⟩ with
        ⟨first, closing⟩
      rw [← String.toList_ofList (l := body), ← between_eq text'] at unnamed
      rw [behind] at first closing unnamed
      rw [← fragment_eq single.2 text]
      refine .invalidName _ opens first closing ?_ unnamed
      cases body with
      | nil => exact absurd rfl filled
      | cons d body =>
          have := unitsOf_pos d
          rw [units]
          omega

/-- A malformed placeholder in code units is one in characters. -/
theorem malformedAt_iff {source : String} {p : Nat} {m : Malformed} :
    MalformedAt source p m ↔
      ∃ before rest, source.toList = before ++ '$' :: '{' :: rest ∧ units before = p
        ∧ Faulty p rest m := by
  constructor
  · intro malformed
    have opens : OpensAt source p := by cases malformed <;> assumption
    rcases opensAt_iff.mp opens with ⟨before, rest, text, rfl⟩
    exact ⟨before, rest, text, rfl, faulty_of_malformedAt text malformed⟩
  · rintro ⟨before, rest, text, rfl, faulty⟩
    exact malformedAt_of_faulty text faulty

/-! ### Where the scan fails -/

/-- Text without braces is read up to the brace behind it. -/
theorem span_unbraced {body : List Char} {c : Char} (plain : Unbraced body)
    (isBrace : notBrace c = false) (tail : List Char) :
    (body ++ c :: tail).takeWhile notBrace = body
      ∧ (body ++ c :: tail).dropWhile notBrace = c :: tail := by
  constructor
  · rw [List.takeWhile_append_of_pos plain, List.takeWhile_cons, isBrace]
    exact List.append_nil _
  · rw [List.dropWhile_append_of_pos plain, List.dropWhile_cons, isBrace]
    rfl

/-- A malformed placeholder is not read. -/
theorem Faulty.scan_eq {position : Nat} {rest : List Char} {m : Malformed}
    (faulty : Faulty position rest m) :
    scan position ('$' :: '{' :: rest) = .error m := by
  have brace : notBrace '{' = false ∧ notBrace '}' = false := by decide
  rw [scan]
  cases faulty with
  | unclosed plain =>
      have all : rest.dropWhile notBrace = [] := by
        rw [← List.append_nil rest, List.dropWhile_append_of_pos plain]
        rfl
      split
      · rfl
      · next found => simp [all] at found
  | @nested body tail plain =>
      rcases span_unbraced plain brace.1 tail with ⟨body_eq, tail_eq⟩
      split
      · next found => simp [tail_eq] at found
      · next found =>
          rw [tail_eq, List.cons.injEq] at found
          simp [← found.1, body_eq]
  | @emptyName tail =>
      split
      · next found => simp [brace.2] at found
      · next found =>
          have first : (('}' :: tail).takeWhile notBrace) = [] := by simp [brace.2]
          simp [brace.2] at found
          simp [← found.1, brace.2]
  | @invalidName body tail plain filled unnamed =>
      rcases span_unbraced plain brace.2 tail with ⟨body_eq, tail_eq⟩
      split
      · next found => simp [tail_eq] at found
      · next found =>
          rw [tail_eq, List.cons.injEq] at found
          simp [← found.1, body_eq, filled, unnamed]

/-- Text that has a brace has a first one. -/
theorem exists_first_brace {cs : List Char} (braced : ¬ Unbraced cs) :
    ∃ body c tail, cs = body ++ c :: tail ∧ Unbraced body ∧ (c = '{' ∨ c = '}') := by
  induction cs with
  | nil => exact absurd (fun c hc => absurd hc List.not_mem_nil) braced
  | cons c cs ih =>
      by_cases plain : notBrace c = true
      · have later : ¬ Unbraced cs := fun rest => braced (List.forall_mem_cons.mpr ⟨plain, rest⟩)
        rcases ih later with ⟨body, d, tail, rfl, before, brace⟩
        exact ⟨c :: body, d, tail, rfl, List.forall_mem_cons.mpr ⟨plain, before⟩, brace⟩
      · rw [notBrace, Bool.and_eq_true, bne_iff_ne, bne_iff_ne, Classical.not_and_iff_not_or_not,
          Classical.not_not, Classical.not_not] at plain
        exact ⟨[], c, cs, rfl, fun d hd => absurd hd List.not_mem_nil, plain⟩

theorem named_no_dollar {cs : List Char} (named : isName cs = true) {c : Char} (mem : c ∈ cs) :
    c ≠ '$' := by
  cases cs with
  | nil => cases mem
  | cons d cs =>
      rw [isName, Bool.and_eq_true, List.all_eq_true] at named
      rintro rfl
      rcases List.mem_cons.mp mem with same | mem
      · rw [← same] at named
        exact absurd named.1 (by decide)
      · exact absurd (named.2 _ mem) (by decide)

/-- A name and the brace that closes it end in front of the next `$`. -/
theorem split_closing {name : String} {more tail rest : List Char}
    (named : isName name.toList = true)
    (same : more ++ '$' :: rest = name.toList ++ '}' :: tail) :
    ∃ more', more = name.toList ++ '}' :: more' ∧ tail = more' ++ '$' :: rest := by
  rcases List.append_eq_append_iff.mp same with ⟨k, longer, behind⟩ | ⟨k, longer, behind⟩
  · cases k with
    | nil => simp at behind
    | cons c k =>
        rw [List.cons_append, List.cons.injEq] at behind
        have among := longer ▸ List.mem_append_right more List.mem_cons_self
        exact absurd behind.1.symm (named_no_dollar named among)
  · cases k with
    | nil => simp at behind
    | cons c k =>
        rw [List.cons_append, List.cons.injEq] at behind
        rcases behind with ⟨rfl, behind⟩
        exact ⟨k, longer, behind⟩

theorem Faulty.position_eq {position : Nat} {rest : List Char} {m : Malformed}
    (faulty : Faulty position rest m) : m.position = position := by
  cases faulty <;> rfl

/-- What begins like a placeholder is malformed or a placeholder: its first brace
    decides. -/
theorem faulty_or_placeholder (position : Nat) (rest : List Char) :
    (∃ m, Faulty position rest m)
      ∨ ∃ (name : String) (tail : List Char),
          isName name.toList = true ∧ rest = name.toList ++ '}' :: tail := by
  by_cases plain : Unbraced rest
  · exact .inl ⟨_, .unclosed plain⟩
  · rcases exists_first_brace plain with ⟨body, c, tail, rfl, before, rfl | rfl⟩
    · exact .inl ⟨_, .nested before⟩
    · by_cases named : isName body = true
      · exact .inr ⟨String.ofList body, tail, by simpa using named, by simp⟩
      · rw [Bool.not_eq_true] at named
        by_cases empty : body = []
        · subst empty
          exact .inl ⟨_, .emptyName⟩
        · exact .inl ⟨_, .invalidName before empty named⟩

/-- A malformed placeholder makes the scan fail, there or at an earlier one. The
    scan moves forward, so the induction is on how far it still has to go. -/
theorem scan_fails {position q : Nat} {before rest : List Char} {m : Malformed}
    (faulty : Faulty q rest m) (far : q = position + units before) :
    ∃ m', scan position (before ++ '$' :: '{' :: rest) = .error m' ∧ m'.position ≤ q := by
  induction long : before.length using Nat.strongRecOn generalizing position before with
  | ind n ih =>
      cases before with
      | nil =>
          have same : q = position := far
          subst same
          exact ⟨m, faulty.scan_eq, Int.le_of_eq faulty.position_eq⟩
      | cons d before =>
          rw [units] at far
          by_cases opening : d = '$' ∧ ∃ more, before = '{' :: more
          · rcases opening with ⟨rfl, more, rfl⟩
            rcases faulty_or_placeholder position (more ++ '$' :: '{' :: rest) with
              ⟨m', earlier⟩ | ⟨name, tail, named, same⟩
            · refine ⟨m', earlier.scan_eq, ?_⟩
              rw [earlier.position_eq]
              omega
            · -- A name contains no `$`, so the placeholder ends in front of the malformed one.
              rcases split_closing named same with ⟨more', rfl, rfl⟩
              have shorter : more'.length < n := by
                simp only [← long, List.length_cons, List.length_append]
                omega
              have reached : q = position + units (placeholderText name) + units more' := by
                have single : unitsOf '$' = 1 ∧ unitsOf '{' = 1 ∧ unitsOf '}' = 1 := by decide
                rw [units_placeholderText, far]
                simp only [units, units_append, single]
                omega
              rcases ih _ shorter reached rfl with ⟨m', fails, early⟩
              refine ⟨m', ?_, early⟩
              have read := scan_placeholder position named (more' ++ '$' :: '{' :: rest)
              rw [fails] at read
              simpa [placeholderText] using read
          · -- Not even a `$` right in front of the malformed placeholder opens one here.
            have plain : ∀ more, d = '$' → before ++ '$' :: '{' :: rest = '{' :: more → False := by
              intro more dollar same
              cases before with
              | nil => simp at same
              | cons e before =>
                  rw [List.cons_append, List.cons.injEq] at same
                  exact opening ⟨dollar, before, by rw [same.1]⟩
            have shorter : before.length < n := by
              simp only [← long, List.length_cons]
              omega
            have reached : q = position + unitsOf d + units before := by omega
            rcases ih _ shorter reached rfl with ⟨m', fails, early⟩
            refine ⟨m', ?_, early⟩
            rw [List.cons_append, scan, fails]
            exact plain

/-- Where the scan fails a malformed placeholder begins, and what precedes it has
    a cut. As for a source that is accepted, each case puts back what one step of
    the scan took off the front. -/
theorem exists_faulty_of_scan {position : Nat} {cs : List Char} {m : Malformed}
    (fails : scan position cs = .error m) :
    ∃ (c : Cut) (rest : List Char), c.Proper ∧ cs = c.text ++ '$' :: '{' :: rest
      ∧ Faulty (position + units c.text) rest m := by
  induction long : cs.length using Nat.strongRecOn generalizing position cs with
  | ind n ih =>
      cases cs with
      | nil => simp [scan] at fails
      | cons d cs =>
          by_cases opening : d = '$' ∧ ∃ more, cs = '{' :: more
          · rcases opening with ⟨rfl, more, rfl⟩
            rcases faulty_or_placeholder position more with ⟨m', faulty⟩ | ⟨name, tail, named, same⟩
            · -- The fault is here, behind nothing.
              rw [faulty.scan_eq] at fails
              cases fails
              refine ⟨.last [], more, ⟨?_, ?_⟩, rfl, faulty⟩
              · intro l hl
                rw [List.mem_singleton.mp hl]
                exact bare_nil
              · exact fun name hn => absurd hn List.not_mem_nil
            · have whole : '$' :: '{' :: more = placeholderText name ++ tail := by
                simp [placeholderText, same]
              rw [whole, scan_placeholder position named] at fails
              split at fails
              · next e behind =>
                  cases fails
                  have shorter : tail.length < n := by
                    simp only [← long, same, List.length_cons, List.length_append]
                    omega
                  rcases ih _ shorter behind rfl with ⟨c, rest, proper, rfl, faulty⟩
                  refine ⟨.placed [] name c, rest, ⟨?_, ?_⟩, ?_, ?_⟩
                  · exact List.forall_mem_cons.mpr ⟨bare_nil, proper.bare⟩
                  · exact List.forall_mem_cons.mpr ⟨named, proper.named⟩
                  · rw [whole, Cut.text, List.nil_append, List.append_assoc]
                  · rw [Cut.text, List.nil_append, units_append, ← Nat.add_assoc]
                    exact faulty
              · cases fails
          · -- A character that opens no placeholder goes in front of the first literal.
            have plain : ∀ more, d = '$' → cs = '{' :: more → False :=
              fun more dollar same => opening ⟨dollar, more, same⟩
            rw [scan] at fails
            · have shorter : cs.length < n := by
                simp only [← long, List.length_cons]
                omega
              rcases ih _ shorter fails rfl with ⟨c, rest, proper, rfl, faulty⟩
              refine ⟨c.prepend [d], rest, proper.cons ?_, ?_, ?_⟩
              · intro more dollar same
                exact plain _ dollar (by rw [same]; rfl)
              · rw [Cut.text_prepend]
                rfl
              · rw [Cut.text_prepend, List.singleton_append, units, ← Nat.add_assoc]
                exact faulty
            · exact plain

/-! ### The fault that is reported -/

/-- Parsing fails where the scan does. -/
theorem ofSource?_error_iff {source : String} {m : Malformed} :
    Outline.ofSource? source = .error m ↔ scan 0 source.toList = .error m := by
  rw [Outline.ofSource?]
  split
  · next fails => rw [fails, Except.error.injEq, Except.error.injEq]
  · next reads => simp [reads]

/-- A template is refused for what its source is. -/
theorem Template.make_error_iff {journal : Journal} {variant : Variant} {settings : Settings}
    {source : String} {e : TemplateError} :
    make journal variant settings source = .error e ↔
      ∃ m, Outline.ofSource? source = .error m ∧ e = .malformed m settings.name := by
  unfold make
  split
  · next m fails => simp [fails, eq_comm]
  · next reads => simp [reads]

/-- Nothing stands in front of the text at the beginning of a source. -/
theorem between_zero {source : String} {before after : List Char}
    (text : source.toList = before ++ after) :
    between source 0 (units before) = String.ofList before := by
  have whole : source.toList = [] ++ (before ++ after) := text
  simpa [units] using between_eq whole

/-- A malformed placeholder makes parsing fail, there or at an earlier one. -/
theorem MalformedAt.fails {source : String} {q : Nat} {m : Malformed}
    (malformed : MalformedAt source q m) :
    ∃ m', Outline.ofSource? source = .error m' ∧ m'.position ≤ q := by
  rcases malformedAt_iff.mp malformed with ⟨before, rest, text, long, faulty⟩
  have far : q = 0 + units before := by omega
  rcases scan_fails faulty far with ⟨m', fails, early⟩
  exact ⟨m', ofSource?_error_iff.mpr (by rw [text, fails]), early⟩

theorem MalformedAt.position_eq {source : String} {p : Nat} {m : Malformed}
    (malformed : MalformedAt source p m) : m.position = p := by
  cases malformed <;> rfl

/-- Only one thing is wrong with a placeholder. -/
theorem MalformedAt.unique {source : String} {p : Nat} {m m' : Malformed}
    (one : MalformedAt source p m) (other : MalformedAt source p m') : m = m' := by
  rcases malformedAt_iff.mp one with ⟨before, rest, text, long, faulty⟩
  rcases malformedAt_iff.mp other with ⟨before', rest', text', long', faulty'⟩
  rcases append_inj_units (text.symm.trans text') (long.trans long'.symm) with ⟨-, same⟩
  simp only [List.cons.injEq, true_and] at same
  subst same
  exact Except.error.inj (faulty.scan_eq.symm.trans faulty'.scan_eq)

/-- What parsing reports is the first malformed placeholder. -/
theorem firstMalformed_of_fails {source : String} {m : Malformed}
    (fails : Outline.ofSource? source = .error m) : ∃ p, FirstMalformed source p m := by
  rcases exists_faulty_of_scan (ofSource?_error_iff.mp fails) with ⟨c, rest, proper, text, faulty⟩
  rw [Nat.zero_add] at faulty
  have here : MalformedAt source (units c.text) m :=
    malformedAt_iff.mpr ⟨c.text, rest, text, rfl, faulty⟩
  refine ⟨units c.text, here, ?_, ?_⟩
  · rw [between_zero text]
    exact ⟨_, Cut.Of.ofSource?_eq ⟨proper, String.toList_ofList.symm⟩⟩
  · intro q before other malformed
    rcases malformed.fails with ⟨m', fails', early⟩
    rw [fails, Except.error.injEq] at fails'
    have := here.position_eq
    rw [fails'] at this
    omega

/-- Parsing a source fails if and only if a placeholder in it is malformed, and
    reports the first one that is: it begins with the first `$` and opening brace
    behind which something is wrong, and what precedes it parses. A template with
    such a source is refused for just that. -/
theorem fails_at_first_malformed (source : String) :
    (∀ m, Outline.ofSource? source = .error m ↔ ∃ p, FirstMalformed source p m)
      ∧ ((∃ m, Outline.ofSource? source = .error m) ↔ ∃ p m, MalformedAt source p m)
      ∧ ∀ journal variant settings e,
          Template.make journal variant settings source = .error e ↔
            ∃ p m, FirstMalformed source p m ∧ e = .malformed m settings.name := by
  have reported (m : Malformed) :
      Outline.ofSource? source = .error m ↔ ∃ p, FirstMalformed source p m := by
    refine ⟨firstMalformed_of_fails, ?_⟩
    rintro ⟨p, here, -, first⟩
    -- What is reported instead would begin here or earlier, and so here.
    rcases here.fails with ⟨m', fails, early⟩
    rcases firstMalformed_of_fails fails with ⟨q, here', -, -⟩
    have position := here'.position_eq
    by_cases before : q < p
    · exact absurd here' (first q before m')
    · have same : q = p := by omega
      rw [fails, here.unique (same ▸ here')]
  refine ⟨reported, ?_, ?_⟩
  · constructor
    · rintro ⟨m, fails⟩
      rcases (reported m).mp fails with ⟨p, first⟩
      exact ⟨p, m, first.here⟩
    · rintro ⟨p, m, malformed⟩
      rcases malformed.fails with ⟨m', fails, -⟩
      exact ⟨m', fails⟩
  · intro journal variant settings e
    rw [Template.make_error_iff]
    constructor
    · rintro ⟨m, fails, rfl⟩
      rcases (reported m).mp fails with ⟨p, first⟩
      exact ⟨p, m, first, rfl⟩
    · rintro ⟨p, m, first, rfl⟩
      exact ⟨m, (reported m).mpr ⟨p, first⟩, rfl⟩

end Stencil
