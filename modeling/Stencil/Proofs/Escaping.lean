import Mathlib.Data.List.Basic
import Stencil.Pattern.Grammar

/-!
# Escaped Bodies of Patterns

The same body of a pattern with more of its characters escaped, and what the readers of
escapes make of both.

Slashes and line breaks are escaped where a pattern is written, and everything else is
left as it is. So a reader comes past the same characters in both bodies, except where it
meets a slash or a line break; there it finds a backslash in the other body, and behind
it what stands for the same character. What a reader accepts in the first body it
accepts in the second, with the same result. The converse fails: where the grammar is
strict, a line break behind a backslash is wrong, and its name is not.

## Main definitions

* `Pattern.Escapes`: A body, and the same body with more escaped.
* `Pattern.isInert`: Characters that are never written in another way.
* `Pattern.Leads`: If one reader succeeds, so does another, with a related result.
* `Pattern.Behind`, `Pattern.SameBehind`: What is left of both bodies.

## Theorems

* `Pattern.Escapes.stretch`: A stretch of inert characters is the same in both.
* `Pattern.Escapes.ne_append`: What was not there is not there now.
* `Pattern.hex?_rel`, `Pattern.octal_same`, `Pattern.unicode?_cases`: Numbers.
* `Pattern.escape_leads`: What stands behind a backslash is read from both bodies.
* `Pattern.escape_marked`: What a new backslash was put in front of is the same
  character.
-/

namespace Stencil

namespace Pattern

/-! ### Escaped bodies -/

/-- What a character can be written as behind a backslash. -/
def Shows (c : Char) (shown : List Char) : Prop :=
  shown = [c] ∨ lineBreak? c = some shown

/-- What is put behind a new backslash for a character. -/
def Marks (c : Char) (shown : List Char) : Prop :=
  c = '/' ∧ shown = ['/'] ∨ lineBreak? c = some shown

/-- A body, and the same body with more characters escaped. -/
inductive Escapes : List Char → List Char → Prop
  | nil : Escapes [] []
  /-- A backslash at the end escapes nothing. -/
  | last : Escapes ['\\'] ['\\']
  | plain {c : Char} {cs ds : List Char} (other : c ≠ '\\') (rest : Escapes cs ds) :
      Escapes (c :: cs) (c :: ds)
  | pair {c : Char} {shown cs ds : List Char} (shows : Shows c shown) (rest : Escapes cs ds) :
      Escapes ('\\' :: c :: cs) ('\\' :: (shown ++ ds))
  | fresh {c : Char} {shown cs ds : List Char} (marks : Marks c shown) (rest : Escapes cs ds) :
      Escapes (c :: cs) ('\\' :: (shown ++ ds))

/-- Characters that are never written in another way. -/
def isInert (c : Char) : Bool :=
  c ≠ '\\' && c ≠ '/' && lineBreak? c = none

variable {c d : Char} {cs ds shown : List Char} {p : Char → Bool}

theorem isInert_iff : isInert c = true ↔ c ≠ '\\' ∧ c ≠ '/' ∧ lineBreak? c = none := by
  simp only [isInert, Bool.and_eq_true, decide_eq_true_eq, and_assoc]

/-- The characters that can be written in another way. -/
def variants : List Char :=
  ['\\', '/', '\n', '\r', '\u2028', '\u2029']

theorem mem_variants (other : isInert c = false) : c ∈ variants := by
  by_contra absent
  simp only [variants, List.mem_cons, List.not_mem_nil, or_false, not_or] at absent
  rcases absent with ⟨backslash, slash, feed, carriage, line, paragraph⟩
  refine Bool.eq_false_iff.mp other (isInert_iff.mpr ⟨backslash, slash, ?_⟩)
  simp only [lineBreak?, feed, carriage, line, paragraph, if_false]

/-- What is so of none of these is so of inert characters only. -/
theorem isInert_of_any (apart : variants.any p = false) (holds : p c = true) :
    isInert c = true := by
  by_contra other
  exact List.any_eq_false.mp apart c (mem_variants (Bool.eq_false_iff.mpr other)) holds

theorem Marks.not_isInert (marks : Marks c shown) : isInert c = false := by
  refine Bool.eq_false_iff.mpr fun inert => ?_
  rcases isInert_iff.mp inert with ⟨-, noSlash, noBreak⟩
  rcases marks with ⟨slash, -⟩ | named
  · exact noSlash slash
  · rw [noBreak] at named
    cases named

theorem Marks.ne_backslash (marks : Marks c shown) : c ≠ '\\' := by
  rintro rfl
  rcases marks with ⟨slash, -⟩ | named
  · exact absurd slash (by decide)
  · exact absurd named (by decide +revert)

theorem Shows.self : Shows c [c] :=
  .inl rfl

theorem Marks.shows (marks : Marks c shown) : Shows c shown := by
  rcases marks with ⟨rfl, rfl⟩ | named
  · exact .self
  · exact .inr named

namespace Escapes

theorem of_nil (h : Escapes [] ds) : ds = [] := by
  cases h
  rfl

theorem eq_nil (h : Escapes cs []) : cs = [] := by
  cases h
  rfl

/-- An inert character is the same in both. -/
theorem of_inert (h : Escapes (c :: cs) ds) (inert : isInert c = true) :
    ∃ ds', ds = c :: ds' ∧ Escapes cs ds' := by
  cases h with
  | last => exact absurd inert (by decide)
  | plain other rest => exact ⟨_, rfl, rest⟩
  | pair shows rest => exact absurd inert (by decide)
  | fresh marks rest => rw [marks.not_isInert] at inert; cases inert

/-- What is no backslash was there before. -/
theorem of_other (h : Escapes cs (d :: ds)) (other : d ≠ '\\') :
    ∃ cs', cs = d :: cs' ∧ Escapes cs' ds := by
  cases h with
  | last => exact absurd rfl other
  | plain _ rest => exact ⟨_, rfl, rest⟩
  | pair shows rest => exact absurd rfl other
  | fresh marks rest => exact absurd rfl other

theorem of_backslash (h : Escapes ('\\' :: c :: cs) ds) :
    ∃ shown ds', ds = '\\' :: (shown ++ ds') ∧ Shows c shown ∧ Escapes cs ds' := by
  cases h with
  | plain other rest => exact absurd rfl other
  | pair shows rest => exact ⟨_, _, rfl, shows, rest⟩
  | fresh marks rest => exact absurd rfl marks.ne_backslash

/-- Both go on with the same character, or neither goes on with an inert one. -/
theorem head (h : Escapes cs ds) : (cs = [] ∧ ds = [])
    ∨ (∃ c cs' ds', cs = c :: cs' ∧ ds = c :: ds' ∧ c ≠ '\\' ∧ Escapes cs' ds')
    ∨ ∃ c cs' ds', cs = c :: cs' ∧ ds = '\\' :: ds' ∧ isInert c = false := by
  cases h with
  | nil => exact .inl ⟨rfl, rfl⟩
  | last => exact .inr (.inr ⟨_, _, _, rfl, rfl, rfl⟩)
  | plain other rest => exact .inr (.inl ⟨_, _, _, rfl, rfl, other, rest⟩)
  | pair shows rest => exact .inr (.inr ⟨_, _, _, rfl, rfl, rfl⟩)
  | fresh marks rest => exact .inr (.inr ⟨_, _, _, rfl, rfl, marks.not_isInert⟩)

/-- Both begin with an inert character, or neither does. -/
theorem head?_iff (h : Escapes cs ds) (inert : isInert c = true) :
    ds.head? = some c ↔ cs.head? = some c := by
  constructor
  · intro first
    rcases List.head?_eq_some_iff.mp first with ⟨ds, rfl⟩
    rcases h.of_other (isInert_iff.mp inert).1 with ⟨cs, rfl, -⟩
    rfl
  · intro first
    rcases List.head?_eq_some_iff.mp first with ⟨cs, rfl⟩
    rcases h.of_inert inert with ⟨ds, rfl, -⟩
    rfl

/-- A stretch of inert characters is the same in both. -/
theorem stretch (h : Escapes cs ds) (inert : ∀ c, p c = true → isInert c = true) :
    ds.takeWhile p = cs.takeWhile p
      ∧ ∀ n ≤ (cs.takeWhile p).length, ds.take n = cs.take n ∧ Escapes (cs.drop n) (ds.drop n) := by
  -- Where a stretch ends in one body, what stands there in the other may be a backslash.
  -- That ends the stretch as well, as a backslash is not inert.
  have stops : ∀ c, isInert c = false → p c = false := by
    intro c not_
    refine Bool.eq_false_iff.mpr fun holds => ?_
    rw [inert c holds] at not_
    cases not_
  induction cs generalizing ds with
  | nil =>
      rw [of_nil h]
      refine ⟨rfl, fun n hn => ?_⟩
      rw [List.takeWhile_nil, List.length_nil, Nat.le_zero] at hn
      subst hn
      exact ⟨rfl, .nil⟩
  | cons c cs ih =>
      cases holds : p c with
      | true =>
          rcases of_inert h (inert c holds) with ⟨ds, rfl, rest⟩
          rcases ih rest with ⟨same, each⟩
          rw [List.takeWhile_cons_of_pos holds, List.takeWhile_cons_of_pos holds, same]
          refine ⟨rfl, fun n hn => ?_⟩
          cases n with
          | zero => exact ⟨rfl, h⟩
          | succ n =>
              rcases each n (Nat.le_of_succ_le_succ hn) with ⟨before, after⟩
              rw [List.take_succ_cons, List.take_succ_cons, before]
              exact ⟨rfl, after⟩
      | false =>
          have none : ds.takeWhile p = [] := by
            rcases h.head with ⟨empty, -⟩ | ⟨_, _, _, first, rfl, -⟩ | ⟨_, _, _, -, rfl, -⟩
            · cases empty
            · cases first
              exact List.takeWhile_cons_of_neg (Bool.eq_false_iff.mp holds)
            · exact List.takeWhile_cons_of_neg (Bool.eq_false_iff.mp (stops _ rfl))
          rw [List.takeWhile_cons_of_neg (Bool.eq_false_iff.mp holds), none]
          refine ⟨rfl, fun n hn => ?_⟩
          rw [List.length_nil, Nat.le_zero] at hn
          subst hn
          exact ⟨rfl, h⟩

end Escapes

/-! ### Readers -/

/-- What is left of a body and of one with more escaped, once something was read. -/
structure Behind (cs rest rest' : List Char) : Prop where
  escapes : Escapes rest rest'
  le : rest.length ≤ cs.length

/-- If a reader succeeds, then another does, and the results are related. -/
def Leads {α β : Type} (R : α → β → Prop) (x : Except Flaw α) (y : Except Flaw β) : Prop :=
  ∀ a, x = .ok a → ∃ b, y = .ok b ∧ R a b

/-- The same is read, and what is left of both bodies is the same. -/
def SameBehind {α : Type} (cs : List Char) (u v : α × List Char) : Prop :=
  u.1 = v.1 ∧ Behind cs u.2 v.2

namespace Behind

variable {cs rest rest' rest₂ rest₂' : List Char}

theorem refl (h : Escapes cs ds) : Behind cs cs ds :=
  ⟨h, Nat.le_refl _⟩

theorem trans (first : Behind cs rest rest') (second : Behind rest rest₂ rest₂') :
    Behind cs rest₂ rest₂' :=
  ⟨second.escapes, Nat.le_trans second.le first.le⟩

theorem same {α : Type} {u v : α × List Char} (first : Behind cs rest rest')
    (second : SameBehind rest u v) : SameBehind cs u v :=
  ⟨second.1, first.trans second.2⟩

theorem cons (behind : Behind cs rest rest') : Behind (c :: cs) rest rest' :=
  ⟨behind.escapes, Nat.le_succ_of_le behind.le⟩

end Behind

section

variable {α β γ δ : Type} {R : α → β → Prop} {S : γ → δ → Prop}

theorem leads_error (flaw : Flaw) (y : Except Flaw β) : Leads R (.error flaw) y := by
  intro a h
  cases h

theorem leads_ok {a : α} {b : β} (related : R a b) : Leads R (.ok a) (.ok b) := by
  intro a' h
  cases h
  exact ⟨b, rfl, related⟩

theorem leads_bind {x : Except Flaw α} {y : Except Flaw β} {f : α → Except Flaw γ}
    {g : β → Except Flaw δ} (first : Leads R x y) (rest : ∀ a b, R a b → Leads S (f a) (g b)) :
    Leads S (x >>= f) (y >>= g) := by
  cases x with
  | error flaw => exact leads_error flaw _
  | ok a =>
      rcases first a rfl with ⟨b, rfl, related⟩
      exact rest a b related

theorem leads_mono {S : α → β → Prop} {x : Except Flaw α} {y : Except Flaw β} (h : Leads R x y)
    (imp : ∀ a b, R a b → S a b) : Leads S x y := by
  intro a gives
  rcases h a gives with ⟨b, gives', related⟩
  exact ⟨b, gives', imp a b related⟩

theorem leads_ite {P : Prop} [Decidable P] {x x' : Except Flaw α} {y y' : Except Flaw β}
    (holds : P → Leads R x y) (fails : ¬ P → Leads R x' y') :
    Leads R (if P then x else x') (if P then y else y') := by
  by_cases h : P
  · rw [if_pos h, if_pos h]
    exact holds h
  · rw [if_neg h, if_neg h]
    exact fails h

end

/-- A bound that allows for one more part is one more than another bound. -/
theorem exists_bound {n m : Nat} (enough : n + 1 ≤ m) : ∃ k, m = k + 1 ∧ n ≤ k :=
  ⟨m - 1, by omega, by omega⟩

/-! ### Numbers -/

theorem digit?_of_mem_variants {base : Nat} (mem : c ∈ variants) : digit? base c = none := by
  simp only [variants, List.mem_cons, List.not_mem_nil, or_false] at mem
  rcases mem with rfl | rfl | rfl | rfl | rfl | rfl <;> exact if_neg (Nat.lt_irrefl base)

/-- The digits of a base are written in no other way. -/
theorem isInert_of_digit? {base : Nat} (digit : (digit? base c).isSome = true) :
    isInert c = true := by
  have apart : variants.any (fun c => (digit? base c).isSome) = false := by
    refine List.any_eq_false.mpr fun c mem => ?_
    rw [digit?_of_mem_variants mem]
    exact Bool.false_ne_true
  exact isInert_of_any apart digit

/-- The first so many characters are all of a kind. -/
theorem take_all_iff {n : Nat} : ((cs.take n).length = n && (cs.take n).all p) = true
    ↔ n ≤ (cs.takeWhile p).length := by
  induction n generalizing cs with
  | zero => simp
  | succ n ih =>
      cases cs with
      | nil => simp
      | cons c cs =>
          cases holds : p c with
          | true =>
              rw [List.takeWhile_cons_of_pos holds, List.length_cons, Nat.succ_le_succ_iff, ← ih]
              simp [holds]
          | false =>
              rw [List.takeWhile_cons_of_neg (Bool.eq_false_iff.mp holds)]
              simp [holds]

theorem behind_drop (h : Escapes cs ds) (inert : ∀ c, p c = true → isInert c = true) {n : Nat}
    (le : n ≤ (cs.takeWhile p).length) :
    ds.take n = cs.take n ∧ Behind cs (cs.drop n) (ds.drop n) := by
  rcases (h.stretch inert).2 n le with ⟨same, rest⟩
  refine ⟨same, rest, ?_⟩
  rw [List.length_drop]
  exact Nat.sub_le _ _

/-- Hexadecimal digits are read from both bodies, or from neither. -/
theorem hex?_rel (h : Escapes cs ds) (width : Nat) :
    Option.Rel (SameBehind cs) (hex? width cs) (hex? width ds) := by
  have inert : ∀ c, (digit? 16 c).isSome = true → isInert c = true := fun _ => isInert_of_digit?
  rw [hex?, hex?]
  simp only [take_all_iff, (h.stretch inert).1]
  by_cases enough : width ≤ (cs.takeWhile fun c => (digit? 16 c).isSome).length
  · rcases behind_drop h inert enough with ⟨same, behind⟩
    rw [if_pos enough, if_pos enough, same]
    exact .some ⟨rfl, behind⟩
  · rw [if_neg enough, if_neg enough]
    exact .none

/-- The same number in the base eight is read from both bodies. -/
theorem octal_same (h : Escapes cs ds) : SameBehind cs (octal cs) (octal ds) := by
  have inert : ∀ c, (digit? 8 c).isSome = true → isInert c = true := fun _ => isInert_of_digit?
  rw [octal, octal, (h.stretch inert).1]
  refine ⟨rfl, (behind_drop h inert ?_).2⟩
  split
  · exact List.length_take_le' _ _
  · exact Nat.le_trans (List.length_take_le' _ _) (List.length_take_le' _ _)

/-! ### Escapes -/

theorem shows_of_inert (shows : Shows c shown) (inert : isInert c = true) : shown = [c] := by
  rcases shows with rfl | named
  · rfl
  · rw [(isInert_iff.mp inert).2.2] at named
    cases named

/-- A stretch of inert characters is in front of both. -/
theorem Escapes.of_append (front : List Char) (h : Escapes (front ++ cs) ds)
    (inert : front.all isInert = true) : ∃ ds', ds = front ++ ds' ∧ Escapes cs ds' := by
  induction front generalizing ds with
  | nil => exact ⟨ds, rfl, h⟩
  | cons c front ih =>
      rw [List.all_cons, Bool.and_eq_true] at inert
      rcases h.of_inert inert.1 with ⟨ds', rfl, rest⟩
      rcases ih rest inert.2 with ⟨ds', rfl, rest'⟩
      exact ⟨ds', rfl, rest'⟩

/-- A front of no backslashes was already there. -/
theorem Escapes.of_append_other (front : List Char) (h : Escapes cs (front ++ ds))
    (other : '\\' ∉ front) : ∃ cs', cs = front ++ cs' ∧ Escapes cs' ds := by
  induction front generalizing cs with
  | nil => exact ⟨cs, rfl, h⟩
  | cons c front ih =>
      rw [List.mem_cons, not_or] at other
      rcases h.of_other (Ne.symm other.1) with ⟨cs', rfl, rest⟩
      rcases ih rest other.2 with ⟨cs', rfl, rest'⟩
      exact ⟨cs', rfl, rest'⟩

/-- A front of no backslashes that was not there is not there now. -/
theorem Escapes.ne_append (front : List Char) (h : Escapes cs ds)
    (other : '\\' ∉ front) (absent : ∀ rest, cs ≠ front ++ rest) (rest : List Char) :
    ds ≠ front ++ rest := by
  rintro rfl
  rcases h.of_append_other front other with ⟨cs', same, -⟩
  exact absent cs' same

theorem Escapes.ne_nil (h : Escapes cs ds) (some : cs ≠ []) : ds ≠ [] := by
  rintro rfl
  exact some h.eq_nil

/-- The character of four digits, or of eight digits behind two letters `u`, if that is
    what they are. -/
def joined (strict : Bool) (high : Nat) (rest : List Char) : Nat × List Char :=
  match rest with
  | '\\' :: 'u' :: more =>
    match hex? 4 more with
    | some (low, after) =>
      if strict && 0xD800 ≤ high && high < 0xDC00 && 0xDC00 ≤ low && low < 0xE000 then
        (0x10000 + (high - 0xD800) * 0x400 + (low - 0xDC00), after)
      else (high, rest)
    | none => (high, rest)
  | _ => (high, rest)

theorem joined_eq_self {strict : Bool} {high : Nat} {rest : List Char}
    (other : ∀ more, rest ≠ '\\' :: 'u' :: more) : joined strict high rest = (high, rest) := by
  unfold joined
  split
  · next more => exact absurd rfl (other more)
  · rfl

theorem unicode?_eq (strict : Bool) (noBrace : ∀ body, cs ≠ '\x7b' :: body) :
    unicode? strict cs = (hex? 4 cs).map fun u => joined strict u.1 u.2 := by
  rw [unicode?]
  · cases hex? 4 cs with
    | none => rfl
    | some u =>
        rcases u with ⟨high, rest⟩
        simp only [Option.map_some, Option.bind_eq_bind, Option.bind_some]
        split
        · next more =>
            simp only [joined]
            cases hex? 4 more with
            | none => rfl
            | some v => exact (apply_ite some _ _ _).symm
        · next other => exact congrArg some (joined_eq_self other).symm
  · exact noBrace

/-- A text up to the first character of a kind, and that character. -/
theorem exists_closing (short : (cs.takeWhile p).length < cs.length) :
    ∃ c, p c = false
      ∧ cs = cs.takeWhile p ++ c :: cs.drop ((cs.takeWhile p).length + 1) := by
  induction cs with
  | nil => exact absurd short (Nat.lt_irrefl _)
  | cons c cs ih =>
      cases holds : p c with
      | false =>
          rw [List.takeWhile_cons_of_neg (Bool.eq_false_iff.mp holds)]
          exact ⟨c, holds, rfl⟩
      | true =>
          rw [List.takeWhile_cons_of_pos holds] at short ⊢
          rcases ih (Nat.lt_of_succ_lt_succ short) with ⟨d, closes, split⟩
          exact ⟨d, closes, congrArg (c :: ·) split⟩

theorem unicode?_brace_iff {strict : Bool} {body rest : List Char} {n : Nat} :
    unicode? strict ('\x7b' :: body) = some (n, rest) ↔ strict = true ∧ ∃ digits,
      body = digits ++ '\x7d' :: rest ∧ digits ≠ [] ∧ (∀ c ∈ digits, (digit? 16 c).isSome = true)
        ∧ valueOf 16 digits < 0x110000 ∧ valueOf 16 digits = n := by
  rw [unicode?]
  constructor
  · intro reads
    split at reads
    · next all =>
        simp only [Bool.and_eq_true, decide_eq_true_eq, List.all_eq_true] at all
        rcases all with ⟨⟨⟨⟨strict, filled⟩, digits⟩, small⟩, closed⟩
        rcases exists_closing closed with ⟨c, closes, split⟩
        cases reads
        rw [of_decide_eq_false closes |> not_not.mp] at split
        exact ⟨strict, _, split, filled, digits, small, rfl⟩
    · cases reads
  · rintro ⟨rfl, digits, rfl, filled, all, small, rfl⟩
    have inside : ∀ c ∈ digits, decide (c ≠ '\x7d') = true := by
      intro c hc
      refine decide_eq_true fun same => ?_
      have digit := all c hc
      rw [same] at digit
      exact absurd digit (by decide)
    have whole : (digits ++ '\x7d' :: rest).takeWhile (fun c => decide (c ≠ '\x7d')) = digits := by
      rw [List.takeWhile_append_of_pos inside]
      exact List.append_nil digits
    have closed : digits.length < (digits ++ '\x7d' :: rest).length := by
      rw [List.length_append, List.length_cons]
      omega
    have left : (digits ++ '\x7d' :: rest).drop (digits.length + 1) = rest := by
      rw [← List.drop_drop, List.drop_left]
      rfl
    rw [whole, left, if_pos]
    simp only [Bool.and_eq_true, decide_eq_true_eq, List.all_eq_true]
    exact ⟨⟨⟨⟨trivial, filled⟩, all⟩, small⟩, closed⟩

theorem mem_of_lineBreak? {name : List Char} (named : lineBreak? c = some name) :
    c ∈ ['\n', '\r', '\u2028', '\u2029'] := by
  by_contra absent
  simp only [List.mem_cons, List.not_mem_nil, or_false, not_or] at absent
  rcases absent with ⟨feed, carriage, line, paragraph⟩
  simp only [lineBreak?, feed, carriage, line, paragraph, if_false] at named
  cases named

/-- What a line break is written as. -/
theorem lineBreak?_cases {name : List Char} (found : lineBreak? c = some name) :
    name ∈ [['n'], ['r'], "u2028".toList, "u2029".toList] := by
  unfold lineBreak? at found
  split at found
  · cases found
    decide
  split at found
  · cases found
    decide
  split at found
  · cases found
    decide
  split at found
  · cases found
    decide
  · cases found

/-- The name of a line break is no second half of a character. -/
theorem joined_name {strict : Bool} {high : Nat} {name : List Char}
    (named : lineBreak? c = some name) (rest : List Char) :
    joined strict high ('\\' :: (name ++ rest)) = (high, '\\' :: (name ++ rest)) := by
  have mem := lineBreak?_cases named
  simp only [List.mem_cons, List.not_mem_nil, or_false] at mem
  rcases mem with rfl | rfl | rfl | rfl
  · rfl
  · rfl
  · have digits : hex? 4 ('2' :: '0' :: '2' :: '8' :: rest) = some (0x2028, rest) := rfl
    change joined strict high ('\\' :: 'u' :: '2' :: '0' :: '2' :: '8' :: rest) = _
    rw [joined, digits]
    simp
  · have digits : hex? 4 ('2' :: '0' :: '2' :: '9' :: rest) = some (0x2029, rest) := rfl
    change joined strict high ('\\' :: 'u' :: '2' :: '0' :: '2' :: '9' :: rest) = _
    rw [joined, digits]
    simp

/-- What stands behind a backslash is the letter `u` only if it is there in both bodies,
    or the name of a line break. -/
theorem joined_shown {strict : Bool} {high : Nat} (shows : Shows c shown) (letter : c ≠ 'u')
    (rest : List Char) :
    joined strict high ('\\' :: (shown ++ rest)) = (high, '\\' :: (shown ++ rest)) := by
  rcases shows with rfl | named
  · exact joined_eq_self fun more same => letter (List.cons.inj (List.cons.inj same).2).1
  · exact joined_name named rest

theorem joined_marked {strict : Bool} {high : Nat} (marks : Marks c shown) (rest : List Char) :
    joined strict high ('\\' :: (shown ++ rest)) = (high, '\\' :: (shown ++ rest)) := by
  rcases marks with ⟨-, rfl⟩ | named
  · rfl
  · exact joined_name named rest

/-- What is joined to four digits is the same in both bodies. -/
theorem joined_same (h : Escapes cs ds) (strict : Bool) (high : Nat) :
    SameBehind cs (joined strict high cs) (joined strict high ds) := by
  have self : SameBehind cs (high, cs) (high, ds) := ⟨rfl, .refl h⟩
  cases h with
  | nil => exact self
  | last => exact self
  | plain other rest =>
      rw [joined_eq_self fun more same => other (List.cons.inj same).1,
        joined_eq_self fun more same => other (List.cons.inj same).1]
      exact self
  | @pair c shown cs ds shows rest =>
      -- Only the letter `u` behind a backslash can go on with the second half.
      by_cases letter : c = 'u'
      · subst letter
        rw [shows_of_inert shows (by decide)] at self ⊢
        have same := hex?_rel rest 4
        simp only [joined, List.singleton_append] at self ⊢
        generalize hex? 4 cs = x at same
        generalize hex? 4 ds = y at same
        cases same with
        | none => exact self
        | @some u v same =>
            rcases u with ⟨low, after⟩
            rcases v with ⟨low', after'⟩
            rcases same with ⟨number, behind⟩
            have number : low = low' := number
            subst number
            dsimp only
            split
            · exact ⟨rfl, behind.cons.cons⟩
            · exact self
      · rw [joined_shown shows letter,
          joined_eq_self fun more same => letter (List.cons.inj (List.cons.inj same).2).1]
        exact self
  | fresh marks rest =>
      rw [joined_marked marks,
        joined_eq_self fun more same => marks.ne_backslash (List.cons.inj same).1]
      exact self

/-- Where a body does not go on with a brace, a character by its digits is read from both
    bodies or from neither. -/
theorem unicode?_rel (h : Escapes cs ds) (strict : Bool) (noBrace : ∀ body, cs ≠ '\x7b' :: body) :
    Option.Rel (SameBehind cs) (unicode? strict cs) (unicode? strict ds) := by
  have noBrace' : ∀ body, ds ≠ '\x7b' :: body := by
    rintro body rfl
    rcases h.of_other (by decide) with ⟨cs', rfl, -⟩
    exact noBrace cs' rfl
  rw [unicode?_eq strict noBrace, unicode?_eq strict noBrace']
  have same := hex?_rel h 4
  generalize hex? 4 cs = x at same
  generalize hex? 4 ds = y at same
  cases same with
  | none => exact .none
  | @some u v same =>
      rcases same with ⟨number, behind⟩
      refine .some ?_
      dsimp only
      rw [number]
      exact behind.same (joined_same behind.escapes strict v.1)

/-- A character by its digits is read from both bodies. What is no such character is none
    in the other body either, as far as the loose grammar goes. -/
theorem unicode?_cases (h : Escapes cs ds) (strict : Bool) :
    (∃ u v, unicode? strict cs = some u ∧ unicode? strict ds = some v ∧ SameBehind cs u v)
      ∨ unicode? strict cs = none ∧ (strict = false → unicode? strict ds = none) := by
  by_cases brace : ∃ body, cs = '\x7b' :: body
  · rcases brace with ⟨body, rfl⟩
    rcases h.of_inert (by decide) with ⟨body', rfl, inner⟩
    cases reads : unicode? strict ('\x7b' :: body) with
    | none =>
        refine .inr ⟨rfl, ?_⟩
        rintro rfl
        rfl
    | some u =>
        rcases u with ⟨n, rest⟩
        rcases unicode?_brace_iff.mp reads with ⟨rfl, digits, rfl, filled, all, small, value⟩
        have inert : digits.all isInert = true :=
          List.all_eq_true.mpr fun c hc => isInert_of_digit? (all c hc)
        rcases inner.of_append digits inert with ⟨_, rfl, closing⟩
        rcases closing.of_inert (by decide) with ⟨rest', rfl, behind⟩
        refine .inl ⟨_, (n, rest'), rfl, ?_, rfl, behind, ?_⟩
        · exact unicode?_brace_iff.mpr ⟨rfl, digits, rfl, filled, all, small, value⟩
        · simp only [List.length_cons, List.length_append]
          omega
  · have rel := unicode?_rel h strict fun body same => brace ⟨body, same⟩
    generalize unicode? strict cs = x at rel
    generalize unicode? strict ds = y at rel
    cases rel with
    | none => exact .inr ⟨rfl, fun _ => rfl⟩
    | @some u v same => exact .inl ⟨u, v, rfl, rfl, same⟩

theorem joined_of_low {strict : Bool} {high : Nat} (low : high < 0xD800) (rest : List Char) :
    joined strict high rest = (high, rest) := by
  unfold joined
  split
  · split
    · simp only [Nat.not_le.mpr low, decide_false, Bool.and_false, Bool.false_and,
        Bool.false_eq_true, if_false]
    · rfl
  · rfl

/-- A line break by its number. -/
theorem unicode?_line (strict : Bool) (rest : List Char) :
    unicode? strict ('2' :: '0' :: '2' :: '8' :: rest) = some (0x2028, rest)
      ∧ unicode? strict ('2' :: '0' :: '2' :: '9' :: rest) = some (0x2029, rest) := by
  have line : hex? 4 ('2' :: '0' :: '2' :: '8' :: rest) = some (0x2028, rest) := rfl
  have paragraph : hex? 4 ('2' :: '0' :: '2' :: '9' :: rest) = some (0x2029, rest) := rfl
  have noBrace : ∀ cs body, '2' :: cs ≠ '\x7b' :: body :=
    fun _ _ same => absurd (List.cons.inj same).1 (by decide)
  rw [unicode?_eq strict (noBrace _), unicode?_eq strict (noBrace _), line, paragraph]
  exact ⟨congrArg some (joined_of_low (show 0x2028 < 0xD800 by decide) rest),
    congrArg some (joined_of_low (show 0x2029 < 0xD800 by decide) rest)⟩

/-- The name of a line break behind a backslash is the line break. -/
theorem escape_name (s : Survey) (inClass : Bool) {name : List Char}
    (named : lineBreak? c = some name) (rest : List Char) :
    escape s inClass (name ++ rest) = .ok (c.toNat, rest) := by
  have line := unicode?_line s.strict rest
  unfold lineBreak? at named
  split at named
  · next same =>
      subst same
      cases named
      rfl
  split at named
  · next same =>
      subst same
      cases named
      rfl
  split at named
  · next same =>
      subst same
      cases named
      change escape s inClass ('u' :: '2' :: '0' :: '2' :: '8' :: rest) = _
      simp [escape, line.1]
  split at named
  · next same =>
      subst same
      cases named
      change escape s inClass ('u' :: '2' :: '0' :: '2' :: '9' :: rest) = _
      simp [escape, line.2]
  · cases named

/-- A line break behind a backslash has no meaning but itself. -/
theorem escape_lineBreak {s : Survey} {inClass : Bool} {name : List Char}
    (named : lineBreak? c = some name) :
    escape s inClass (c :: cs)
      = if s.strict then .error .wrongEscape else .ok (c.toNat, cs) := by
  have mem := mem_of_lineBreak? named
  rcases s with ⟨mode, captures, namesGroups⟩
  simp only [List.mem_cons, List.not_mem_nil, or_false] at mem
  rcases mem with rfl | rfl | rfl | rfl <;> cases mode <;> cases inClass <;> rfl

/-- The first characters are digits in both bodies, or in neither. -/
theorem headD_isDigit (h : Escapes cs ds) :
    (ds.headD ' ').isDigit = (cs.headD ' ').isDigit := by
  rcases h.head with ⟨rfl, rfl⟩ | ⟨_, _, _, rfl, rfl, -⟩ | ⟨c, _, _, rfl, rfl, other⟩
  · rfl
  · rfl
  · have mem := mem_variants other
    simp only [variants, List.mem_cons, List.not_mem_nil, or_false] at mem
    rcases mem with rfl | rfl | rfl | rfl | rfl | rfl <;> rfl

/-- What a backslash makes of the letter of control characters. -/
theorem escape_control (h : Escapes cs ds) (s : Survey) (inClass : Bool) :
    Leads (SameBehind ('c' :: cs)) (escape s inClass ('c' :: cs))
      (escape s inClass ('c' :: ds)) := by
  have itself : Leads (SameBehind ('c' :: cs)) (.ok ('\\'.toNat, 'c' :: cs))
      (.ok ('\\'.toNat, 'c' :: ds)) := leads_ok ⟨rfl, .refl (.plain (by decide) h)⟩
  have strange : Leads (SameBehind ('c' :: cs))
      (if s.strict then .error .wrongUnicodeEscape else .ok ('\\'.toNat, 'c' :: cs))
      (if s.strict then .error .wrongUnicodeEscape else .ok ('\\'.toNat, 'c' :: ds)) :=
    leads_ite (fun _ => leads_error _ _) fun _ => itself
  rcases h.head with ⟨rfl, rfl⟩ | ⟨letter, cs, ds, rfl, rfl, -, rest⟩ | ⟨c, _, _, rfl, rfl, other⟩
  · exact strange
  · have given (n : Nat) : Leads (SameBehind ('c' :: letter :: cs)) (.ok (n, cs)) (.ok (n, ds)) :=
      leads_ok ⟨rfl, (Behind.refl rest).cons.cons⟩
    change Leads _ (if letter.isAlpha then _ else if s.strict then _ else if _ then _ else _)
      (if letter.isAlpha then _ else if s.strict then _ else if _ then _ else _)
    refine leads_ite (fun _ => given _) fun _ => ?_
    refine leads_ite (fun _ => leads_error _ _) fun _ => ?_
    exact leads_ite (fun _ => given _) fun _ => itself
  · have mem := mem_variants other
    simp only [variants, List.mem_cons, List.not_mem_nil, or_false] at mem
    rcases mem with rfl | rfl | rfl | rfl | rfl | rfl <;> cases inClass <;> exact strange

/-- What a backslash makes of a character that is the same in both bodies. -/
theorem escape_plain (h : Escapes cs ds) (s : Survey) (inClass : Bool) :
    Leads (SameBehind (c :: cs)) (escape s inClass (c :: cs)) (escape s inClass (c :: ds)) := by
  have behind : Behind (c :: cs) cs ds := (Behind.refl h).cons
  have given (n : Nat) : Leads (SameBehind (c :: cs)) (.ok (n, cs)) (.ok (n, ds)) :=
    leads_ok ⟨rfl, behind⟩
  by_cases control : c = 'c'
  · subst control
    exact escape_control h s inClass
  -- One step for each character that means something behind a backslash, in order.
  unfold escape
  refine leads_ite (fun _ => given _) fun _ => ?_
  refine leads_ite (fun _ => given _) fun _ => ?_
  refine leads_ite (fun _ => given _) fun _ => ?_
  refine leads_ite (fun _ => given _) fun _ => ?_
  refine leads_ite (fun _ => given _) fun _ => ?_
  rw [if_neg control, if_neg control, headD_isDigit h]
  refine leads_ite (fun _ => given _) fun _ => ?_
  refine leads_ite (fun digit => ?_) fun _ => ?_
  · refine leads_ite (fun _ => leads_error _ _) fun _ => leads_ok (octal_same (.plain ?_ h))
    rintro rfl
    exact absurd digit (by decide)
  refine leads_ite (fun _ => ?_) fun _ => ?_
  · have same := hex?_rel h 2
    generalize hex? 2 cs = x at same
    generalize hex? 2 ds = y at same
    cases same with
    | none => exact leads_ite (fun _ => leads_error _ _) fun _ => given _
    | some same => exact leads_ok (behind.same same)
  refine leads_ite (fun _ => ?_) fun _ => ?_
  · rcases unicode?_cases h s.strict with ⟨u, v, reads, reads', same⟩ | ⟨reads, loose⟩
    · rw [reads, reads']
      exact leads_ok (behind.same same)
    · rw [reads]
      cases strict : s.strict with
      | true => exact leads_error _ _
      | false =>
          rw [strict] at loose
          rw [loose rfl]
          exact given _
  refine leads_ite (fun _ => ?_) fun _ => ?_
  · exact leads_ite (fun _ => given _) fun _ => leads_error _ _
  · exact leads_ite (fun _ => leads_error _ _) fun _ => given _

/-- What stands behind a backslash is read from both bodies. -/
theorem escape_leads (shows : Shows c shown) (h : Escapes cs ds) (s : Survey) (inClass : Bool) :
    Leads (SameBehind (c :: cs)) (escape s inClass (c :: cs))
      (escape s inClass (shown ++ ds)) := by
  rcases shows with rfl | named
  · exact escape_plain h s inClass
  · rw [escape_lineBreak named, escape_name s inClass named]
    cases s.strict with
    | true => exact leads_error _ _
    | false => exact leads_ok ⟨rfl, (Behind.refl h).cons⟩

/-- What a new backslash was put in front of is still the same character. -/
theorem escape_marked (marks : Marks c shown) (s : Survey) (inClass : Bool) :
    escape s inClass (shown ++ ds) = .ok (c.toNat, ds) := by
  rcases marks with ⟨rfl, rfl⟩ | named
  · rcases s with ⟨mode, captures, named⟩
    cases mode <;> cases inClass <;> rfl
  · exact escape_name s inClass named ds

end Pattern

end Stencil
