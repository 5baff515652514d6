/-!
# Positions in Code Units

Positions and lengths of text count 16-bit code units: a character beyond the
basic plane takes two, every other takes one.

A position can fall between the two halves of a character. Texts are
therefore cut and put together as lists of code units, and only the result is
read as characters again. Halves that meet there form a character, whichever
characters they came from.

A slice is given by two positions, either of which may count from the end.
Positions beyond the text are moved to its ends, and a slice that would end
before it starts is empty.

## Main definitions

* `units`: The length of a text.
* `codeUnits`, `ofCodeUnits`: A text as code units, and back.
* `slice`: The code units between two positions.

## Theorems

* `length_codeUnits`: The length of a text is the number of its code units.
* `slice_codeUnits`: The slice between the ends of a part of a text is that
  part.
* `ofCodeUnits_codeUnits`: Reading the code units of a text gives the text
  back.
* `units_ofCodeUnits`: Reading code units keeps their number.
-/

namespace Stencil

/-- How many code units a character takes. -/
def unitsOf (c : Char) : Nat :=
  if c.toNat < 0x10000 then 1 else 2

/-- The length of a text in code units. -/
def units : List Char → Nat
  | [] => 0
  | c :: cs => unitsOf c + units cs

/-- The code units of a character: itself, or else two halves of ten bits
    each. -/
def halves (c : Char) : List Nat :=
  if c.toNat < 0x10000 then [c.toNat]
  else [0xD800 + (c.toNat - 0x10000) / 0x400, 0xDC00 + (c.toNat - 0x10000) % 0x400]

/-- The code units of a text. -/
def codeUnits : List Char → List Nat
  | [] => []
  | c :: cs => halves c ++ codeUnits cs

/-- Whether a code unit is the first half of a character. -/
def isHighHalf (u : Nat) : Bool :=
  0xD800 ≤ u && u < 0xDC00

/-- Whether a code unit is the second half of a character. -/
def isLowHalf (u : Nat) : Bool :=
  0xDC00 ≤ u && u < 0xE000

/-- The character of a code unit that stands alone; the replacement character
    for a lone half. -/
def loneUnit (u : Nat) : Char :=
  if isHighHalf u || isLowHalf u then '\ufffd' else Char.ofNat u

/-- The character that two halves form. -/
def joinHalves (high low : Nat) : Char :=
  Char.ofNat (0x10000 + (high - 0xD800) * 0x400 + (low - 0xDC00))

/-- The text of code units. -/
def ofCodeUnits : List Nat → List Char
  | [] => []
  | [u] => [loneUnit u]
  | u :: v :: rest =>
    if isHighHalf u && isLowHalf v then joinHalves u v :: ofCodeUnits rest
    else loneUnit u :: ofCodeUnits (v :: rest)

/-- A position within a text of a given length; a negative one counts from
    the end. -/
def clampPosition (length : Nat) (position : Int) : Nat :=
  if position < 0 then (length + position).toNat else min position.toNat length

/-- The code units between two positions. -/
def slice (us : List Nat) (start stop : Int) : List Nat :=
  let first := clampPosition us.length start
  let last := clampPosition us.length stop
  (us.drop first).take (last - first)

/-- The code units from a position to the end. -/
def sliceFrom (us : List Nat) (start : Int) : List Nat :=
  us.drop (clampPosition us.length start)

/-! ### Code units and characters -/

theorem length_halves (c : Char) : (halves c).length = unitsOf c := by
  unfold halves unitsOf
  split <;> rfl

/-- The length of a text is the number of its code units. -/
theorem length_codeUnits (cs : List Char) : (codeUnits cs).length = units cs := by
  induction cs with
  | nil => rfl
  | cons c cs ih => simp [codeUnits, units, length_halves, ih]

theorem codeUnits_append (as bs : List Char) :
    codeUnits (as ++ bs) = codeUnits as ++ codeUnits bs := by
  induction as with
  | nil => rfl
  | cons a as ih => simp [codeUnits, ih]

theorem units_append (as bs : List Char) : units (as ++ bs) = units as + units bs := by
  rw [← length_codeUnits, codeUnits_append, List.length_append, length_codeUnits,
    length_codeUnits]

/-- A position that counts from the start is moved back to the end at most. -/
theorem clampPosition_natCast (length n : Nat) : clampPosition length n = min n length := by
  have counted : ¬ ((n : Int) < 0) := by omega
  rw [clampPosition, if_neg counted, Int.toNat_natCast]

/-- The slice between the ends of a part is that part. -/
theorem slice_append (before part after : List Nat) :
    slice (before ++ (part ++ after)) before.length (before ++ part).length = part := by
  have first : min before.length (before ++ (part ++ after)).length = before.length := by
    rw [List.length_append]
    omega
  have last : min (before ++ part).length (before ++ (part ++ after)).length
      = before.length + part.length := by
    simp only [List.length_append]
    omega
  simp only [slice, clampPosition_natCast, first, last]
  rw [List.drop_left, Nat.add_sub_cancel_left, List.take_left]

/-- The slice from the end of a part on is the rest. -/
theorem sliceFrom_append (before after : List Nat) :
    sliceFrom (before ++ after) before.length = after := by
  have start : min before.length (before ++ after).length = before.length := by
    rw [List.length_append]
    omega
  rw [sliceFrom, clampPosition_natCast, start, List.drop_left]

/-- The slice between the ends of a part of a text is that part. -/
theorem slice_codeUnits (before part after : List Char) :
    slice (codeUnits (before ++ (part ++ after))) (units before) (units (before ++ part))
      = codeUnits part := by
  rw [← length_codeUnits, ← length_codeUnits, codeUnits_append, codeUnits_append, codeUnits_append]
  exact slice_append _ _ _

/-- The slice from the end of a part of a text on is the rest. -/
theorem sliceFrom_codeUnits (before after : List Char) :
    sliceFrom (codeUnits (before ++ after)) (units before) = codeUnits after := by
  rw [← length_codeUnits, codeUnits_append]
  exact sliceFrom_append _ _

/-- A character is a number outside the range of halves and below the end of
    the last plane. -/
theorem toNat_valid (c : Char) : c.toNat < 0xD800 ∨ (0xDFFF < c.toNat ∧ c.toNat < 0x110000) := by
  have h := c.valid
  simp only [UInt32.isValidChar, Nat.isValidChar] at h
  exact h

theorem loneUnit_toNat (c : Char) : loneUnit c.toNat = c := by
  have h := toNat_valid c
  have ne : (isHighHalf c.toNat || isLowHalf c.toNat) = false := by
    simp only [isHighHalf, isLowHalf, Bool.or_eq_false_iff, Bool.and_eq_false_iff,
      decide_eq_false_iff_not]
    omega
  simp [loneUnit, ne, Char.ofNat_toNat]

/-- A code unit that is no half stands alone, whatever follows. -/
theorem ofCodeUnits_cons {u : Nat} (h : isHighHalf u = false) (us : List Nat) :
    ofCodeUnits (u :: us) = loneUnit u :: ofCodeUnits us := by
  cases us with
  | nil => simp [ofCodeUnits]
  | cons v rest => simp [ofCodeUnits, h]

theorem ofCodeUnits_halves (c : Char) (us : List Nat) :
    ofCodeUnits (halves c ++ us) = c :: ofCodeUnits us := by
  have valid := toNat_valid c
  by_cases small : c.toNat < 0x10000
  · have single : isHighHalf c.toNat = false := by
      simp only [isHighHalf, Bool.and_eq_false_iff, decide_eq_false_iff_not]
      omega
    simp [halves, small, ofCodeUnits_cons single, loneUnit_toNat]
  · have high : isHighHalf (0xD800 + (c.toNat - 0x10000) / 0x400) = true := by
      simp only [isHighHalf, Bool.and_eq_true, decide_eq_true_eq]
      omega
    have low : isLowHalf (0xDC00 + (c.toNat - 0x10000) % 0x400) = true := by
      simp only [isLowHalf, Bool.and_eq_true, decide_eq_true_eq]
      omega
    have sum : 0x10000 + (0xD800 + (c.toNat - 0x10000) / 0x400 - 0xD800) * 0x400
        + (0xDC00 + (c.toNat - 0x10000) % 0x400 - 0xDC00) = c.toNat := by
      omega
    simp only [halves, small, if_false, List.cons_append, List.nil_append, ofCodeUnits, high, low,
      Bool.and_self, if_true, joinHalves, sum, Char.ofNat_toNat]

/-- Reading the code units of a text gives the text back. -/
theorem ofCodeUnits_codeUnits (cs : List Char) : ofCodeUnits (codeUnits cs) = cs := by
  induction cs with
  | nil => rfl
  | cons c cs ih => rw [codeUnits, ofCodeUnits_halves, ih]

/-! ### The length of what is read -/

theorem lt_of_mem_codeUnits {cs : List Char} {u : Nat} (mem : u ∈ codeUnits cs) : u < 0x10000 := by
  induction cs with
  | nil => cases mem
  | cons c cs ih =>
      have valid := toNat_valid c
      rw [codeUnits, List.mem_append] at mem
      rcases mem with mem | mem
      · unfold halves at mem
        split at mem
        · simp only [List.mem_singleton] at mem
          omega
        · simp only [List.mem_cons, List.not_mem_nil, or_false] at mem
          omega
      · exact ih mem

theorem toNat_ofNat {n : Nat} (valid : n.isValidChar) : (Char.ofNat n).toNat = n := by
  rw [Char.ofNat, dif_pos valid]
  rfl

/-- A code unit that stands alone takes up one, also if it is a half. -/
theorem unitsOf_loneUnit {u : Nat} (small : u < 0x10000) : unitsOf (loneUnit u) = 1 := by
  unfold loneUnit
  split
  · rfl
  · next whole =>
      have valid : u.isValidChar := by
        simp only [isHighHalf, isLowHalf, Bool.or_eq_true, Bool.and_eq_true, decide_eq_true_eq]
          at whole
        simp only [Nat.isValidChar]
        omega
      rw [unitsOf, toNat_ofNat valid, if_pos small]

theorem unitsOf_joinHalves {high low : Nat} (isHigh : isHighHalf high = true)
    (isLow : isLowHalf low = true) : unitsOf (joinHalves high low) = 2 := by
  simp only [isHighHalf, isLowHalf, Bool.and_eq_true, decide_eq_true_eq] at isHigh isLow
  have valid : (0x10000 + (high - 0xD800) * 0x400 + (low - 0xDC00)).isValidChar := by
    simp only [Nat.isValidChar]
    omega
  rw [unitsOf, joinHalves, toNat_ofNat valid, if_neg (by omega)]

/-- Reading code units as characters keeps their number. -/
theorem units_ofCodeUnits {us : List Nat} (small : ∀ u ∈ us, u < 0x10000) :
    units (ofCodeUnits us) = us.length := by
  fun_induction ofCodeUnits us with
  | case1 => rfl
  | case2 u =>
      rw [units, unitsOf_loneUnit (small u List.mem_cons_self), units, List.length_singleton]
  | case3 u v rest joined ih =>
      rw [Bool.and_eq_true] at joined
      have behind := ih fun w hw => small w (List.mem_cons_of_mem u (List.mem_cons_of_mem v hw))
      rw [units, unitsOf_joinHalves joined.1 joined.2, behind, List.length_cons, List.length_cons]
      omega
  | case4 u v rest apart ih =>
      have behind := ih fun w hw => small w (List.mem_cons_of_mem u hw)
      rw [units, unitsOf_loneUnit (small u List.mem_cons_self), behind]
      simp only [List.length_cons]
      omega

end Stencil
