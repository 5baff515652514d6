import Mathlib.Data.Nat.Log
import Mathlib.Tactic.IntervalCases
import Stencil.Proofs.Shells

/-!
# Numbers in Digits

The decimal digits of a number, and the number that they are read as.

Integers that a double holds exactly are written with all their digits, without
a search for shorter ones, and reading these digits gives the integer back. The
double nearest to an integer of at most 53 bits is that integer: the grid on
which it is rounded has steps of at most one, so nothing is rounded.

## Theorems

* `readDigits?_toDigits`: The digits of a number are read as it.
* `indexOf?_indexName`: The index that the name of an index is.
* `Number.ofScientific_ofInt`: The double nearest to an integer.
* `Number.text_ofInt`: The text of an integer.
-/

namespace Stencil

/-! ### Digits -/

theorem readDigits?_of_isDigit {cs : List Char} (digits : ∀ c ∈ cs, c.isDigit = true) (n : Nat) :
    Number.readDigits? 10 n cs = some (Nat.ofDigitChars 10 cs n) := by
  induction cs generalizing n with
  | nil => rfl
  | cons c cs ih =>
      have digit := digits c List.mem_cons_self
      have small : c.toNat - '0'.toNat < 10 := by
        rw [Char.isDigit, Bool.and_eq_true, decide_eq_true_eq, decide_eq_true_eq] at digit
        have upper : c.toNat ≤ 57 := digit.2
        change c.toNat - 48 < 10
        omega
      rw [Number.readDigits?, Number.digitValue?, if_pos digit]
      simp only [small, if_true]
      rw [ih (fun d hd => digits d (List.mem_cons_of_mem c hd)), Nat.ofDigitChars_cons]

/-- The digits of a number are read as it. -/
theorem readDigits?_toDigits (n : Nat) : Number.readDigits? 10 0 (Nat.toDigits 10 n) = some n := by
  rw [readDigits?_of_isDigit fun c hc => Nat.isDigit_of_mem_toDigits (by decide) (by decide) hc,
    Nat.ofDigitChars_ten_toDigits]

/-- Digits have no zero in front, unless there is only one. -/
theorem toDigits_eq_cons (n : Nat) :
    ∃ c cs, Nat.toDigits 10 n = c :: cs ∧ c.isDigit = true ∧ (c = '0' → cs = []) := by
  induction n using Nat.strongRecOn with
  | ind n ih =>
      by_cases small : n < 10
      · refine ⟨n.digitChar, [], Nat.toDigits_of_lt_base small, ?_, fun _ => rfl⟩
        rw [Nat.isDigit_digitChar, decide_eq_true small]
      · rcases ih (n / 10) (by omega) with ⟨c, cs, digits, digit, zero⟩
        refine ⟨c, cs ++ [(n % 10).digitChar], ?_, digit, fun leading => ?_⟩
        · rw [Nat.toDigits_of_base_le (by decide) (by omega), digits, List.cons_append]
        · -- A leading zero would be the only digit, so the rest would be zero.
          have single := zero leading
          subst single leading
          have value := Nat.ofDigitChars_ten_toDigits (n := n / 10)
          rw [digits] at value
          have none : n / 10 = 0 := value.symm
          omega

/-- The index that the name of an index is. -/
theorem indexOf?_indexName (i : Nat) :
    indexOf? (indexName i) = if i < twoTo 32 - 1 then some i else none := by
  rcases toDigits_eq_cons i with ⟨c, cs, digits, digit, zero⟩
  have all : (c :: cs).all Char.isDigit = true := by
    rw [List.all_eq_true, ← digits]
    exact fun d hd => Nat.isDigit_of_mem_toDigits (by decide) (by decide) hd
  have value := readDigits?_toDigits i
  rw [digits] at value
  have canonical : ¬ (c = '0' ∧ cs ≠ []) := fun h => h.2 (zero h.1)
  rw [indexOf?, indexName, String.toList_ofList, digits]
  simp only [canonical, all, value, if_false, if_true]

/-- The digit of a digit's value. -/
theorem digitChar_of_isDigit {c : Char} (digit : c.isDigit = true) :
    (c.toNat - '0'.toNat).digitChar = c ∧ c.toNat - '0'.toNat < 10
      ∧ (c.toNat - '0'.toNat = 0 → c = '0') := by
  rw [Char.isDigit, Bool.and_eq_true, decide_eq_true_eq, decide_eq_true_eq] at digit
  have lower : 48 ≤ c.toNat := digit.1
  have upper : c.toNat ≤ 57 := digit.2
  rw [← Char.ofNat_toNat c]
  generalize c.toNat = n at lower upper
  interval_cases n <;> decide

/-- Digits that are appended to those of a number. -/
theorem toDigits_append_digits {cs : List Char} (digits : ∀ c ∈ cs, c.isDigit = true) {n : Nat}
    (positive : 0 < n) :
    Nat.toDigits 10 (Nat.ofDigitChars 10 cs n) = Nat.toDigits 10 n ++ cs := by
  induction cs generalizing n with
  | nil => rw [Nat.ofDigitChars_nil, List.append_nil]
  | cons c cs ih =>
      rcases digitChar_of_isDigit (digits c List.mem_cons_self) with ⟨back, small, -⟩
      have one : Nat.toDigits 10 (c.toNat - '0'.toNat) = [c] := by
        rw [Nat.toDigits_of_lt_base small, back]
      rw [Nat.ofDigitChars_cons, ih (fun d hd => digits d (List.mem_cons_of_mem c hd)) (by omega),
        ← Nat.toDigits_append_toDigits (by decide) positive small, one, List.append_assoc,
        List.singleton_append]

/-- What is an index is its name. -/
theorem eq_indexName_of_indexOf? {s : String} {i : Nat} (index : indexOf? s = some i) :
    s = indexName i := by
  rw [indexOf?] at index
  split at index
  · cases index
  · next c cs text =>
      split at index
      · cases index
      · next canonical =>
          split at index
          · next all =>
              have digits : ∀ d ∈ c :: cs, d.isDigit = true := List.all_eq_true.mp all
              rw [readDigits?_of_isDigit digits] at index
              simp only at index
              split at index
              · cases index
                rcases digitChar_of_isDigit (digits c List.mem_cons_self) with ⟨back, small, zero⟩
                have one : Nat.toDigits 10 (c.toNat - '0'.toNat) = [c] := by
                  rw [Nat.toDigits_of_lt_base small, back]
                have value : Nat.ofDigitChars 10 (c :: cs) 0
                    = Nat.ofDigitChars 10 cs (c.toNat - '0'.toNat) := by
                  rw [Nat.ofDigitChars_cons, Nat.mul_zero, Nat.zero_add]
                rw [indexName, value, ← String.ofList_toList (s := s), text]
                refine congrArg String.ofList ?_
                by_cases leading : c.toNat - '0'.toNat = 0
                · -- A leading zero is the only digit.
                  have single : cs = [] := by
                    by_contra more
                    exact canonical ⟨zero leading, more⟩
                  rw [single, Nat.ofDigitChars_nil, one]
                · rw [toDigits_append_digits (fun d hd => digits d (List.mem_cons_of_mem c hd))
                    (Nat.pos_of_ne_zero leading), one, List.singleton_append]
              · cases index
          · cases index

/-! ### Integers -/

namespace Number

theorem dyadic_double (negative : Bool) (n : Nat) (e : Int) :
    dyadic negative (n * 2) e = dyadic negative n (e + 1) := by
  by_cases zero : n = 0
  · subst zero
    rfl
  · have even : n * 2 % 2 = 0 := Nat.mul_mod_left n 2
    have half : n * 2 / 2 = n := Nat.mul_div_left n (by decide)
    have size : (n * 2).log2 = n.log2 + 1 := by
      rw [Nat.log2_def, if_pos (by omega), half]
    have nonzero : n * 2 ≠ 0 := by omega
    rw [dyadic, dyadic, if_neg nonzero, if_neg zero, size, splitTwos, if_pos even, half]
    have sum : e + ((splitTwos n.log2 n).2 + 1 : Nat) = e + 1 + (splitTwos n.log2 n).2 := by omega
    simp only [sum]

theorem dyadic_mul_twoTo (negative : Bool) (n k : Nat) (e : Int) :
    dyadic negative (n * twoTo k) e = dyadic negative n (e + k) := by
  induction k generalizing e with
  | zero => rw [twoTo_zero, Nat.mul_one, Int.natCast_zero, Int.add_zero]
  | succ k ih =>
      have sum : e + 1 + (k : Int) = e + (k + 1 : Nat) := by omega
      rw [twoTo_succ, ← Nat.mul_assoc, dyadic_double, ih, sum]

theorem divideNearest_one (n : Nat) : divideNearest n 1 = n := by
  simp [divideNearest, Nat.mod_one]

/-- An integer of at most 53 bits lies on the grid that it is rounded to. -/
theorem gridExponent_one {n : Nat} (positive : n ≠ 0) (safe : n ≤ maxSafe) :
    gridExponent n 1 = (n.log2 : Int) - 52 ∧ n.log2 ≤ 52 := by
  have small : n < 2 ^ 53 := by
    have bound : maxSafe = 2 ^ 53 - 1 := rfl
    omega
  have size : n.log2 < 53 := (Nat.log2_lt positive).mpr small
  have one : Nat.log2 1 = 0 := rfl
  have down : (-((n.log2 : Int) - 53)).toNat = 53 - n.log2 := by omega
  have up : ((n.log2 : Int) - 53).toNat = 0 := by omega
  -- Scaled up, the number has 54 bits.
  have large : ¬ n * twoTo (53 - n.log2) < twoTo 53 := by
    have least : 2 ^ n.log2 ≤ n := Nat.log2_self_le positive
    have whole : 2 ^ n.log2 * 2 ^ (53 - n.log2) = 2 ^ 53 := by
      rw [← Nat.pow_add, Nat.add_sub_cancel' (Nat.le_of_lt size)]
    have scaled := Nat.mul_le_mul_right (2 ^ (53 - n.log2)) least
    rw [whole] at scaled
    exact Nat.not_lt.mpr scaled
  refine ⟨?_, by omega⟩
  rw [gridExponent]
  simp only [one, Int.natCast_zero, Int.sub_zero, down, up, twoTo_zero, Nat.mul_one, Nat.div_one,
    large, if_false]
  omega

/-- The double nearest to an integer of at most 53 bits. -/
theorem nearest_one (negative : Bool) {n : Nat} (safe : n ≤ maxSafe) :
    nearest negative n 1 = dyadic negative n 0 := by
  by_cases zero : n = 0
  · subst zero
    rfl
  · rcases gridExponent_one zero safe with ⟨grid, size⟩
    have down : (-((n.log2 : Int) - 52)).toNat = 52 - n.log2 := by omega
    have up : ((n.log2 : Int) - 52).toNat = 0 := by omega
    have fine : ¬ (971 < (n.log2 : Int) - 52 ∨ ((n.log2 : Int) - 52 = 971
        ∧ twoTo 53 ≤ n * twoTo (52 - n.log2))) := by omega
    have cancel : (n.log2 : Int) - 52 + (52 - n.log2 : Nat) = 0 := by omega
    rw [nearest, if_neg zero, grid]
    simp only [down, up, twoTo_zero, Nat.mul_one, divideNearest_one, fine, if_false]
    rw [dyadic_mul_twoTo, cancel]

/-- The double nearest to an integer, from its sign and its digits. -/
theorem ofScientific_ofInt {i : Int} (safe : i.natAbs ≤ maxSafe) :
    ofScientific (decide (i < 0)) i.natAbs 0 = ofInt i := by
  by_cases zero : i.natAbs = 0
  · rw [ofScientific, if_pos zero, ofInt, dyadic, if_pos zero]
  · have far : ¬ (0 : Int) + i.natAbs.log2 < -1200 := by omega
    have one : tenTo (0 : Int).toNat = 1 := rfl
    have one' : tenTo (-(0 : Int)).toNat = 1 := rfl
    rw [ofScientific, if_neg zero, if_neg (by decide), if_neg far, one, one', Nat.mul_one,
      nearest_one _ safe, ofInt]

/-- An integer is written with all its digits. -/
theorem text_ofInt {i : Int} (safe : i.natAbs ≤ maxSafe) : (ofInt i).text = integerText i := by
  by_cases zero : i = 0
  · subst zero
    decide
  · have nonzero : i.natAbs ≠ 0 := Int.natAbs_ne_zero.mpr zero
    have whole := splitTwos_eq i.natAbs.log2 i.natAbs
    have odd : (splitTwos i.natAbs.log2 i.natAbs).1 ≠ 0 := by
      intro none
      rw [none, Nat.zero_mul] at whole
      exact nonzero whole.symm
    have exponent : (0 : Int) + (splitTwos i.natAbs.log2 i.natAbs).2
        = ((splitTwos i.natAbs.log2 i.natAbs).2 : Nat) := by omega
    have digits : magnitudeText (splitTwos i.natAbs.log2 i.natAbs).1
        (splitTwos i.natAbs.log2 i.natAbs).2 = String.ofList (Nat.toDigits 10 i.natAbs) := by
      rw [magnitudeText, Int.toNat_natCast, whole, if_pos ⟨Int.natCast_nonneg _, safe⟩]
    rw [ofInt, dyadic, if_neg nonzero]
    simp only [exponent]
    rw [text, if_neg odd, digits, integerText]
    by_cases negative : i < 0
    · simp [negative]
    · simp [negative]

end Number

end Stencil
