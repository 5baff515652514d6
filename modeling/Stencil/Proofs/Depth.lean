import Mathlib.Data.Fintype.Card
import Stencil.Value

/-!
# Depths That Suffice

A recursion along addresses needs no more depth than there are addresses.

Rendering goes from a template to those among its values, and a lookup goes
from an object to its prototype. Both are given an allowance of depth, and the
allowance comes from the size of the store. A store that has grown gives more
of it, so comparing two stores needs to know that the surplus makes no
difference.

Nothing has to be said about cycles for that. Whatever succeeds at some depth
does so at a least one. If that is large, something inside succeeds at one
less and not before, and so on down to depth one. The addresses met on the way
have different least depths, so there are as many of them as the depth of the
first one.

## Theorems

* `exists_at_depth`: There is an address for every depth down to one.
* `succeeds_within`: What succeeds at some depth succeeds at the number of
  addresses.
-/

namespace Stencil

theorem Ref.eq_of_index {r q : Ref} (same : r.index = q.index) : r = q := by
  cases r
  cases q
  exact congrArg Ref.mk same

section

variable {P : Nat → Ref → Prop}

/-- More depth is enough as well. `P n r` says that depth `n` is enough at the
    address `r`. -/
theorem enough_of_le (grow : ∀ n r, P n r → P (n + 1) r) {m n : Nat} (le : m ≤ n) {r : Ref}
    (enough : P m r) : P n r := by
  induction le with
  | refl => exact enough
  | step _ ih => exact grow _ _ ih

/-- Below the least depth that is enough at some address, every depth is the least
    one at another. -/
theorem exists_at_depth
    (inside : ∀ n r, P (n + 2) r → ¬ P (n + 1) r → ∃ q, P (n + 1) q ∧ ¬ P n q) {depth : Nat}
    {r : Ref} (enough : P depth r) (least : ∀ k < depth, ¬ P k r) (k : Nat) (hk : k < depth) :
    ∃ q, P (depth - k) q ∧ ¬ P (depth - k - 1) q := by
  induction k with
  | zero => exact ⟨r, enough, least (depth - 1) (by omega)⟩
  | succ k ih =>
      rcases ih (by omega) with ⟨q, hq, hq'⟩
      have two : depth - k = depth - (k + 1) - 1 + 2 := by omega
      have one : depth - k - 1 = depth - (k + 1) - 1 + 1 := by omega
      have same : depth - (k + 1) = depth - (k + 1) - 1 + 1 := by omega
      rw [two] at hq
      rw [one] at hq'
      rw [same]
      exact inside _ q hq hq'

/-- What succeeds at some depth succeeds at the number of addresses. -/
theorem succeeds_within {bound : Nat} (grow : ∀ n r, P n r → P (n + 1) r)
    (within : ∀ n r, P n r → r.index < bound)
    (inside : ∀ n r, P (n + 2) r → ¬ P (n + 1) r → ∃ q, P (n + 1) q ∧ ¬ P n q)
    {n : Nat} {r : Ref} (enough : P n r) : P bound r := by
  by_contra short
  classical
  have some_depth : ∃ d, P d r := ⟨n, enough⟩
  have least : ∀ k < Nat.find some_depth, ¬ P k r := fun k hk => Nat.find_min some_depth hk
  have deep : bound < Nat.find some_depth := by
    by_contra h
    exact short (enough_of_le grow (Nat.le_of_not_lt h) (Nat.find_spec some_depth))
  have chosen : ∀ k : Fin (bound + 1),
      ∃ q, P (Nat.find some_depth - k) q ∧ ¬ P (Nat.find some_depth - k - 1) q :=
    fun k => exists_at_depth inside (Nat.find_spec some_depth) least k (by omega)
  choose at_ holds fails using chosen
  -- Where an address has two least depths, the greater one would not be least.
  have apart : ∀ j k : Fin (bound + 1), j < k → at_ j ≠ at_ k := by
    intro j k hjk same
    have less : (j : Nat) < k := hjk
    exact fails j (same ▸ enough_of_le grow (by omega) (holds k))
  let f : Fin (bound + 1) → Fin bound := fun k => ⟨(at_ k).index, within _ _ (holds k)⟩
  have injective : Function.Injective f := by
    intro j k hjk
    simp only [f, Fin.mk.injEq] at hjk
    have same : at_ j = at_ k := Ref.eq_of_index hjk
    rcases lt_trichotomy j k with h | h | h
    · exact absurd same (apart j k h)
    · exact h
    · exact absurd same.symm (apart k j h)
  have := Fintype.card_le_of_injective f injective
  simp only [Fintype.card_fin] at this
  omega

end

end Stencil
