import Mathlib.Algebra.BigOperators.Group.List.Basic
import Mathlib.Data.UInt

/- An amount that is shared out by weight, every share rounded down. -/
namespace Apportion

open List Nat

/-- The floor of the share of a weight. -/
def share (amount total weight : Nat) : Nat := amount * weight / total

def shares (amount total : Nat) (weights : List Nat) : List Nat :=
  weights.map (share amount total)

variable (amount : Nat) {total : Nat}

theorem lt_share_mul (positive : 0 < total) (weight : Nat) :
    amount * weight + (if 0 < weight then 1 else 0) ≤
      (share amount total weight + (if 0 < weight then 1 else 0)) * total := by
  have parts := div_add_mod (amount * weight) total
  have rest := mod_lt (amount * weight) positive
  rw [mul_comm total] at parts
  change share amount total weight * total + _ = _ at parts
  split
  · rw [add_mul, one_mul]
    omega
  next zero =>
    rw [Nat.eq_zero_of_not_pos zero, Nat.mul_zero]
    exact zero_le _

theorem sum_shares_mul_le (total : Nat) (weights : List Nat) :
    (shares amount total weights).sum * total ≤ amount * weights.sum := by
  induction weights with
  | nil => exact le_of_eq (zero_mul total)
  | cons weight rest ih =>
    have one : share amount total weight * total ≤ amount * weight := div_mul_le_self _ _
    rw [shares, map_cons, sum_cons, sum_cons, add_mul, mul_add]
    exact Nat.add_le_add one ih

theorem lt_sum_shares_mul (positive : 0 < total) (weights : List Nat) :
    amount * weights.sum + weights.countP (0 < ·) ≤
      ((shares amount total weights).sum + weights.countP (0 < ·)) * total := by
  induction weights with
  | nil => exact zero_le _
  | cons weight rest ih =>
    have one := lt_share_mul amount positive weight
    rw [shares] at ih ⊢
    rw [map_cons, sum_cons, sum_cons, countP_cons]
    simp only [decide_eq_true_eq]
    generalize (if 0 < weight then 1 else 0) = counted at *
    generalize rest.countP (0 < ·) = others at *
    simp only [mul_add, add_mul] at *
    omega

variable {weights : List Nat}

theorem sum_shares_le (within : weights.sum ≤ total) :
    (shares amount total weights).sum ≤ amount := by
  obtain rfl | positive := Nat.eq_zero_or_pos total
  · have none : ∀ share ∈ shares amount 0 weights, share = 0 := by
      intro share member
      obtain ⟨weight, -, rfl⟩ := mem_map.mp member
      exact Nat.div_zero _
    rw [sum_eq_zero none]
    exact zero_le _
  · have scaled := le_trans (sum_shares_mul_le amount total weights)
      (mul_le_mul_left amount within)
    exact Nat.le_of_mul_le_mul_right scaled positive

theorem sum_shares_eq_zero (total : Nat)
    (none : weights.countP (0 < ·) = 0) : (shares amount total weights).sum = 0 := by
  refine sum_eq_zero fun share member => ?_
  obtain ⟨weight, listed, rfl⟩ := mem_map.mp member
  have zero : weight = 0 := by simpa using countP_eq_zero.mp none weight listed
  rw [zero, Apportion.share, Nat.mul_zero, Nat.zero_div]

theorem lt_sum_shares_add (positive : 0 < weights.sum) :
    amount < (shares amount weights.sum weights).sum + weights.countP (0 < ·) := by
  have counted : 0 < weights.countP (0 < ·) := by
    by_contra none
    have zeros : ∀ weight ∈ weights, weight = 0 := by
      intro weight member
      have zero := countP_eq_zero.mp (Nat.eq_zero_of_not_pos none) weight member
      simpa using zero
    exact ne_of_gt positive (sum_eq_zero zeros)
  have scaled := lt_sum_shares_mul amount positive weights
  have more : amount * weights.sum <
      ((shares amount weights.sum weights).sum + weights.countP (0 < ·)) * weights.sum := by
    omega
  exact Nat.lt_of_mul_lt_mul_right more

end Apportion
