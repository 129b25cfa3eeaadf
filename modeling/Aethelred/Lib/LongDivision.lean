import Mathlib.Data.UInt

/- Binary long division, from the highest bit of the dividend down. -/
namespace LongDivision

open Nat

variable {dividend divisor : Nat}

/-- One more bit makes the quotient twice as large, and by one larger where the divisor goes into
the remainder. -/
theorem two_mul_add_div (positive : 0 < divisor) {bit : Nat} (small : bit ≤ 1) (number : Nat) :
    (2 * number + bit) / divisor =
        2 * (number / divisor) + (if divisor ≤ 2 * (number % divisor) + bit then 1 else 0) ∧
      (2 * number + bit) % divisor =
        2 * (number % divisor) + bit -
          (if divisor ≤ 2 * (number % divisor) + bit then divisor else 0) := by
  have parts := div_add_mod number divisor
  have within := mod_lt number positive
  generalize number / divisor = quotient at *
  generalize number % divisor = remainder at *
  have whole : 2 * number + bit = 2 * remainder + bit + divisor * (2 * quotient) := by
    rw [← parts, mul_add, mul_left_comm]
    omega
  rw [whole, add_mul_div_left _ _ positive, add_mul_mod_self_left]
  split
  next goes =>
    have once : (2 * remainder + bit) / divisor = 1 := by
      rw [Nat.div_eq_iff positive]
      omega
    have rest : (2 * remainder + bit) % divisor = 2 * remainder + bit - divisor := by
      rw [mod_eq_sub_mod goes]
      exact mod_eq_of_lt (by omega)
    omega
  next short =>
    have less : 2 * remainder + bit < divisor := Nat.lt_of_not_le short
    rw [div_eq_of_lt less, mod_eq_of_lt less]
    omega

theorem div_two_pow (number position : Nat) :
    number / 2 ^ position = 2 * (number / 2 ^ (position + 1)) + number / 2 ^ position % 2 := by
  rw [Nat.pow_succ, ← Nat.div_div_eq_div_mul]
  omega

/-- The quotient of the bits from `position` on, at their place in a word. -/
def quotient (width dividend divisor position : Nat) : Nat :=
  dividend / 2 ^ position / divisor * 2 ^ position % 2 ^ width

def remainder (dividend divisor position : Nat) : Nat := dividend / 2 ^ position % divisor

variable {width position : Nat}

theorem mul_two_pow_mod_eq_zero (above : width ≤ position) (number : Nat) :
    number * 2 ^ position % 2 ^ width = 0 :=
  Nat.mod_eq_zero_of_dvd (Nat.dvd_mul_left_of_dvd (Nat.pow_dvd_pow 2 above) number)

theorem mul_two_pow_succ_mod_or (within : position < width) (number : Nat) :
    (2 * number + 1) * 2 ^ position % 2 ^ width =
      (number * 2 ^ (position + 1) % 2 ^ width) ||| 2 ^ position := by
  obtain ⟨more, rfl⟩ := Nat.exists_eq_add_of_lt within
  have split : 2 ^ (position + more + 1) = 2 ^ (position + 1) * 2 ^ more := by
    rw [← pow_add]
    congr 1
    omega
  have below : 2 ^ position < 2 ^ (position + 1) := Nat.pow_lt_pow_right (by decide) (by omega)
  have apart : (2 * number + 1) * 2 ^ position = 2 ^ (position + 1) * number + 2 ^ position := by
    rw [pow_succ, add_mul, one_mul, mul_comm 2 number, mul_assoc,
      mul_comm number, mul_comm 2]
  have residue : (2 ^ (position + 1) * number + 2 ^ position) % (2 ^ (position + 1) * 2 ^ more) =
      2 ^ (position + 1) * (number % 2 ^ more) + 2 ^ position := by
    rw [Nat.mod_mul, Nat.mul_add_mod, Nat.mod_eq_of_lt below, Nat.mul_add_div (Nat.two_pow_pos _),
      div_eq_of_lt below, add_zero number, add_comm]
  rw [apart, split, residue, mul_comm number, mul_mod_mul_left]
  exact two_pow_add_eq_or_of_lt below _

/-- One bit of the quotient. -/
theorem quotient_succ (positive : 0 < divisor) :
    quotient width dividend divisor position =
      (if divisor ≤ 2 * remainder dividend divisor (position + 1) + dividend / 2 ^ position % 2 ∧
          position < width then
        quotient width dividend divisor (position + 1) ||| 2 ^ position
      else quotient width dividend divisor (position + 1)) ∧
    remainder dividend divisor position =
      2 * remainder dividend divisor (position + 1) + dividend / 2 ^ position % 2 -
        (if divisor ≤ 2 * remainder dividend divisor (position + 1) +
          dividend / 2 ^ position % 2 then divisor else 0) := by
  have bit : dividend / 2 ^ position % 2 ≤ 1 := by omega
  obtain ⟨whole, rest⟩ := two_mul_add_div positive bit (dividend / 2 ^ (position + 1))
  rw [← div_two_pow] at whole rest
  refine ⟨?_, rest⟩
  unfold quotient
  rw [whole]
  by_cases goes : divisor ≤ 2 * remainder dividend divisor (position + 1) +
      dividend / 2 ^ position % 2
  · rw [if_pos (show _ ≤ 2 * (dividend / 2 ^ (position + 1) % divisor) + _ from goes)]
    by_cases within : position < width
    · rw [if_pos ⟨goes, within⟩]
      exact mul_two_pow_succ_mod_or within _
    · have above : width ≤ position := Nat.le_of_not_lt within
      rw [if_neg fun both => within both.2, mul_two_pow_mod_eq_zero above,
        mul_two_pow_mod_eq_zero (le_succ_of_le above)]
  · rw [if_neg (show ¬_ ≤ 2 * (dividend / 2 ^ (position + 1) % divisor) + _ from goes),
      if_neg fun both => goes both.1, add_zero, pow_succ, mul_comm 2, mul_assoc,
      mul_comm 2]

theorem quotient_zero (width : Nat) :
    quotient width dividend divisor 0 = dividend / divisor % 2 ^ width := by
  rw [quotient, Nat.pow_zero, Nat.div_one, Nat.mul_one]

theorem quotient_of_lt (small : dividend < 2 ^ position) :
    quotient width dividend divisor position = 0 ∧ remainder dividend divisor position = 0 := by
  rw [quotient, remainder, Nat.div_eq_of_lt small, Nat.zero_div, Nat.zero_mul, Nat.zero_mod,
    zero_mod]
  exact ⟨rfl, rfl⟩

end LongDivision
