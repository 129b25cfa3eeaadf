import Mathlib.Data.UInt

/- Unsigned machine arithmetic that stops where it overflows. -/
namespace Checked

variable {width a b : Nat}

def add (width a b : Nat) : Option Nat := if a + b < 2 ^ width then some (a + b) else none

def sub (a b : Nat) : Option Nat := if b ≤ a then some (a - b) else none

def mul (width a b : Nat) : Option Nat := if a * b < 2 ^ width then some (a * b) else none

def div (a b : Nat) : Option Nat := if b = 0 then none else some (a / b)

def rem (a b : Nat) : Option Nat := if b = 0 then none else some (a % b)

def shl (width a b : Nat) : Option Nat :=
  if b < width then some (a * 2 ^ b % 2 ^ width) else none

theorem add_of_lt (fits : a + b < 2 ^ width) : add width a b = some (a + b) := if_pos fits

theorem sub_of_le (le : b ≤ a) : sub a b = some (a - b) := if_pos le

theorem mul_of_lt (fits : a * b < 2 ^ width) : mul width a b = some (a * b) := if_pos fits

theorem div_of_pos (positive : 0 < b) : div a b = some (a / b) := if_neg (Nat.ne_of_gt positive)

theorem rem_of_pos (positive : 0 < b) : rem a b = some (a % b) := if_neg (Nat.ne_of_gt positive)

theorem shl_one_of_lt (small : b < width) : shl width 1 b = some (2 ^ b) := by
  rw [shl, if_pos small, Nat.one_mul, Nat.mod_eq_of_lt (Nat.pow_lt_pow_right (by decide) small)]

end Checked
