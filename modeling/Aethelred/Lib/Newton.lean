import Mathlib.Algebra.BigOperators.Intervals
import Mathlib.Algebra.Order.BigOperators.Group.Finset
import Mathlib.Tactic.Ring
import Mathlib.Tactic.Linarith
import Mathlib.Data.UInt

/- Sums of a function over consecutive integers, against sums that look at it once every so many
steps. -/
namespace StepSum

open Finset Nat

variable {f : Int → Int} {s : Int}

def total (f : Int → Int) (s : Int) (count : Nat) : Int := ∑ j ∈ range count, f (s + j)

def stepped (f : Int → Int) (s : Int) (size : Nat) : Nat → Int
  | 0 => 0
  | blocks + 1 => f s * size + stepped f (s + size) size blocks

@[simp] theorem total_zero : total f s 0 = 0 := rfl

theorem total_add (count more : Nat) :
    total f s (count + more) = total f s count + total f (s + count) more := by
  unfold total
  rw [sum_range_add]
  congr 1
  refine sum_congr rfl fun j _ => ?_
  rw [cast_add, Int.add_assoc]

theorem total_nonneg (nonneg : ∀ x, s ≤ x → 0 ≤ f x) (count : Nat) : 0 ≤ total f s count :=
  sum_nonneg fun j _ => nonneg _ (by omega)

theorem total_const {value : Int} {count : Nat} (flat : ∀ j < count, f (s + j) = value) :
    total f s count = value * count := by
  unfold total
  rw [sum_congr rfl fun j member => flat j (mem_range.mp member)]
  rw [sum_const, card_range, nsmul_eq_mul, mul_comm]

theorem stepped_nonneg (nonneg : ∀ x, s ≤ x → 0 ≤ f x) (size blocks : Nat) :
    0 ≤ stepped f s size blocks := by
  induction blocks generalizing s with
  | zero => exact Int.le_refl 0
  | succ blocks ih =>
    refine Int.add_nonneg (Int.mul_nonneg (nonneg s (Int.le_refl s)) (by omega)) ?_
    exact ih fun x above => nonneg x (by omega)

theorem mul_le_total (grows : ∀ x y, s ≤ x → x ≤ y → f x ≤ f y) (count : Nat) :
    f s * count ≤ total f s count := by
  have below : ∀ j ∈ range count, f s ≤ f (s + j) :=
    fun j _ => grows _ _ (le_refl s) (by omega)
  have sum := card_nsmul_le_sum (range count) (fun j => f (s + j)) (f s) below
  rwa [card_range, nsmul_eq_mul, mul_comm] at sum

theorem stepped_eq_total {size blocks : Nat}
    (flat : ∀ j < blocks * size, f (s + j) = f (s + (j / size * size : Nat))) :
    stepped f s size blocks = total f s (blocks * size) := by
  induction blocks generalizing s with
  | zero => simp [stepped]
  | succ blocks ih =>
    rw [succ_mul, add_comm] at flat
    rw [stepped, succ_mul, add_comm (blocks * size), total_add]
    congr 1
    · refine (total_const fun j inside => ?_).symm
      rw [flat j (by omega), div_eq_of_lt inside]
      simp
    · refine ih fun j inside => ?_
      have shifted := flat (size + j) (by omega)
      have positive : 0 < size := by
        rcases Nat.eq_zero_or_pos size with rfl | positive
        · omega
        · exact positive
      rw [add_comm size j, add_div_right j positive, succ_mul] at shifted
      push_cast at shifted ⊢
      rw [show s + size + j = s + (j + size) by ring, shifted]
      congr 1
      ring

end StepSum

/- Newton's descent to an integer square root, cut off after a number of rounds. Whatever the
cut-off, the result is no less than the root and grows with the radicand. -/
namespace Newton

def next (n x : Nat) : Nat := (x + n / x) / 2

/-- Rounds of `next` for as long as it decreases. -/
def descend (n : Nat) : Nat → Nat → Nat
  | 0, x => x
  | rounds + 1, x => if x ≤ next n x then x else descend n rounds (next n x)

variable {n m x y : Nat}

theorem sqrt_le_next (positive : 0 < x) : n.sqrt ≤ next n x := by
  have root : n.sqrt * n.sqrt ≤ n := Nat.sqrt_le n
  have below : n < (n / x + 1) * x := by
    rw [mul_comm]
    exact Nat.lt_mul_div_succ n positive
  unfold next
  rw [Nat.le_div_iff_mul_le (by decide)]
  by_contra short
  have small : x + n / x + 1 ≤ 2 * n.sqrt := by omega
  -- the square of the mean of two numbers is at least their product
  have product : 4 * ((n / x + 1) * x) ≤ (x + n / x + 1) * (x + n / x + 1) := by
    generalize n / x = q
    rcases le_total x (q + 1) with order | order
    · obtain ⟨d, gap⟩ := Nat.exists_eq_add_of_le order
      rw [gap, add_assoc, gap]
      nlinarith
    · obtain ⟨d, gap⟩ := Nat.exists_eq_add_of_le order
      rw [add_assoc, gap]
      nlinarith
  have square : (x + n / x + 1) * (x + n / x + 1) ≤ (2 * n.sqrt) * (2 * n.sqrt) :=
    Nat.mul_le_mul small small
  nlinarith

theorem next_mono (above : n < x * (x + 1)) (order : x ≤ y) : next n x ≤ next n y := by
  induction y, order using Nat.le_induction with
  | base => exact le_refl _
  | succ z order ih =>
    refine ih.trans (Nat.div_le_div_right ?_)
    have positive : 0 < z := by
      rcases eq_zero_or_pos z with rfl | positive
      · obtain rfl := Nat.le_zero.mp order
        omega
      · exact positive
    have beyond : n < z * (z + 1) :=
      above.trans_le (Nat.mul_le_mul order (Nat.succ_le_succ order))
    have quotient : n / z ≤ z := Nat.lt_succ_iff.mp ((Nat.div_lt_iff_lt_mul positive).mpr
      (by rwa [mul_comm]))
    have split : n / z ≤ n / (z + 1) + 1 := by
      have upper : n < (n / (z + 1) + 1) * (z + 1) := by
        rw [mul_comm]
        exact Nat.lt_mul_div_succ n (Nat.succ_pos z)
      rcases lt_or_ge (n / (z + 1)) (n / z) with drop | same
      · have : n / z * z ≤ n := Nat.div_mul_le_self n z
        nlinarith
      · omega
    omega

theorem next_mono_left (order : n ≤ m) : next n x ≤ next m x :=
  Nat.div_le_div_right (Nat.add_le_add_left (Nat.div_le_div_right order) x)

variable (rounds : Nat)

theorem descend_le : descend n rounds x ≤ x := by
  induction rounds generalizing x with
  | zero => exact le_refl x
  | succ rounds ih =>
    unfold descend
    split
    · exact le_refl x
    next lower => exact ih.trans (Nat.le_of_lt (Nat.lt_of_not_le lower))

theorem sqrt_le_descend (above : n.sqrt ≤ x) : n.sqrt ≤ descend n rounds x := by
  induction rounds generalizing x with
  | zero => exact above
  | succ rounds ih =>
    unfold descend
    split
    · exact above
    next lower => exact ih (sqrt_le_next (Nat.zero_lt_of_lt (Nat.lt_of_not_le lower)))

theorem div_two_pow_le_descend : x / 2 ^ rounds ≤ descend n rounds x := by
  induction rounds generalizing x with
  | zero => simp [descend]
  | succ rounds ih =>
    unfold descend
    split
    · exact Nat.div_le_self x _
    · have halved : x / 2 ≤ next n x := Nat.div_le_div_right (Nat.le_add_right x _)
      calc x / 2 ^ (rounds + 1) = x / 2 / 2 ^ rounds := by
            rw [Nat.pow_succ', Nat.div_div_eq_div_mul]
        _ ≤ next n x / 2 ^ rounds := Nat.div_le_div_right halved
        _ ≤ descend n rounds (next n x) := ih

theorem eq_sqrt_of_le_next (above : n.sqrt ≤ x) (stopped : x ≤ next n x) : x = n.sqrt := by
  rcases eq_zero_or_pos x with rfl | positive
  · exact (Nat.le_zero.mp above).symm
  · refine Nat.le_antisymm (Nat.le_sqrt.mpr ?_) above
    have quotient : x ≤ n / x := by
      unfold next at stopped
      omega
    exact (Nat.le_div_iff_mul_le positive).mp quotient

/-- The descent grows with its radicand and its guess. -/
theorem descend_mono (radicands : n ≤ m) (guesses : x ≤ y) (above : n.sqrt ≤ x)
    (above' : m.sqrt ≤ y) : descend n rounds x ≤ descend m rounds y := by
  induction rounds generalizing x y with
  | zero => exact guesses
  | succ rounds ih =>
    have roots : n.sqrt ≤ m.sqrt := Nat.sqrt_le_sqrt radicands
    by_cases stopped : x ≤ next n x
    · rw [descend, if_pos stopped, eq_sqrt_of_le_next above stopped]
      exact roots.trans (sqrt_le_descend (rounds + 1) above')
    · have lower := Nat.lt_of_not_le stopped
      rw [descend, if_neg stopped, descend]
      split
      · exact (descend_le rounds).trans ((le_of_lt lower).trans guesses)
      next lower' =>
        have positive : 0 < x := Nat.zero_lt_of_lt lower
        refine ih ?_ (sqrt_le_next positive)
          (sqrt_le_next (positive.trans_le guesses))
        refine (next_mono ?_ guesses).trans (next_mono_left radicands)
        -- the descent goes on, so the guess is not the root
        have apart : n.sqrt < x := by
          refine lt_of_le_of_ne above fun equal => ?_
          have := sqrt_le_next (n := n) positive
          omega
        have beyond : n < (n.sqrt + 1) * (n.sqrt + 1) := Nat.lt_succ_sqrt n
        exact beyond.trans_le (Nat.mul_le_mul apart (Nat.le_succ_of_le apart))

end Newton
