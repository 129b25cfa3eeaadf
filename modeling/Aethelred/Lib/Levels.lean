import Mathlib.Data.UInt

/- A level that is set again and again, where each rise over the last setting counts. -/
namespace Levels

open Nat

def rises (last : Nat) : List Nat → Nat
  | [] => 0
  | level :: rest => level - last + rises level rest

def peak (top : Nat) : List Nat → Nat
  | [] => top
  | level :: rest => peak (max top level) rest

def Unbroken (top last : Nat) : List Nat → Prop
  | [] => True
  | level :: rest => (level ≤ last ∨ last = top) ∧ Unbroken (max top level) level rest

instance decidableUnbroken : ∀ top last levels, Decidable (Unbroken top last levels)
  | _, _, [] => .isTrue trivial
  | top, _, level :: rest =>
    have := decidableUnbroken (max top level) level rest
    inferInstanceAs (Decidable (_ ∧ _))

variable {top last : Nat}

/-- The rises come to the highest setting at least, and to it exactly if none follows a fall. -/
theorem peak_le_and_eq_iff (below : last ≤ top) (levels : List Nat) :
    peak top levels ≤ top + rises last levels ∧
      (top + rises last levels = peak top levels ↔ Unbroken top last levels) := by
  induction levels generalizing top last with
  | nil => exact ⟨le_refl _, iff_of_true rfl trivial⟩
  | cons level rest ih =>
    obtain ⟨least, equal⟩ := ih (le_max_right top level)
    simp only [peak, rises, Unbroken]
    rw [← equal]
    constructor
    · omega
    · constructor
      · intro same
        omega
      · rintro ⟨turn, same⟩
        omega

variable (levels : List Nat)

theorem peak_le_rises : peak 0 levels ≤ rises 0 levels := by
  have least := (peak_le_and_eq_iff (le_refl 0) levels).1
  omega

theorem rises_eq_peak_iff : rises 0 levels = peak 0 levels ↔ Unbroken 0 0 levels := by
  rw [← (peak_le_and_eq_iff (le_refl 0) levels).2, zero_add]

theorem le_peak : top ≤ peak top levels := by
  induction levels generalizing top with
  | nil => exact le_refl _
  | cons level rest ih => exact le_trans (le_max_left _ _) ih

variable {levels : List Nat}

theorem le_peak_of_mem {level : Nat} (member : level ∈ levels) : level ≤ peak top levels := by
  induction levels generalizing top with
  | nil => exact absurd member List.not_mem_nil
  | cons first rest ih =>
    cases member with
    | head => exact le_trans (le_max_right _ _) (le_peak rest)
    | tail _ member => exact ih member

theorem peak_le {bound : Nat} (start : top ≤ bound)
    (each : ∀ level ∈ levels, level ≤ bound) : peak top levels ≤ bound := by
  induction levels generalizing top with
  | nil => exact start
  | cons first rest ih =>
    exact ih (Nat.max_le.mpr ⟨start, each first List.mem_cons_self⟩)
      fun level member => each level (List.mem_cons_of_mem _ member)

end Levels
