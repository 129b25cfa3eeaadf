import Mathlib.Algebra.BigOperators.Group.List.Basic
import Mathlib.Data.UInt

/- Fixed-width signed arithmetic. A value of the language's 64-bit signed type is an
`Int`; each operation computes in `Int` and keeps the low 64 bits. -/
namespace Go.Int64

variable (x : Int)

/-- The signed 64-bit value with the low bits of `x`. -/
def wrap : Int := (x + 2 ^ 63) % 2 ^ 64 - 2 ^ 63

/-- Values the 64-bit signed type has. -/
def Fits : Prop := -2 ^ 63 ≤ x ∧ x < 2 ^ 63

instance : Decidable (Fits x) := inferInstanceAs (Decidable (_ ∧ _))

theorem Fits.zero : Fits 0 := by decide

theorem Fits.one : Fits 1 := by decide

theorem wrap_fits : Fits (wrap x) := by
  unfold Fits wrap
  omega

theorem wrap_of_fits {x : Int} (fits : Fits x) : wrap x = x := by
  unfold Fits at fits
  unfold wrap
  omega

@[simp] theorem wrap_wrap_add (x y : Int) : wrap (wrap x + y) = wrap (x + y) := by
  unfold wrap
  omega

theorem foldl_add_eq_wrap (values : List Int) (start : Int) :
    values.foldl (fun total value => wrap (total + value)) (wrap start) =
      wrap (start + values.sum) := by
  induction values generalizing start with
  | nil => simp
  | cons value rest ih =>
    rw [List.foldl_cons, wrap_wrap_add, ih, List.sum_cons, Int.add_assoc]

end Go.Int64

/-- A value of the 64-bit signed type. -/
@[ext] structure Go.I64 where
  val : Int
  fits : Go.Int64.Fits val
deriving DecidableEq

namespace Go

def I64.ofInt (x : Int) : I64 := ⟨Int64.wrap x, Int64.wrap_fits x⟩

theorem I64.val_ofInt {x : Int} (fits : Int64.Fits x) : (I64.ofInt x).val = x :=
  Int64.wrap_of_fits fits

def len {α : Type} (items : List α) : I64 := I64.ofInt items.length

end Go
