import Aethelred.Lib.LongDivision
import Aethelred.Lib.Result
import Mathlib.Tactic.Ring

/- `muldiv` of `reward_calculator.rs`: a product of two `u128` values over a third. A step that
overflows panics in a build with overflow checks and wraps in one without. -/
namespace Vault

open Option

abbrev U128 := Fin (2 ^ 128)

namespace U128

section Operations

variable (overflowChecks : Bool) (a b : U128)

def add : Option U128 :=
  if overflowChecks = true ∧ 2 ^ 128 ≤ a.val + b.val then none else some (a + b)

def sub : Option U128 :=
  if overflowChecks = true ∧ a < b then none else some (a - b)

def mul : Option U128 :=
  if overflowChecks = true ∧ 2 ^ 128 ≤ a.val * b.val then none else some (a * b)

/-- `iter().sum()`. -/
def sum : List U128 → Option U128 := List.foldlM (add overflowChecks) 0

/-- A shift by a number of bits below 128. -/
def shr (bits : Nat) : U128 := ⟨a.val >>> bits, by
  rw [Nat.shiftRight_eq_div_pow]
  exact (Nat.div_le_self _ _).trans_lt a.isLt⟩

/-- A shift by a number of bits below 128; the highest ones are lost. -/
def shl (bits : Nat) : U128 := Fin.ofNat _ (a.val <<< bits)

end Operations

section Laws

variable {overflowChecks : Bool} {a b : U128}

theorem add_of_lt (fits : a.val + b.val < 2 ^ 128) : add overflowChecks a b = some (a + b) :=
  if_neg fun overflows => absurd overflows.2 (Nat.not_le_of_lt fits)

theorem val_add_of_lt (fits : a.val + b.val < 2 ^ 128) : (a + b).val = a.val + b.val := by
  rw [Fin.val_add, Nat.mod_eq_of_lt fits]

theorem mul_of_lt (fits : a.val * b.val < 2 ^ 128) : mul overflowChecks a b = some (a * b) :=
  if_neg fun overflows => absurd overflows.2 (Nat.not_le_of_lt fits)

theorem val_mul_of_lt (fits : a.val * b.val < 2 ^ 128) : (a * b).val = a.val * b.val := by
  rw [Fin.val_mul, Nat.mod_eq_of_lt fits]

theorem sub_of_le (le : b ≤ a) : sub overflowChecks a b = some (a - b) :=
  if_neg fun overflows => absurd overflows.2 (Fin.not_lt.mpr le)

@[simp] theorem val_shr (bits : Nat) : (a.shr bits).val = a.val / 2 ^ bits :=
  Nat.shiftRight_eq_div_pow a.val bits

@[simp] theorem val_shl (bits : Nat) : (a.shl bits).val = a.val * 2 ^ bits % 2 ^ 128 := by
  rw [shl, Fin.val_ofNat, Nat.shiftLeft_eq]

/-- The sum, unless it overflows a checked build. -/
theorem foldlM_add (values : List U128) (start : U128) :
    values.foldlM (add overflowChecks) start =
      if overflowChecks = true ∧ 2 ^ 128 ≤ start.val + (values.map (·.val)).sum then none
      else some (Fin.ofNat _ (start.val + (values.map (·.val)).sum)) := by
  induction values generalizing start with
  | nil =>
    have small := start.isLt
    rw [List.foldlM_nil, List.map_nil, List.sum_nil, Nat.add_zero,
      if_neg fun overflows => absurd overflows.2 (Nat.not_le_of_lt small), Fin.ofNat_val_eq_self]
    rfl
  | cons value rest ih =>
    rw [List.foldlM_cons, List.map_cons, List.sum_cons, ← Nat.add_assoc]
    by_cases fits : start.val + value.val < 2 ^ 128
    · rw [add_of_lt fits, bind_eq_bind, bind_some, ih, val_add_of_lt fits]
    · have beyond : 2 ^ 128 ≤ start.val + value.val := Nat.le_of_not_lt fits
      cases overflowChecks with
      | true =>
        rw [add, if_pos ⟨rfl, beyond⟩, if_pos ⟨rfl, beyond.trans (Nat.le_add_right _ _)⟩]
        rfl
      | false =>
        rw [add, if_neg nofun, if_neg nofun, bind_eq_bind, bind_some, ih,
          if_neg nofun]
        congr 1
        apply Fin.ext
        rw [Fin.val_ofNat, Fin.val_ofNat, Fin.val_add, Nat.mod_add_mod]

theorem sum_eq (values : List U128) :
    sum overflowChecks values =
      if overflowChecks = true ∧ 2 ^ 128 ≤ (values.map (·.val)).sum then none
      else some (Fin.ofNat _ (values.map (·.val)).sum) := by
  have whole := @foldlM_add overflowChecks values 0
  rwa [show (0 : U128).val = 0 from rfl, Nat.zero_add] at whole

theorem sum_of_lt {values : List U128} (fits : (values.map (·.val)).sum < 2 ^ 128) :
    sum overflowChecks values = some ⟨(values.map (·.val)).sum, fits⟩ := by
  rw [sum_eq, if_neg fun overflows => absurd overflows.2 (Nat.not_le_of_lt fits)]
  exact congrArg some (Fin.ext (Nat.mod_eq_of_lt fits))

end Laws

end U128

open U128

/-- A pass of the loop of `div_u256_by_u128` at bit `i`. -/
def divStep (hi lo d : U128) (i : Nat) (quotient rem : U128) : U128 × U128 :=
  let remMsb := rem.shr 127
  let bit := if 128 ≤ i then hi.shr (i - 128) &&& 1 else lo.shr i &&& 1
  let rem := rem.shl 1 ||| bit
  if remMsb ≠ 0 ∨ d ≤ rem then
    (if i < 128 then quotient ||| shl 1 i else quotient, rem - d)
  else (quotient, rem)

/-- The passes at the bits below `i`, from the highest one on. -/
def divLoop (hi lo d : U128) : (i : Nat) → (quotient rem : U128) → U128 × U128
  | 0, quotient, rem => (quotient, rem)
  | i + 1, quotient, rem =>
    divLoop hi lo d i (divStep hi lo d i quotient rem).1 (divStep hi lo d i quotient rem).2

/-- `div_u256_by_u128`, which is not called with a divisor of 0. -/
def divU256ByU128 (hi lo d : U128) : U128 :=
  if hi = 0 then lo / d else (divLoop hi lo d 256 0 0).1

/-- The slow path of `muldiv`: the two halves of the product of 256 bits. -/
def wideningMul (overflowChecks : Bool) (a b : U128) : Option (U128 × U128) := do
  let mask : U128 := 0xFFFFFFFFFFFFFFFF
  let aLo := a &&& mask
  let aHi := a.shr 64
  let bLo := b &&& mask
  let bHi := b.shr 64
  let ll ← mul overflowChecks aLo bLo
  let lh ← mul overflowChecks aLo bHi
  let hl ← mul overflowChecks aHi bLo
  let hh ← mul overflowChecks aHi bHi
  let mid ← add overflowChecks (← add overflowChecks (ll.shr 64) (lh &&& mask)) (hl &&& mask)
  let lo := (ll &&& mask) ||| (mid &&& mask).shl 64
  let hi ← add overflowChecks
    (← add overflowChecks (← add overflowChecks hh (lh.shr 64)) (hl.shr 64)) (mid.shr 64)
  return (hi, lo)

def muldiv (overflowChecks : Bool) (a b c : U128) : Option U128 :=
  if c = 0 then some 0
  else if a.val * b.val < 2 ^ 128 then some (a * b / c)
  else do
    let (hi, lo) ← wideningMul overflowChecks a b
    return divU256ByU128 hi lo c

section Division

variable {hi lo d quotient rem : U128}

theorem val_bit (i : Nat) :
    (if 128 ≤ i then hi.shr (i - 128) &&& 1 else lo.shr i &&& 1).val =
      (2 ^ 128 * hi.val + lo.val) / 2 ^ i % 2 := by
  have one : ∀ word : U128, (word &&& 1).val = word.val % 2 := by
    intro word
    rw [Fin.and_val]
    exact Nat.and_one_is_mod word.val
  have small := lo.isLt
  split
  next high =>
    obtain ⟨more, rfl⟩ := Nat.exists_eq_add_of_le high
    have upper : (2 ^ 128 * hi.val + lo.val) / 2 ^ 128 = hi.val := by
      rw [Nat.mul_add_div (by decide), Nat.div_eq_of_lt small, Nat.add_zero]
    rw [one, val_shr, Nat.add_sub_cancel_left, Nat.pow_add, ← Nat.div_div_eq_div_mul, upper]
  next low =>
    obtain ⟨more, split⟩ := Nat.exists_eq_add_of_lt (Nat.lt_of_not_le low)
    have even : 2 ^ 128 * hi.val = 2 ^ i * (2 * (2 ^ more * hi.val)) := by
      have powers : 2 ^ 128 = 2 ^ i * (2 * 2 ^ more) := by
        rw [split, ← Nat.pow_succ', ← Nat.pow_add]
        congr 1
      exact (congrArg (· * hi.val) powers).trans (by rw [Nat.mul_assoc, Nat.mul_assoc])
    rw [one, val_shr, even, Nat.mul_add_div (Nat.two_pow_pos i), Nat.mul_add_mod]

section

variable {bit : U128} (small : bit.val ≤ 1)
include small

theorem val_shl_or :
    (rem.shl 1 ||| bit).val = 2 * rem.val % 2 ^ 128 + bit.val := by
  have half : rem.val * 2 ^ 1 % 2 ^ 128 = 2 ^ 1 * (rem.val % 2 ^ 127) := by
    omega
  rw [Fin.or_val_of_two_pow, val_shl, half,
    ← Nat.two_pow_add_eq_or_of_lt (show bit.val < 2 ^ 1 by omega)]
  omega

theorem divisor_le_iff (less : rem.val < d.val) :
    (rem.shr 127 ≠ 0 ∨ d ≤ (rem.shl 1 ||| bit)) ↔ d.val ≤ 2 * rem.val + bit.val := by
  have msb : rem.shr 127 = 0 ↔ rem.val < 2 ^ 127 := by
    rw [Fin.ext_iff, val_shr, show (0 : U128).val = 0 from rfl]
    omega
  rw [Ne, msb, Fin.le_def, val_shl_or small]
  omega

theorem val_sub_divisor (less : rem.val < d.val) (goes : d.val ≤ 2 * rem.val + bit.val) :
    ((rem.shl 1 ||| bit) - d).val = 2 * rem.val + bit.val - d.val := by
  rw [Fin.sub_def, Fin.val_mk, val_shl_or small]
  omega

end

/-- One round of the loop is one bit of the long division. -/
theorem divStep_eq (positive : 0 < d.val) {i : Nat}
    (quotientIs : quotient.val = LongDivision.quotient 128 (2 ^ 128 * hi.val + lo.val) d (i + 1))
    (remIs : rem.val = LongDivision.remainder (2 ^ 128 * hi.val + lo.val) d (i + 1)) :
    (divStep hi lo d i quotient rem).1.val =
        LongDivision.quotient 128 (2 ^ 128 * hi.val + lo.val) d i ∧
      (divStep hi lo d i quotient rem).2.val =
        LongDivision.remainder (2 ^ 128 * hi.val + lo.val) d i := by
  obtain ⟨nextQuotient, nextRem⟩ :=
    @LongDivision.quotient_succ (2 ^ 128 * hi.val + lo.val) d.val 128 i positive
  have bit := @val_bit hi lo i
  have small : (if 128 ≤ i then hi.shr (i - 128) &&& 1 else lo.shr i &&& 1).val ≤ 1 := by
    rw [bit]
    omega
  have less : rem.val < d.val := remIs ▸ Nat.mod_lt _ positive
  rw [← bit, ← remIs] at nextQuotient nextRem
  rw [nextQuotient, nextRem, ← quotientIs]
  unfold divStep
  dsimp only
  generalize (if 128 ≤ i then hi.shr (i - 128) &&& 1 else lo.shr i &&& 1) = taken at *
  by_cases goes : d.val ≤ 2 * rem.val + taken.val
  · rw [if_pos ((divisor_le_iff small less).mpr goes), if_pos goes]
    refine ⟨?_, val_sub_divisor small less goes⟩
    by_cases within : i < 128
    · rw [if_pos within, if_pos ⟨goes, within⟩, Fin.or_val_of_two_pow, val_shl]
      congr 1
      have fits : 2 ^ i < 2 ^ 128 := Nat.pow_lt_pow_right (by decide) within
      rw [show (1 : U128).val = 1 from rfl, Nat.one_mul, Nat.mod_eq_of_lt fits]
    · rw [if_neg within, if_neg fun both => within both.2]
  · rw [if_neg (mt (divisor_le_iff small less).mp goes), if_neg fun both => goes both.1,
      if_neg goes, val_shl_or small]
    refine ⟨rfl, ?_⟩
    omega

theorem divLoop_eq (positive : 0 < d.val) {i : Nat}
    (quotientIs : quotient.val = LongDivision.quotient 128 (2 ^ 128 * hi.val + lo.val) d i)
    (remIs : rem.val = LongDivision.remainder (2 ^ 128 * hi.val + lo.val) d i) :
    (divLoop hi lo d i quotient rem).1.val = (2 ^ 128 * hi.val + lo.val) / d % 2 ^ 128 := by
  induction i generalizing quotient rem with
  | zero =>
    rw [divLoop, quotientIs]
    exact LongDivision.quotient_zero 128
  | succ i ih =>
    obtain ⟨nextQuotient, nextRem⟩ := divStep_eq positive quotientIs remIs
    exact ih nextQuotient nextRem

theorem val_divU256ByU128 (positive : 0 < d.val) :
    (divU256ByU128 hi lo d).val = (2 ^ 128 * hi.val + lo.val) / d % 2 ^ 128 := by
  have hiBound := hi.isLt
  have loBound := lo.isLt
  unfold divU256ByU128
  split
  next zero =>
    subst zero
    have fits : lo.val / d.val < 2 ^ 128 := (Nat.div_le_self _ _).trans_lt loBound
    rw [show (0 : U128).val = 0 from rfl, Nat.mul_zero, Nat.zero_add, Nat.mod_eq_of_lt fits]
    rfl
  · have first := @LongDivision.quotient_of_lt _ d.val 128 256
      (show 2 ^ 128 * hi.val + lo.val < 2 ^ 256 by omega)
    exact divLoop_eq positive first.1.symm first.2.symm

end Division

section Product

theorem schoolbook (ll lh hl hh : Nat) :
    2 ^ 128 * (hh + lh / 2 ^ 64 + hl / 2 ^ 64 +
          (ll / 2 ^ 64 + lh % 2 ^ 64 + hl % 2 ^ 64) / 2 ^ 64) +
        (2 ^ 64 * ((ll / 2 ^ 64 + lh % 2 ^ 64 + hl % 2 ^ 64) % 2 ^ 64) + ll % 2 ^ 64) =
      2 ^ 128 * hh + 2 ^ 64 * (lh + hl) + ll := by
  omega

theorem product_digits (a b : Nat) :
    a * b = 2 ^ 128 * (a / 2 ^ 64 * (b / 2 ^ 64)) +
      2 ^ 64 * (a % 2 ^ 64 * (b / 2 ^ 64) + a / 2 ^ 64 * (b % 2 ^ 64)) +
        a % 2 ^ 64 * (b % 2 ^ 64) := by
  have first := Nat.div_add_mod a (2 ^ 64)
  have second := Nat.div_add_mod b (2 ^ 64)
  generalize a / 2 ^ 64 = aHi at *
  generalize a % 2 ^ 64 = aLo at *
  generalize b / 2 ^ 64 = bHi at *
  generalize b % 2 ^ 64 = bLo at *
  rw [← first, ← second]
  ring

variable (a : U128)

def low : U128 := a &&& 0xFFFFFFFFFFFFFFFF

theorem val_low : (low a).val = a.val % 2 ^ 64 := by
  rw [low, Fin.and_val]
  exact Nat.and_two_pow_sub_one_eq_mod a.val 64

theorem low_lt : (low a).val < 2 ^ 64 := by
  rw [val_low]
  exact Nat.mod_lt _ (by decide)

theorem shr_lt : (a.shr 64).val < 2 ^ 64 := by
  rw [val_shr]
  exact Nat.div_lt_of_lt_mul a.isLt

variable (overflowChecks : Bool)

theorem mul_digits {a b : U128} (first : a.val < 2 ^ 64) (second : b.val < 2 ^ 64) :
    ∃ product, mul overflowChecks a b = some product ∧ product.val = a.val * b.val := by
  have fits : a.val * b.val < 2 ^ 64 * 2 ^ 64 := Nat.mul_lt_mul'' first second
  exact ⟨a * b, mul_of_lt fits, val_mul_of_lt fits⟩

theorem add_exact {a b : U128} (fits : a.val + b.val < 2 ^ 128) :
    ∃ sum, add overflowChecks a b = some sum ∧ sum.val = a.val + b.val :=
  ⟨a + b, add_of_lt fits, val_add_of_lt fits⟩

theorem add_middle (ll lh hl : U128) :
    ∃ first mid, add overflowChecks (ll.shr 64) (low lh) = some first ∧
      add overflowChecks first (low hl) = some mid ∧
      mid.val = ll.val / 2 ^ 64 + lh.val % 2 ^ 64 + hl.val % 2 ^ 64 := by
  have llHigh := shr_lt ll
  have lhLow := low_lt lh
  have hlLow := low_lt hl
  obtain ⟨first, firstDone, firstIs⟩ := add_exact overflowChecks
    (show (ll.shr 64).val + (low lh).val < 2 ^ 128 by omega)
  obtain ⟨mid, midDone, midIs⟩ := add_exact overflowChecks
    (show first.val + (low hl).val < 2 ^ 128 by omega)
  rw [firstIs, val_shr, val_low, val_low] at midIs
  exact ⟨first, mid, firstDone, midDone, midIs⟩

theorem add_high {hh lh hl mid : U128}
    (fits : hh.val + lh.val / 2 ^ 64 + hl.val / 2 ^ 64 + mid.val / 2 ^ 64 < 2 ^ 128) :
    ∃ one two hi, add overflowChecks hh (lh.shr 64) = some one ∧
      add overflowChecks one (hl.shr 64) = some two ∧
      add overflowChecks two (mid.shr 64) = some hi ∧
      hi.val = hh.val + lh.val / 2 ^ 64 + hl.val / 2 ^ 64 + mid.val / 2 ^ 64 := by
  rw [← val_shr, ← val_shr, ← val_shr] at fits ⊢
  obtain ⟨one, oneDone, oneIs⟩ := add_exact overflowChecks
    (show hh.val + (lh.shr 64).val < 2 ^ 128 by omega)
  obtain ⟨two, twoDone, twoIs⟩ := add_exact overflowChecks
    (show one.val + (hl.shr 64).val < 2 ^ 128 by omega)
  obtain ⟨hi, hiDone, hiIs⟩ := add_exact overflowChecks
    (show two.val + (mid.shr 64).val < 2 ^ 128 by omega)
  exact ⟨one, two, hi, oneDone, twoDone, hiDone, by omega⟩

theorem val_low_or (ll mid : U128) :
    (low ll ||| (low mid).shl 64).val = 2 ^ 64 * (mid.val % 2 ^ 64) + ll.val % 2 ^ 64 := by
  have shifted : mid.val % 2 ^ 64 * 2 ^ 64 % 2 ^ 128 = 2 ^ 64 * (mid.val % 2 ^ 64) := by omega
  rw [Fin.or_val_of_two_pow, val_shl, val_low, val_low, shifted, Nat.or_comm]
  exact (Nat.two_pow_add_eq_or_of_lt (Nat.mod_lt _ (by decide)) _).symm

theorem wideningMul_eq (a b : U128) : ∃ hi lo, wideningMul overflowChecks a b = some (hi, lo) ∧
    2 ^ 128 * hi.val + lo.val = a.val * b.val := by
  obtain ⟨ll, llDone, llIs⟩ := mul_digits overflowChecks (low_lt a) (low_lt b)
  obtain ⟨lh, lhDone, lhIs⟩ := mul_digits overflowChecks (low_lt a) (shr_lt b)
  obtain ⟨hl, hlDone, hlIs⟩ := mul_digits overflowChecks (shr_lt a) (low_lt b)
  obtain ⟨hh, hhDone, hhIs⟩ := mul_digits overflowChecks (shr_lt a) (shr_lt b)
  have whole : 2 ^ 128 * hh.val + 2 ^ 64 * (lh.val + hl.val) + ll.val = a.val * b.val := by
    rw [product_digits a.val b.val, llIs, lhIs, hlIs, hhIs, val_low, val_low, val_shr, val_shr]
  have bound : a.val * b.val < 2 ^ 128 * 2 ^ 128 := Nat.mul_lt_mul'' a.isLt b.isLt
  obtain ⟨first, mid, firstDone, midDone, midIs⟩ := add_middle overflowChecks ll lh hl
  have carries := schoolbook ll lh hl hh
  rw [whole, ← midIs] at carries
  obtain ⟨one, two, hi, oneDone, twoDone, hiDone, hiIs⟩ :=
    add_high overflowChecks (show hh.val + lh.val / 2 ^ 64 + hl.val / 2 ^ 64 + mid.val / 2 ^ 64 <
      2 ^ 128 by omega)
  refine ⟨hi, low ll ||| (low mid).shl 64, ?_, ?_⟩
  · unfold low at *
    simp only [wideningMul, llDone, lhDone, hlDone, hhDone, firstDone, midDone, oneDone, twoDone,
      hiDone, bind_eq_bind, bind_some, pure_def]
  · rw [val_low_or, hiIs]
    exact carries

theorem muldiv_eq (a b c : U128) :
    muldiv overflowChecks a b c = some (Fin.ofNat _ (a.val * b.val / c.val)) := by
  unfold muldiv
  split
  next zero =>
    rw [zero, show (0 : U128).val = 0 from rfl, Nat.div_zero]
    rfl
  next nonzero =>
    have positive : 0 < c.val := Nat.pos_of_ne_zero fun none => nonzero (Fin.ext none)
    split
    next fits =>
      congr 1
      apply Fin.ext
      have small : a.val * b.val / c.val < 2 ^ 128 := (Nat.div_le_self _ _).trans_lt fits
      rw [Fin.div_val, val_mul_of_lt fits, Fin.val_ofNat, Nat.mod_eq_of_lt small]
    · obtain ⟨hi, lo, product, exact⟩ := wideningMul_eq overflowChecks a b
      rw [product, bind_eq_bind, bind_some]
      refine congrArg some (Fin.ext ?_)
      rw [val_divU256ByU128 positive, exact, Fin.val_ofNat]

/-- Where the quotient fits, it is the exact one, and no step on the way overflows. -/
theorem muldiv_exact (a b c : U128) (fits : a.val * b.val / c.val < 2 ^ 128) :
    muldiv overflowChecks a b c = some ⟨a.val * b.val / c.val, fits⟩ := by
  rw [muldiv_eq]
  congr 1
  apply Fin.ext
  rw [Fin.val_ofNat, Nat.mod_eq_of_lt fits]

/-- The largest operands, whose product takes all 256 bits. -/
theorem muldiv_exact_largest :
    muldiv true (Fin.last _) (Fin.last _) (Fin.last _) = some (Fin.last _) := by
  rw [muldiv_exact true _ _ _ (by decide)]
  decide

end Product

end Vault
