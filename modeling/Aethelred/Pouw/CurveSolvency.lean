import Aethelred.Pouw.CurvePrice
import Mathlib.Tactic.LinearCombination

/- What a round trip on the curve does to its reserve. -/
namespace Pouw.BondingCurve

open SafeMath StepSum Except Int

/-- The supply stays between nothing and its maximum, and the reserve is never overdrawn. -/
structure Sound (curve : BondingCurve) : Prop where
  valid : validateBondingCurveConfig curve.config = .ok ()
  supply_nonneg : 0 ≤ curve.currentSupply
  supply_le : curve.currentSupply ≤ curve.config.maxSupply
  reserve_nonneg : 0 ≤ curve.reserveBalance

/-- The steps of a purchase lose nothing: no token is left over after the last step, the price does
not change within a step, and neither division rounds. -/
structure PricedInFull (config : BondingCurveConfig) (supply amount : Int) : Prop where
  whole : (stepsOf amount).1 * (stepsOf amount).2 = amount
  flat : ∀ j < amount.toNat, curvePrice config (supply + j) =
    curvePrice config (supply + (j / (stepsOf amount).1.toNat * (stepsOf amount).1.toNat : Nat))
  unrounded : 1000000 ∣ total (curvePrice config) supply amount.toNat
  shared : bpsBase ∣ total (curvePrice config) supply amount.toNat / 1000000 *
    config.reserveRatioBps

/-- A purchase whose reserve share is not rounded down; every sale. -/
def Fair (curve : BondingCurve) : Trade → Prop
  | .purchase amount => curve.config.reserveRatioBps = 0 ∨
      PricedInFull curve.config curve.currentSupply amount
  | .sale _ => True

/-- The reserve beyond the share of the prices of all tokens sold, in units of `10^-10`. -/
def margin (curve : BondingCurve) : Int :=
  curve.reserveBalance * 10000000000 -
    curve.config.reserveRatioBps * total (curvePrice curve.config) 0 curve.currentSupply.toNat

section Trades

variable {curve next : BondingCurve} {amount : Int}

/-- All that an accepted purchase does. -/
theorem purchase_eq_ok (done : curve.trade (.purchase amount) = .ok next) (positive : 0 < amount) :
    ∃ size blocks : Nat, stepsOf amount = ((size : Int), (blocks : Int)) ∧
      blocks * size ≤ amount.toNat ∧ curve.currentSupply + amount ≤ curve.config.maxSupply ∧
      next = { curve with
        currentSupply := curve.currentSupply + amount
        reserveBalance := curve.reserveBalance +
          ((stepped (curvePrice curve.config) curve.currentSupply size blocks).tdiv 1000000 *
            curve.config.reserveRatioBps).tdiv bpsBase } := by
  obtain ⟨size, blocks, steps, inside⟩ := stepsOf_spec positive
  refine ⟨size, blocks, steps, inside, ?_⟩
  simp only [trade, map_eq_ok] at done
  obtain ⟨⟨after, paid⟩, done, rfl⟩ := done
  obtain ⟨cost, priced, done⟩ := bind_eq_ok.mp done
  obtain ⟨supply, added, done⟩ := bind_eq_ok.mp done
  obtain ⟨addition, share, done⟩ := bind_eq_ok.mp done
  obtain ⟨reserve, grown, done⟩ := bind_eq_ok.mp done
  obtain ⟨rfl, rfl⟩ := Prod.mk.inj (ok.inj done)
  obtain ⟨-, -, priced⟩ := bind_eq_ok.mp priced
  obtain ⟨limit, summed, priced⟩ := bind_eq_ok.mp priced
  simp only [ite_error_eq_ok, steps, toNat_natCast] at priced
  obtain ⟨below, priced⟩ := priced
  obtain ⟨sum, looped, priced⟩ := bind_eq_ok.mp priced
  have sumEq := costLoop_eq_ok blocks looped
  rw [zero_add] at sumEq
  obtain rfl := ok.inj priced
  rw [checked_eq_ok summed, not_lt] at below
  refine ⟨below, ?_⟩
  rw [checked_eq_ok added, checked_eq_ok grown, safeMulDiv_eq_ok share, sumEq]

/-- All that an accepted sale does. -/
theorem sale_eq_ok (done : curve.trade (.sale amount) = .ok next) (positive : 0 < amount) :
    amount ≤ curve.currentSupply ∧ ∃ value paid : Int, paid ≤ curve.reserveBalance ∧
      paid = (value.tdiv 1000000 * curve.config.reserveRatioBps).tdiv bpsBase ∧
      (validateBondingCurveConfig curve.config = .ok () →
        value ≤ total (curvePrice curve.config) (curve.currentSupply - amount) amount.toNat) ∧
      next = { curve with
        currentSupply := curve.currentSupply - amount
        reserveBalance := curve.reserveBalance - paid } := by
  obtain ⟨size, blocks, steps, inside⟩ := stepsOf_spec positive
  simp only [trade, map_eq_ok] at done
  obtain ⟨⟨after, paid⟩, done, rfl⟩ := done
  obtain ⟨returned, priced, done⟩ := bind_eq_ok.mp done
  rw [ite_error_eq_ok, not_lt] at done
  obtain ⟨covered, done⟩ := done
  obtain ⟨supply, lowered, done⟩ := bind_eq_ok.mp done
  obtain ⟨reserve, drawn, done⟩ := bind_eq_ok.mp done
  obtain ⟨rfl, rfl⟩ := Prod.mk.inj (ok.inj done)
  obtain ⟨-, -, priced⟩ := bind_eq_ok.mp priced
  simp only [ite_error_eq_ok, steps, toNat_natCast, not_lt] at priced
  obtain ⟨held, priced⟩ := priced
  obtain ⟨value, looped, share⟩ := bind_eq_ok.mp priced
  refine ⟨held, value, returned, covered, safeMulDiv_eq_ok share, fun valid => ?_, ?_⟩
  · -- the tokens of the steps are the upper ones of those sold
    have rest : amount.toNat = (amount.toNat - blocks * size) + blocks * size := by omega
    have upper := returnLoop_le valid blocks looped
      (show curve.currentSupply - (blocks * size : Nat) + (blocks * size : Nat) = _ by omega)
      (by omega)
    have lower := total_nonneg (f := curvePrice curve.config) (s := curve.currentSupply - amount)
      (fun x above => curvePrice_nonneg valid x (by omega)) (amount.toNat - blocks * size)
    rw [rest, total_add]
    have start : curve.currentSupply - amount + (amount.toNat - blocks * size : Nat) =
        curve.currentSupply - (blocks * size : Nat) := by omega
    rw [start]
    omega
  · rw [checked_eq_ok lowered, checked_eq_ok drawn]

theorem share_le {value limit ratio : Int} (bounded : value ≤ limit) (nonneg : 0 ≤ limit)
    (ratio_nonneg : 0 ≤ ratio) :
    (value.tdiv 1000000 * ratio).tdiv bpsBase * 10000000000 ≤ ratio * limit := by
  have micro : value.tdiv 1000000 * 1000000 ≤ limit := by
    refine le_trans (mul_le_mul_of_nonneg_right
      (Int.tdiv_le_tdiv (by decide) bounded) (by decide)) ?_
    rw [tdiv_eq_ediv_of_nonneg nonneg]
    exact Int.ediv_mul_le _ (by decide)
  rcases Int.lt_or_le (value.tdiv 1000000) 0 with negative | positive
  · have share : (value.tdiv 1000000 * ratio).tdiv bpsBase ≤ (0 : Int).tdiv bpsBase :=
      Int.tdiv_le_tdiv (by decide)
        (mul_nonpos_of_nonpos_of_nonneg (le_of_lt negative) ratio_nonneg)
    rw [Int.zero_tdiv] at share
    have target : 0 ≤ ratio * limit := mul_nonneg ratio_nonneg nonneg
    omega
  · have share : (value.tdiv 1000000 * ratio).tdiv bpsBase * bpsBase ≤
        value.tdiv 1000000 * ratio := by
      rw [tdiv_eq_ediv_of_nonneg (mul_nonneg positive ratio_nonneg)]
      exact Int.ediv_mul_le _ (by decide)
    have product := mul_le_mul_of_nonneg_left micro ratio_nonneg
    rw [show bpsBase = 10000 from rfl] at *
    nlinarith

theorem share_eq {value ratio : Int} (unrounded : 1000000 ∣ value)
    (shared : bpsBase ∣ value / 1000000 * ratio) :
    (value.tdiv 1000000 * ratio).tdiv bpsBase * 10000000000 = ratio * value := by
  have micro := Int.tdiv_mul_cancel unrounded
  rw [← tdiv_eq_ediv_of_dvd unrounded] at shared
  have share := Int.tdiv_mul_cancel shared
  rw [show bpsBase = 10000 from rfl] at *
  linear_combination 1000000 * share + ratio * micro

theorem total_toNat_add {f : Int → Int} {supply : Int} (nonneg : 0 ≤ supply)
    (amount_nonneg : 0 ≤ amount) :
    total f 0 (supply + amount).toNat = total f 0 supply.toNat + total f supply amount.toNat := by
  rw [toNat_add nonneg amount_nonneg, total_add, zero_add, toNat_of_nonneg nonneg]

section

variable (sound : Sound curve) (positive : 0 < amount)
include sound positive

theorem Sound.purchase (done : curve.trade (.purchase amount) = .ok next) : Sound next := by
  obtain ⟨size, blocks, -, -, below, rfl⟩ := purchase_eq_ok done positive
  obtain ⟨-, -, -, ⟨ratio, -⟩, -⟩ := valid_iff.mp sound.valid
  refine ⟨sound.valid, add_nonneg sound.supply_nonneg (le_of_lt positive), below, ?_⟩
  refine Int.add_nonneg sound.reserve_nonneg (Int.tdiv_nonneg (Int.mul_nonneg ?_ ratio) (by decide))
  refine Int.tdiv_nonneg (stepped_nonneg (fun x above => ?_) size blocks) (by decide)
  exact curvePrice_nonneg sound.valid x (le_trans sound.supply_nonneg above)

theorem Sound.sale (done : curve.trade (.sale amount) = .ok next) : Sound next := by
  obtain ⟨held, value, paid, covered, -, -, rfl⟩ := sale_eq_ok done positive
  have limit := sound.supply_le
  exact ⟨sound.valid, sub_nonneg_of_le held,
    le_trans (sub_le_self _ (le_of_lt positive)) limit, sub_nonneg_of_le covered⟩

/-- A fair purchase does not lower the margin. -/
theorem margin_purchase (done : curve.trade (.purchase amount) = .ok next)
    (fair : Fair curve (.purchase amount)) : curve.margin ≤ next.margin := by
  obtain ⟨size, blocks, steps, inside, -, rfl⟩ := purchase_eq_ok done positive
  unfold margin
  simp only
  rw [total_toNat_add sound.supply_nonneg (le_of_lt positive)]
  rcases fair with none | full
  · rw [none, Int.mul_zero, Int.zero_tdiv]
    omega
  · have whole : blocks * size = amount.toNat := by
      have product := full.whole
      rw [steps] at product
      simp only at product
      rw [← product, toNat_mul (by omega) (by omega), Nat.mul_comm, toNat_natCast,
        toNat_natCast]
    have exact : stepped (curvePrice curve.config) curve.currentSupply size blocks =
        total (curvePrice curve.config) curve.currentSupply amount.toNat := by
      rw [← whole]
      refine stepped_eq_total fun j inside => ?_
      have flat := full.flat j (whole ▸ inside)
      rwa [steps] at flat
    have share := share_eq full.unrounded full.shared
    rw [exact, add_mul, share]
    linarith

theorem margin_sale
    (done : curve.trade (.sale amount) = .ok next) : curve.margin ≤ next.margin := by
  obtain ⟨held, value, paid, -, rfl, bounded, rfl⟩ := sale_eq_ok done positive
  obtain ⟨-, -, -, ⟨ratio, -⟩, -⟩ := valid_iff.mp sound.valid
  have left : 0 ≤ curve.currentSupply - amount := sub_nonneg_of_le held
  have worth := total_nonneg (f := curvePrice curve.config) (s := curve.currentSupply - amount)
    (fun x above => curvePrice_nonneg sound.valid x (le_trans left above)) amount.toNat
  have share := share_le (bounded sound.valid) worth ratio
  have parts := total_toNat_add (f := curvePrice curve.config) left (le_of_lt positive)
  rw [sub_add_cancel] at parts
  unfold margin
  simp only
  rw [parts]
  linarith

end

end Trades

variable {curve : BondingCurve}

theorem Sound.step {call : Trade} (sound : Sound curve)
    (succeeds : curve.Succeeds call) : Sound (curve.step call) := by
  obtain ⟨positive, next, done⟩ := succeeds
  simp only [BondingCurve.step, done, Except.toOption, Option.getD_some]
  cases call with
  | purchase amount => exact sound.purchase positive done
  | sale amount => exact sound.sale positive done

theorem step_config {call : Trade} (succeeds : curve.Succeeds call) :
    (curve.step call).config = curve.config := by
  obtain ⟨positive, next, done⟩ := succeeds
  simp only [BondingCurve.step, done, Except.toOption, Option.getD_some]
  cases call with
  | purchase amount =>
    obtain ⟨size, blocks, -, -, -, rfl⟩ := purchase_eq_ok done positive
    rfl
  | sale amount =>
    obtain ⟨-, value, paid, -, -, -, rfl⟩ := sale_eq_ok done positive
    rfl

theorem margin_step {call : Trade} (sound : Sound curve) (succeeds : curve.Succeeds call)
    (fair : Fair curve call) : curve.margin ≤ (curve.step call).margin := by
  obtain ⟨positive, next, done⟩ := succeeds
  simp only [BondingCurve.step, done, Except.toOption, Option.getD_some]
  cases call with
  | purchase amount => exact margin_purchase sound positive done fair
  | sale amount => exact margin_sale sound positive done

section

variable {config : BondingCurveConfig} (valid : validateBondingCurveConfig config = .ok ())
include valid

theorem sound_new : Sound (newBondingCurve config) where
  valid := valid
  supply_nonneg := le_refl 0
  supply_le := le_of_lt (valid_iff.mp valid).2.2.1
  reserve_nonneg := le_refl 0

theorem sound_run
    {calls : List Trade} (succeed : Run.Along step Succeeds (newBondingCurve config) calls) :
    Sound ((newBondingCurve config).run calls) :=
  Run.invariant Sound (fun _ _ succeeds sound => sound.step succeeds) (sound_new valid) succeed

end

theorem reserve_le_of_back (sound : Sound curve) {calls : List Trade}
    (succeed : Run.Along step (fun curve call => curve.Succeeds call ∧ Fair curve call) curve calls)
    (back : (curve.run calls).currentSupply = curve.currentSupply) :
    curve.reserveBalance ≤ (curve.run calls).reserveBalance := by
  obtain ⟨-, same, more⟩ := Run.invariant
    (fun later => Sound later ∧ later.config = curve.config ∧ curve.margin ≤ later.margin)
    (fun later call good kept => ⟨kept.1.step good.1, (step_config good.1).trans kept.2.1,
      le_trans kept.2.2 (margin_step kept.1 good.1 good.2)⟩)
    ⟨sound, rfl, le_refl _⟩ succeed
  change (curve.run calls).config = curve.config at same
  change curve.margin ≤ (curve.run calls).margin at more
  unfold margin at more
  rw [same, back] at more
  omega

/-- What the curve promises of successful calls: the bounds after any of them, and a reserve that
no round trip of the later ones lowers. -/
structure RoundTripsKeepReserve (config : BondingCurveConfig) (before later : List Trade) :
    Prop where
  bounds : Sound ((newBondingCurve config).run (before ++ later))
  reserve : ((newBondingCurve config).run (before ++ later)).currentSupply =
      ((newBondingCurve config).run before).currentSupply →
    ((newBondingCurve config).run before).reserveBalance ≤
      ((newBondingCurve config).run (before ++ later)).reserveBalance

/-- Round trips whose purchases are all priced in full keep the reserve. -/
theorem round_trips_keep_reserve (config : BondingCurveConfig)
    (valid : validateBondingCurveConfig config = .ok ()) (before later : List Trade)
    (succeed : Run.Along step Succeeds (newBondingCurve config) (before ++ later))
    (fair : Run.Along step Fair ((newBondingCurve config).run before) later) :
    RoundTripsKeepReserve config before later := by
  refine ⟨sound_run valid succeed, fun back => ?_⟩
  obtain ⟨early, late⟩ := (Run.along_append ..).mp succeed
  have after : (newBondingCurve config).run (before ++ later) =
      ((newBondingCurve config).run before).run later := Run.exec_append ..
  rw [after] at back ⊢
  exact reserve_le_of_back (sound_run valid early) (late.and fair) back

def unitCurve : BondingCurveConfig where
  basePriceUAETHEL := 1000000
  scaleFactor := 1
  exponentScaled := 1000
  maxSupply := 1000000
  reserveRatioBps := 5000
  enabled := true

theorem round_trips_keep_reserve_unit :
    RoundTripsKeepReserve unitCurve [.purchase 4] [.purchase 4, .sale 1, .sale 3] := by
  refine round_trips_keep_reserve unitCurve rfl _ _ ?_ ⟨.inr ⟨?_, ?_, ?_, ?_⟩, trivial, trivial,
    trivial⟩
  all_goals decide +kernel

/-- The default curve charges nothing for a few tokens, yet pays for all of them sold at once; of 199
tokens it charges for 100, and pays for all of them sold as 100 and 99. -/
theorem round_trips_drain_reserve :
    (¬∀ before later : List Trade,
      Run.Along step Succeeds (newBondingCurve defaultBondingCurveConfig) (before ++ later) →
        RoundTripsKeepReserve defaultBondingCurveConfig before later) ∧
      ¬∀ before later : List Trade,
        Run.Along step Succeeds (newBondingCurve unitCurve) (before ++ later) →
          RoundTripsKeepReserve unitCurve before later := by
  constructor
  · intro keeps
    have kept := (keeps [.purchase 47] [.purchase 22, .purchase 22, .purchase 2, .sale 46]
      (by decide +kernel)).reserve (by decide +kernel)
    exact absurd kept (by decide +kernel)
  · intro keeps
    have kept := (keeps [.purchase 1000] [.purchase 199, .sale 100, .sale 99]
      (by decide +kernel)).reserve (by decide +kernel)
    exact absurd kept (by decide +kernel)

end Pouw.BondingCurve
