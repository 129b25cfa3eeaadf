import Aethelred.Vm.ComplianceBonds

/- Vesting schedules (`tokenomics.rs`): the amount a schedule has vested at a time, as the program
computes it in machine integers, and the exact amount, which grows with time up to the total. -/
namespace Vm

open Nat

def TOTAL_GENESIS_SUPPLY : Nat := 10000000000 * ONE_AETHEL

def PUBLIC_SALES_POOL : Nat := 750000000 * ONE_AETHEL

def SECONDS_PER_YEAR : Nat := 365 * 24 * 60 * 60

/-- Durations in seconds. -/
inductive VestingSchedule
  | Immediate
  | Linear (cliff duration : Nat) (tgePercent : Fin 256)
  | Emission (halvingInterval totalDuration : Nat)
  | DaoControlled
  | Strategic
  deriving DecidableEq

inductive AllocationCategory
  | ComputePoUW | CoreContributors | EcosystemGrants | StrategicSeed | PublicSales | AirdropSeals
  | TreasuryMM | InsuranceFund | ContingencyReserve
  deriving DecidableEq

def AllocationCategory.vestingSchedule : AllocationCategory → VestingSchedule
  | ComputePoUW => .Linear 0 (10 * SECONDS_PER_YEAR) 0
  | CoreContributors => .Linear (SECONDS_PER_YEAR / 2) (4 * SECONDS_PER_YEAR) 0
  | EcosystemGrants => .Linear (SECONDS_PER_YEAR / 2) (9 * SECONDS_PER_YEAR / 2) 2
  | StrategicSeed => .Linear SECONDS_PER_YEAR (3 * SECONDS_PER_YEAR) 0
  | PublicSales => .Linear 0 (3 * SECONDS_PER_YEAR / 2) 20
  | AirdropSeals => .Linear 0 SECONDS_PER_YEAR 25
  | TreasuryMM => .Linear 0 (3 * SECONDS_PER_YEAR) 25
  | InsuranceFund => .Linear 0 (5 * SECONDS_PER_YEAR / 2) 10
  | ContingencyReserve => .Linear SECONDS_PER_YEAR (5 * SECONDS_PER_YEAR) 0

namespace VestingSchedule

def emitPeriods (initial : Nat) : Nat → Nat × Nat
  | 0 => (initial, 0)
  | period + 1 =>
    let current := if period > 0 then (emitPeriods initial period).1 / 2
      else (emitPeriods initial period).1
    (current, addU128 (emitPeriods initial period).2 current)

/-- A division by a halving interval of zero panics. -/
def calculateEmissionVested (totalPool elapsedSecs halvingInterval totalDuration : Nat) :
    Option Nat :=
  if totalDuration ≤ elapsedSecs then some totalPool
  else if halvingInterval = 0 then none
  else
    let fullPeriods := elapsedSecs / halvingInterval
    let remainingInPeriod := elapsedSecs % halvingInterval
    let initial := totalPool / 4
    let emitted := (emitPeriods initial fullPeriods).2
    let emitted :=
      if 0 < remainingInPeriod ∧ fullPeriods < 13 then
        let periodEmission := if fullPeriods = 0 then initial else initial / 2 ^ fullPeriods
        addU128 emitted (mulU128 periodEmission remainingInPeriod / halvingInterval)
      else emitted
    some (min emitted totalPool)

def tgeAmount (totalAmount : Nat) (tgePercent : Fin 256) : Nat :=
  mulU128 totalAmount tgePercent / 100

variable (schedule : VestingSchedule)

def vestedAmount (totalAmount startTime currentTime : Nat) : Option Nat :=
  if currentTime ≤ startTime then
    match schedule with
    | Immediate => some totalAmount
    | Linear _ _ tgePercent => some (tgeAmount totalAmount tgePercent)
    | _ => some 0
  else
    let elapsed := currentTime - startTime
    match schedule with
    | Immediate => some totalAmount
    | Linear cliff duration tgePercent =>
      let tge := tgeAmount totalAmount tgePercent
      let vestingAmount := subU128 totalAmount tge
      if elapsed < cliff then some tge
      else if duration ≤ elapsed then some totalAmount
      else some (addU128 tge
        (mulU128 vestingAmount (elapsed - cliff) / (duration - cliff)))
    | Emission halvingInterval totalDuration =>
      calculateEmissionVested totalAmount elapsed halvingInterval totalDuration
    | DaoControlled => some 0
    | Strategic => some 0

def subtractions (totalAmount startTime currentTime : Nat) : List (Nat × Nat) :=
  if currentTime ≤ startTime then []
  else (currentTime, startTime) ::
    match schedule with
    | Linear cliff duration tgePercent =>
      (totalAmount, tgeAmount totalAmount tgePercent) ::
        if currentTime - startTime < cliff then []
        else if duration ≤ currentTime - startTime then []
        else [(currentTime - startTime, cliff), (duration, cliff)]
    | _ => []

def halvings (initial : Nat) : Nat → Nat
  | 0 => 0
  | period + 1 => halvings initial period + initial / 2 ^ period

def begun (initial period seconds interval : Nat) : Nat :=
  if 0 < seconds ∧ period < 13 then initial / 2 ^ period * seconds / interval else 0

variable (total startTime time : Nat)

def ideal : Nat :=
  match schedule with
  | Immediate => total
  | Linear cliff duration tgePercent =>
    if time ≤ startTime then total * tgePercent.val / 100
    else if time - startTime < cliff then total * tgePercent.val / 100
    else if duration ≤ time - startTime then total
    else total * tgePercent.val / 100 + (total - total * tgePercent.val / 100) *
      (time - startTime - cliff) / (duration - cliff)
  | Emission halvingInterval totalDuration =>
    if time ≤ startTime then 0
    else if totalDuration ≤ time - startTime then total
    else min total (halvings (total / 4) ((time - startTime) / halvingInterval) +
      begun (total / 4) ((time - startTime) / halvingInterval)
        ((time - startTime) % halvingInterval) halvingInterval)
  | DaoControlled => 0
  | Strategic => 0

/-- The share unlocked at once is not more than the total, a halving interval is not zero where it
is divided by, and the products fit a `u128`. -/
def Fits : Prop :=
  match schedule with
  | Linear cliff duration tgePercent =>
    total * tgePercent.val / 100 ≤ total ∧
    (startTime < time → cliff ≤ time - startTime → time - startTime < duration →
      (total - total * tgePercent.val / 100) * (time - startTime - cliff) < 2 ^ 128)
  | Emission halvingInterval totalDuration =>
    startTime < time → time - startTime < totalDuration →
      0 < halvingInterval ∧
      ((time - startTime) / halvingInterval < 13 →
        total / 4 / 2 ^ ((time - startTime) / halvingInterval) *
          ((time - startTime) % halvingInterval) < 2 ^ 128)
  | _ => True

instance :
    Decidable (schedule.Fits total startTime time) := by
  unfold Fits
  split <;> infer_instance

theorem halvings_succ_eq (initial period : Nat) :
    halvings initial (period + 1) = initial + halvings (initial / 2) period := by
  induction period with
  | zero => simp [halvings]
  | succ period ih =>
    rw [halvings, ih, halvings, Nat.div_div_eq_div_mul, ← Nat.pow_succ', Nat.succ_eq_add_one]
    omega

theorem halvings_le (initial period : Nat) : halvings initial period ≤ 2 * initial := by
  induction period generalizing initial with
  | zero => exact zero_le _
  | succ period ih =>
    rw [halvings_succ_eq]
    have half := ih (initial / 2)
    omega

theorem halvings_mono {initial early late : Nat} (le : early ≤ late) :
    halvings initial early ≤ halvings initial late := by
  induction late with
  | zero =>
    rw [le_zero.mp le]
  | succ late ih =>
    obtain before | same := lt_or_eq_of_le le
    · exact le_trans (ih (le_of_lt_succ before)) (le_add_right _ _)
    · rw [same]

theorem emitPeriods_eq {initial : Nat} (small : 2 * initial < 2 ^ 128) (period : Nat) :
    (emitPeriods initial period).1 = initial / 2 ^ (period - 1) ∧
      (emitPeriods initial period).2 = halvings initial period := by
  induction period with
  | zero => exact ⟨by simp [emitPeriods], rfl⟩
  | succ period ih =>
    have current : (emitPeriods initial (period + 1)).1 = initial / 2 ^ period := by
      simp only [emitPeriods, ih.1]
      split
      next positive =>
        rw [Nat.div_div_eq_div_mul, ← Nat.pow_succ, Nat.succ_eq_add_one,
          Nat.sub_add_cancel positive]
      next zero =>
        rw [Nat.eq_zero_of_not_pos zero]
    refine ⟨current, ?_⟩
    have bound := halvings_le initial (period + 1)
    rw [halvings] at bound ⊢
    change addU128 (emitPeriods initial period).2 (emitPeriods initial (period + 1)).1 = _
    rw [current, ih.2]
    exact addU128_eq (by omega)

theorem begun_le {initial period seconds interval : Nat} (inside : seconds < interval) :
    begun initial period seconds interval ≤ initial / 2 ^ period := by
  unfold begun
  split
  · refine Nat.div_le_of_le_mul ?_
    rw [Nat.mul_comm interval]
    exact mul_le_mul_left _ inside.le
  · exact zero_le _

theorem begun_mono {initial period seconds later interval : Nat} (le : seconds ≤ later) :
    begun initial period seconds interval ≤ begun initial period later interval := by
  unfold begun
  split
  next started =>
    rw [if_pos ⟨lt_of_lt_of_le started.1 le, started.2⟩]
    exact Nat.div_le_div_right (Nat.mul_le_mul_left _ le)
  · exact zero_le _

theorem emitted_mono {initial interval early late : Nat} (positive : 0 < interval)
    (le : early ≤ late) :
    halvings initial (early / interval) + begun initial (early / interval) (early % interval)
        interval ≤
      halvings initial (late / interval) + begun initial (late / interval) (late % interval)
        interval := by
  obtain before | same := Nat.lt_or_eq_of_le (Nat.div_le_div_right le : early / interval ≤ _)
  · calc halvings initial (early / interval) + _
        ≤ halvings initial (early / interval) + initial / 2 ^ (early / interval) :=
          Nat.add_le_add_left (begun_le (Nat.mod_lt _ positive)) _
      _ = halvings initial (early / interval + 1) := rfl
      _ ≤ halvings initial (late / interval) := halvings_mono before
      _ ≤ _ := le_add_right _ _
  · rw [← same]
    refine Nat.add_le_add_left (begun_mono ?_) _
    have first := div_add_mod early interval
    have second := div_add_mod late interval
    rw [← same] at second
    omega

section Laws

variable {schedule : VestingSchedule} {total startTime early late time : Nat}

theorem linear_part_le {amount elapsed duration : Nat} (inside : elapsed ≤ duration) :
    amount * elapsed / duration ≤ amount := by
  refine Nat.div_le_of_le_mul ?_
  rw [Nat.mul_comm duration]
  exact mul_le_mul_left _ inside

/-- No more vests than there is. -/
theorem ideal_le_total (fits : schedule.Fits total startTime time) :
    schedule.ideal total startTime time ≤ total := by
  cases schedule with
  | Immediate => exact le_refl _
  | Linear cliff duration tgePercent =>
    have share := fits.1
    simp only [ideal]
    split
    · exact share
    · split
      · exact share
      · split
        · exact le_refl _
        · have part := @linear_part_le (total - total * tgePercent.val / 100)
            (time - startTime - cliff) (duration - cliff) (by omega)
          omega
  | Emission halvingInterval totalDuration =>
    simp only [ideal]
    split
    · exact zero_le _
    · split
      · exact le_refl _
      · exact min_le_left _ _
  | DaoControlled => exact zero_le _
  | Strategic => exact zero_le _

/-- What has vested never falls. -/
theorem ideal_mono (le : early ≤ late) (before : schedule.Fits total startTime early)
    (after : schedule.Fits total startTime late) :
    schedule.ideal total startTime early ≤ schedule.ideal total startTime late := by
  cases schedule with
  | Immediate => exact le_refl _
  | Linear cliff duration tgePercent =>
    have share := before.1
    simp only [ideal]
    generalize unlocked : total * tgePercent.val / 100 = tge at share ⊢
    have part := @linear_part_le (total - tge) (early - startTime - cliff) (duration - cliff)
    have grows : (total - tge) * (early - startTime - cliff) / (duration - cliff) ≤
        (total - tge) * (late - startTime - cliff) / (duration - cliff) :=
      Nat.div_le_div_right (Nat.mul_le_mul_left _ (by omega))
    -- A later time is not in an earlier phase.
    by_cases begins : early ≤ startTime
    · rw [if_pos begins]
      split
      · exact le_refl _
      · split
        · exact le_refl _
        · split
          · exact share
          · exact le_add_right _ _
    · have begun : ¬late ≤ startTime := by omega
      simp only [begins, begun, ↓reduceIte]
      by_cases waits : early - startTime < cliff
      · rw [if_pos waits]
        split
        · exact le_refl _
        · split
          · exact share
          · exact le_add_right _ _
      · have waited : ¬late - startTime < cliff := by omega
        simp only [waits, waited, ↓reduceIte]
        by_cases ends : duration ≤ early - startTime
        · have ended : duration ≤ late - startTime := by omega
          rw [if_pos ends, if_pos ended]
        · rw [if_neg ends]
          split
          · have bound := part (by omega)
            omega
          · exact Nat.add_le_add_left grows tge
  | Emission halvingInterval totalDuration =>
    simp only [ideal]
    by_cases begins : early ≤ startTime
    · rw [if_pos begins]
      exact zero_le _
    · have begun : ¬late ≤ startTime := by omega
      simp only [begins, begun, ↓reduceIte]
      by_cases ends : totalDuration ≤ early - startTime
      · have ended : totalDuration ≤ late - startTime := by omega
        rw [if_pos ends, if_pos ended]
      · rw [if_neg ends]
        split
        · exact min_le_left _ _
        · have positive := (after (by omega) (by omega)).1
          have more := @emitted_mono (total / 4) halvingInterval (early - startTime)
            (late - startTime) positive (by omega)
          omega
  | DaoControlled => exact zero_le _
  | Strategic => exact zero_le _

theorem supply_lt : TOTAL_GENESIS_SUPPLY * 256 < 2 ^ 128 := by decide

section

variable (small : total ≤ TOTAL_GENESIS_SUPPLY)
include small

theorem tgeAmount_eq (tgePercent : Fin 256) :
    tgeAmount total tgePercent = total * tgePercent.val / 100 := by
  have product : total * tgePercent.val ≤ TOTAL_GENESIS_SUPPLY * 256 :=
    Nat.mul_le_mul small tgePercent.isLt.le
  rw [tgeAmount, mulU128_eq (lt_of_le_of_lt product supply_lt)]

/-- The arithmetic is exact where its products fit. -/
theorem vestedAmount_eq (fits : schedule.Fits total startTime time) :
    schedule.vestedAmount total startTime time = some (schedule.ideal total startTime time) := by
  have room := supply_lt
  cases schedule with
  | Immediate =>
    simp only [vestedAmount, ideal]
    split
    · rfl
    · rfl
  | Linear cliff duration tgePercent =>
    obtain ⟨share, product⟩ := fits
    simp only [vestedAmount, ideal, tgeAmount_eq small]
    generalize total * tgePercent.val / 100 = tge at share product ⊢
    by_cases begins : time ≤ startTime
    · simp only [begins, ↓reduceIte]
    · simp only [begins, ↓reduceIte]
      by_cases waits : time - startTime < cliff
      · simp only [waits, ↓reduceIte]
      · simp only [waits, ↓reduceIte]
        by_cases ends : duration ≤ time - startTime
        · simp only [ends, ↓reduceIte]
        · simp only [ends, ↓reduceIte]
          have part := @linear_part_le (total - tge) (time - startTime - cliff)
            (duration - cliff) (by omega)
          have bounded := product (by omega) (by omega) (by omega)
          rw [subU128_eq (by omega) share, mulU128_eq bounded, addU128_eq (by omega)]
  | Emission halvingInterval totalDuration =>
    simp only [vestedAmount, ideal, calculateEmissionVested]
    by_cases begins : time ≤ startTime
    · simp only [begins, ↓reduceIte]
    · simp only [begins, ↓reduceIte]
      by_cases ends : totalDuration ≤ time - startTime
      · simp only [ends, ↓reduceIte]
      · obtain ⟨positive, product⟩ := fits (by omega) (by omega)
        have emitted := (@emitPeriods_eq (total / 4) (by omega)
          ((time - startTime) / halvingInterval)).2
        have bound := halvings_le (total / 4) ((time - startTime) / halvingInterval + 1)
        rw [halvings] at bound
        have part := @begun_le (total / 4) ((time - startTime) / halvingInterval)
          ((time - startTime) % halvingInterval) halvingInterval (mod_lt _ positive)
        simp only [ends, ne_of_gt positive, ↓reduceIte, emitted]
        rw [min_comm total]
        refine congrArg (fun amount => some (min amount total)) ?_
        have first : (if (time - startTime) / halvingInterval = 0 then total / 4
            else total / 4 / 2 ^ ((time - startTime) / halvingInterval)) =
            total / 4 / 2 ^ ((time - startTime) / halvingInterval) := by
          split
          next zero => rw [zero, Nat.pow_zero, Nat.div_one]
          · rfl
        rw [first]
        unfold begun at part ⊢
        split
        next started =>
          rw [if_pos started] at part
          rw [mulU128_eq (product started.2), addU128_eq (by omega)]
        · rfl
  | DaoControlled =>
    simp only [vestedAmount, ideal]
    split
    · rfl
    · rfl
  | Strategic =>
    simp only [vestedAmount, ideal]
    split
    · rfl
    · rfl

/-- No subtraction goes below zero. -/
theorem le_of_mem_subtractions (fits : schedule.Fits total startTime time) {pair : Nat × Nat}
    (member : pair ∈ schedule.subtractions total startTime time) : pair.2 ≤ pair.1 := by
  unfold subtractions at member
  by_cases begins : time ≤ startTime
  · rw [if_pos begins] at member
    cases member
  · rw [if_neg begins] at member
    obtain rfl | member := List.mem_cons.mp member
    · exact Nat.le_of_not_le begins
    · cases schedule with
      | Linear cliff duration tgePercent =>
        obtain rfl | member := List.mem_cons.mp member
        · dsimp only
          rw [tgeAmount_eq small]
          exact fits.1
        · split at member
          · cases member
          · split at member
            · cases member
            · simp only [List.mem_cons, List.not_mem_nil, or_false] at member
              obtain rfl | rfl := member
              · dsimp only
                omega
              · dsimp only
                omega
      | Immediate => cases member
      | Emission halvingInterval totalDuration => cases member
      | DaoControlled => cases member
      | Strategic => cases member

end

end Laws

end VestingSchedule

end Vm
