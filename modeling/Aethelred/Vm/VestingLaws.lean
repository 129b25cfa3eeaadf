import Aethelred.Lib.Checked
import Aethelred.Vm.Vesting

/- What every vesting schedule keeps to: it pays out more and more, never more than the total, and
the total in the end. -/
namespace Vm.VestingSchedule

open Checked Option Nat

variable {schedule : VestingSchedule} {total startTime time early late : Nat}

/-- The loop over the full periods, with overflow checks. -/
def checkedPeriods (initial : Nat) : Nat → Option (Nat × Nat)
  | 0 => some (initial, 0)
  | period + 1 => do
      let (current, emitted) ← checkedPeriods initial period
      let current := if period > 0 then current / 2 else current
      return (current, ← add 128 emitted current)

def checkedPeriod (initial fullPeriods : Nat) : Option Nat :=
  if fullPeriods = 0 then some initial else (shl 128 1 fullPeriods).bind (div initial)

def checkedEmission (totalPool elapsedSecs halvingInterval totalDuration : Nat) : Option Nat :=
  if totalDuration ≤ elapsedSecs then some totalPool
  else do
    let fullPeriods ← div elapsedSecs halvingInterval
    let remainingInPeriod ← rem elapsedSecs halvingInterval
    let initial := totalPool / 4
    let (_, emitted) ← checkedPeriods initial fullPeriods
    if 0 < remainingInPeriod ∧ fullPeriods < 13 then do
      let periodEmission ← checkedPeriod initial fullPeriods
      let product ← mul 128 periodEmission remainingInPeriod
      let part ← div product halvingInterval
      return min (← add 128 emitted part) totalPool
    else return min emitted totalPool

/-- The vested amount where every operation is checked for overflow. -/
def checkedAmount (schedule : VestingSchedule) (totalAmount startTime currentTime : Nat) :
    Option Nat :=
  if currentTime ≤ startTime then
    match schedule with
    | Immediate => some totalAmount
    | Linear _ _ tgePercent => do return (← mul 128 totalAmount tgePercent) / 100
    | _ => some 0
  else do
    let elapsed ← sub currentTime startTime
    match schedule with
    | Immediate => some totalAmount
    | Linear cliff duration tgePercent => do
        let share ← mul 128 totalAmount tgePercent
        let tge := share / 100
        let vestingAmount ← sub totalAmount tge
        if elapsed < cliff then return tge
        else if duration ≤ elapsed then return totalAmount
        else do
          let vestingElapsed ← sub elapsed cliff
          let vestingDuration ← sub duration cliff
          let product ← mul 128 vestingAmount vestingElapsed
          let vested ← div product vestingDuration
          add 128 tge vested
    | Emission halvingInterval totalDuration =>
      checkedEmission totalAmount elapsed halvingInterval totalDuration
    | DaoControlled => some 0
    | Strategic => some 0

/-- At most everything is unlocked at once, and a halving interval is at least a second. -/
def Admissible : VestingSchedule → Prop
  | Immediate => True
  | Linear _ _ tgePercent => tgePercent.val ≤ 100
  | Emission halvingInterval _ => 0 < halvingInterval
  | DaoControlled => False
  | Strategic => False

/-- The product of an amount and seconds that is made at a time fits a `u128`. -/
def ProductFits (schedule : VestingSchedule) (total startTime time : Nat) : Prop :=
  match schedule with
  | Linear cliff duration tgePercent =>
    startTime < time → cliff ≤ time - startTime → time - startTime < duration →
      (total - total * tgePercent.val / 100) * (time - startTime - cliff) < 2 ^ 128
  | Emission halvingInterval totalDuration =>
    startTime < time → time - startTime < totalDuration →
      (time - startTime) / halvingInterval < 13 →
        total / 4 / 2 ^ ((time - startTime) / halvingInterval) *
          ((time - startTime) % halvingInterval) < 2 ^ 128
  | _ => True

instance : Decidable (schedule.ProductFits total startTime time) :=
  match schedule with
  | Linear .. | Emission .. | Immediate | DaoControlled | Strategic => by
    dsimp only [ProductFits]
    infer_instance

def fullDuration : VestingSchedule → Nat
  | Linear _ duration _ => duration
  | Emission _ totalDuration => totalDuration
  | _ => 0

/-- After the start, both the cliff and the duration are over. -/
def Due (schedule : VestingSchedule) (startTime time : Nat) : Prop :=
  match schedule with
  | Immediate => True
  | Linear cliff duration _ =>
    startTime < time ∧ startTime + cliff ≤ time ∧ startTime + duration ≤ time
  | Emission _ totalDuration => startTime < time ∧ startTime + totalDuration ≤ time
  | _ => False

/-- The schedule has run its whole course. -/
def Over (schedule : VestingSchedule) (startTime time : Nat) : Prop :=
  startTime + schedule.fullDuration ≤ time

/-- The periods that end before the whole duration does. -/
def Halves (schedule : VestingSchedule) (periods : Nat) : Prop :=
  match schedule with
  | Emission halvingInterval totalDuration =>
    periods = 0 ∨ periods * halvingInterval < totalDuration
  | _ => True

/-- A schedule at the times at which it computes, when it is due, and after the periods that it
counts. -/
structure Vests (schedule : VestingSchedule) (total startTime : Nat) (computes due : Nat → Prop)
    (counts : Nat → Prop) : Prop where
  bounded : ∀ time, computes time → ∃ amount ≤ total,
    schedule.checkedAmount total startTime time = some amount ∧
      schedule.vestedAmount total startTime time = some amount
  grows : ∀ early late, early ≤ late → computes early → computes late →
    ∀ less ∈ schedule.vestedAmount total startTime early,
      ∀ more ∈ schedule.vestedAmount total startTime late, less ≤ more
  completes : ∀ time, due time → schedule.vestedAmount total startTime time = some total
  halves : ∀ halvingInterval totalDuration, schedule = .Emission halvingInterval totalDuration →
    ∀ periods, counts periods →
      schedule.vestedAmount total startTime (startTime + periods * halvingInterval) =
        some (min total (∑ period ∈ Finset.range periods, total / 4 / 2 ^ period))

theorem fits_of_productFits (admissible : schedule.Admissible)
    (product : schedule.ProductFits total startTime time) : schedule.Fits total startTime time := by
  cases schedule with
  | Linear cliff duration tgePercent =>
    refine ⟨Nat.div_le_of_le_mul ?_, product⟩
    rw [Nat.mul_comm 100]
    exact mul_le_mul_left total admissible
  | Emission halvingInterval totalDuration =>
    exact fun begins goes => ⟨admissible, product begins goes⟩
  | Immediate => trivial
  | DaoControlled => trivial
  | Strategic => trivial

theorem checkedPeriods_eq {initial : Nat} (small : 2 * initial < 2 ^ 128) (period : Nat) :
    checkedPeriods initial period = some (initial / 2 ^ (period - 1), halvings initial period) := by
  induction period with
  | zero =>
    rw [checkedPeriods, Nat.zero_sub, Nat.pow_zero, Nat.div_one]
    rfl
  | succ period ih =>
    have current : (if period > 0 then initial / 2 ^ (period - 1) / 2
        else initial / 2 ^ (period - 1)) = initial / 2 ^ period := by
      split
      next positive =>
        rw [Nat.div_div_eq_div_mul, ← Nat.pow_succ, Nat.succ_eq_add_one,
          Nat.sub_add_cancel positive]
      next zero => rw [Nat.eq_zero_of_not_pos zero]
    have bound := halvings_le initial (period + 1)
    rw [halvings] at bound
    rw [checkedPeriods, ih]
    show (add 128 (halvings initial period) (if period > 0 then initial / 2 ^ (period - 1) / 2
      else initial / 2 ^ (period - 1))).bind _ = _
    rw [current, add_of_lt (lt_of_le_of_lt bound small)]
    rfl

theorem checkedPeriod_eq {initial period : Nat} (early : period < 13) :
    checkedPeriod initial period = some (initial / 2 ^ period) := by
  unfold checkedPeriod
  split
  next zero => rw [zero, Nat.pow_zero, Nat.div_one]
  · rw [shl_one_of_lt (lt_trans early (by decide)), bind_some,
      div_of_pos (Nat.two_pow_pos period)]

/-- The checked computation stops exactly where the product does not fit, and gives the exact amount
elsewhere. -/
theorem checkedEmission_eq {elapsed halvingInterval totalDuration : Nat}
    (small : 2 * (total / 4) < 2 ^ 128) (positive : 0 < halvingInterval)
    (goes : ¬totalDuration ≤ elapsed) :
    checkedEmission total elapsed halvingInterval totalDuration =
      if elapsed / halvingInterval < 13 → total / 4 / 2 ^ (elapsed / halvingInterval) *
          (elapsed % halvingInterval) < 2 ^ 128 then
        some (min total (halvings (total / 4) (elapsed / halvingInterval) +
          begun (total / 4) (elapsed / halvingInterval) (elapsed % halvingInterval)
            halvingInterval))
      else none := by
  have inside : elapsed % halvingInterval < halvingInterval := mod_lt _ positive
  rw [checkedEmission, if_neg goes, div_of_pos positive, rem_of_pos positive]
  simp only [bind_eq_bind, bind_some, checkedPeriods_eq small]
  generalize elapsed / halvingInterval = period
  generalize elapsed % halvingInterval = seconds at inside
  have bound := halvings_le (total / 4) (period + 1)
  have part := @begun_le (total / 4) period seconds halvingInterval inside
  rw [halvings] at bound
  unfold begun at part ⊢
  by_cases started : 0 < seconds ∧ period < 13
  · rw [if_pos started] at part ⊢
    rw [if_pos started, checkedPeriod_eq started.2, bind_some]
    by_cases fits : total / 4 / 2 ^ period * seconds < 2 ^ 128
    · rw [if_pos fun _ => fits, mul_of_lt fits, bind_some, div_of_pos positive,
        bind_some, add_of_lt (by omega), bind_some, min_comm]
      rfl
    · rw [if_neg fun fitting => fits (fitting started.2), mul, if_neg fits]
      rfl
  · rw [if_neg started, if_neg started, add_zero, min_comm, if_pos]
    · rfl
    · intro early
      have none : seconds = 0 := by omega
      rw [none, mul_zero]
      exact Nat.two_pow_pos 128

/-- Linear vesting overflows in its product only. -/
theorem checkedAmount_linear (small : total * 256 < 2 ^ 128) {cliff duration : Nat}
    {tgePercent : Fin 256} (share : tgePercent.val ≤ 100) :
    (Linear cliff duration tgePercent).ProductFits total startTime time ∧
        (Linear cliff duration tgePercent).checkedAmount total startTime time =
          some ((Linear cliff duration tgePercent).ideal total startTime time) ∨
      ¬(Linear cliff duration tgePercent).ProductFits total startTime time ∧
        (Linear cliff duration tgePercent).checkedAmount total startTime time = none := by
  have product : total * tgePercent.val < 2 ^ 128 :=
    lt_of_le_of_lt (mul_le_mul_left total (le_trans share (by decide))) small
  have unlocked : total * tgePercent.val / 100 ≤ total := by
    refine Nat.div_le_of_le_mul ?_
    rw [Nat.mul_comm 100]
    exact mul_le_mul_left total share
  simp only [checkedAmount, mul_of_lt product, ideal, ProductFits]
  by_cases begins : time ≤ startTime
  · rw [if_pos begins, if_pos begins]
    exact .inl ⟨fun begun => absurd begins (Nat.not_le_of_lt begun), rfl⟩
  · rw [if_neg begins, if_neg begins, sub_of_le (Nat.le_of_not_le begins)]
    simp only [bind_eq_bind, bind_some, sub_of_le unlocked]
    generalize total * tgePercent.val / 100 = tge at unlocked ⊢
    by_cases waits : time - startTime < cliff
    · rw [if_pos waits, if_pos waits]
      exact .inl ⟨fun _ waited => absurd waits (Nat.not_lt_of_le waited), rfl⟩
    · rw [if_neg waits, if_neg waits]
      by_cases ends : duration ≤ time - startTime
      · rw [if_pos ends, if_pos ends]
        exact .inl ⟨fun _ _ goes => absurd ends (Nat.not_le_of_lt goes), rfl⟩
      · rw [if_neg ends, if_neg ends, sub_of_le (by omega), bind_some,
          sub_of_le (by omega), bind_some]
        by_cases fits : (total - tge) * (time - startTime - cliff) < 2 ^ 128
        · have part := @linear_part_le (total - tge) (time - startTime - cliff) (duration - cliff)
            (by omega)
          rw [mul_of_lt fits, bind_some, div_of_pos (by omega), bind_some,
            add_of_lt (by omega)]
          exact .inl ⟨fun _ _ _ => fits, rfl⟩
        · rw [mul, if_neg fits]
          have beyond : ¬(startTime < time → cliff ≤ time - startTime →
              time - startTime < duration → (total - tge) * (time - startTime - cliff) < 2 ^ 128) :=
            fun fitting => fits (fitting (Nat.lt_of_not_le begins) (Nat.le_of_not_lt waits)
              (Nat.lt_of_not_le ends))
          exact .inr ⟨beyond, bind_none _⟩

theorem checkedAmount_emission (small : total * 256 < 2 ^ 128)
    {halvingInterval totalDuration : Nat} (positive : 0 < halvingInterval) :
    (Emission halvingInterval totalDuration).ProductFits total startTime time ∧
        (Emission halvingInterval totalDuration).checkedAmount total startTime time =
          some ((Emission halvingInterval totalDuration).ideal total startTime time) ∨
      ¬(Emission halvingInterval totalDuration).ProductFits total startTime time ∧
        (Emission halvingInterval totalDuration).checkedAmount total startTime time = none := by
  simp only [checkedAmount, ideal, ProductFits]
  by_cases begins : time ≤ startTime
  · rw [if_pos begins, if_pos begins]
    exact .inl ⟨fun begun => absurd begins (Nat.not_le_of_lt begun), rfl⟩
  · rw [if_neg begins, if_neg begins, sub_of_le (Nat.le_of_not_le begins)]
    simp only [bind_eq_bind, bind_some]
    by_cases ends : totalDuration ≤ time - startTime
    · rw [if_pos ends, checkedEmission, if_pos ends]
      exact .inl ⟨fun _ goes => absurd ends (Nat.not_le_of_lt goes), rfl⟩
    · rw [if_neg ends, checkedEmission_eq (by omega) positive ends]
      split
      next fits => exact .inl ⟨fun _ _ => fits, rfl⟩
      next beyond =>
        exact .inr ⟨fun fits => beyond (fits (Nat.lt_of_not_le begins) (Nat.lt_of_not_le ends)),
          rfl⟩

theorem checkedAmount_cases (admissible : schedule.Admissible)
    (small : total ≤ TOTAL_GENESIS_SUPPLY) (startTime time : Nat) :
    schedule.ProductFits total startTime time ∧
        schedule.checkedAmount total startTime time =
          some (schedule.ideal total startTime time) ∨
      ¬schedule.ProductFits total startTime time ∧
        schedule.checkedAmount total startTime time = none := by
  have room : total * 256 < 2 ^ 128 :=
    lt_of_le_of_lt (mul_le_mul_right 256 small) supply_lt
  cases schedule with
  | Immediate =>
    refine .inl ⟨trivial, ?_⟩
    unfold checkedAmount
    split
    · rfl
    next begins =>
      rw [sub_of_le (Nat.le_of_not_le begins)]
      rfl
  | Linear cliff duration tgePercent => exact checkedAmount_linear room admissible
  | Emission halvingInterval totalDuration => exact checkedAmount_emission room admissible
  | DaoControlled => exact absurd admissible id
  | Strategic => exact absurd admissible id

theorem halvings_eq_sum (initial periods : Nat) :
    halvings initial periods = ∑ period ∈ Finset.range periods, initial / 2 ^ period := by
  induction periods with
  | zero => rfl
  | succ periods ih => rw [halvings, ih, Finset.sum_range_succ]

theorem ideal_of_due (due : schedule.Due startTime time) :
    schedule.ideal total startTime time = total := by
  cases schedule with
  | Immediate => rfl
  | Linear cliff duration tgePercent =>
    obtain ⟨begun, waited, ended⟩ := due
    simp only [ideal]
    rw [if_neg (Nat.not_le_of_lt begun), if_neg (by omega), if_pos (by omega)]
  | Emission halvingInterval totalDuration =>
    obtain ⟨begun, ended⟩ := due
    simp only [ideal]
    rw [if_neg (Nat.not_le_of_lt begun), if_pos (by omega)]
  | DaoControlled => exact absurd due id
  | Strategic => exact absurd due id

theorem productFits_of_due (due : schedule.Due startTime time) :
    schedule.ProductFits total startTime time := by
  cases schedule with
  | Immediate => trivial
  | Linear cliff duration tgePercent =>
    intro _ _ goes
    have ended := due.2.2
    omega
  | Emission halvingInterval totalDuration =>
    intro _ goes
    have ended := due.2
    omega
  | DaoControlled => trivial
  | Strategic => trivial

theorem ideal_of_halves {halvingInterval totalDuration periods : Nat}
    (positive : 0 < halvingInterval)
    (counts : (Emission halvingInterval totalDuration).Halves periods) :
    (Emission halvingInterval totalDuration).ideal total startTime
        (startTime + periods * halvingInterval) =
      min total (halvings (total / 4) periods) := by
  simp only [ideal]
  rw [Nat.add_sub_cancel_left]
  by_cases none : periods = 0
  · rw [none, zero_mul, add_zero, if_pos (le_refl _)]
    exact (min_eq_right (zero_le _)).symm
  · have goes : periods * halvingInterval < totalDuration := counts.resolve_left none
    have begun : 0 < periods * halvingInterval :=
      Nat.mul_pos (Nat.pos_of_ne_zero none) positive
    rw [if_neg (by omega), if_neg (Nat.not_le_of_lt goes), Nat.mul_div_cancel _ positive,
      mul_mod_left]
    rfl

theorem productFits_of_fifty_years (small : total ≤ TOTAL_GENESIS_SUPPLY)
    (short : time - startTime ≤ 50 * SECONDS_PER_YEAR) :
    schedule.ProductFits total startTime time := by
  have room : TOTAL_GENESIS_SUPPLY * (50 * SECONDS_PER_YEAR) < 2 ^ 128 := by decide
  cases schedule with
  | Linear cliff duration tgePercent =>
    intro _ _ _
    have amount : total - total * tgePercent.val / 100 ≤ TOTAL_GENESIS_SUPPLY :=
      le_trans (sub_le _ _) small
    have seconds : time - startTime - cliff ≤ 50 * SECONDS_PER_YEAR :=
      le_trans (sub_le _ _) short
    exact Nat.lt_of_le_of_lt (Nat.mul_le_mul amount seconds) room
  | Emission halvingInterval totalDuration =>
    intro _ _ _
    have amount : total / 4 / 2 ^ ((time - startTime) / halvingInterval) ≤
        TOTAL_GENESIS_SUPPLY :=
      le_trans (div_le_self _ _) (le_trans (div_le_self _ _) small)
    have seconds : (time - startTime) % halvingInterval ≤ 50 * SECONDS_PER_YEAR :=
      le_trans (mod_le _ _) short
    exact Nat.lt_of_le_of_lt (Nat.mul_le_mul amount seconds) room
  | Immediate => trivial
  | DaoControlled => trivial
  | Strategic => trivial

/-- At every time whose product fits, which is where the checked computation goes through and takes
in the first fifty years. -/
theorem vests (schedule : VestingSchedule) (total startTime : Nat)
    (admissible : schedule.Admissible) (small : total ≤ TOTAL_GENESIS_SUPPLY) :
    schedule.Vests total startTime (schedule.ProductFits total startTime)
        (schedule.Due startTime) schedule.Halves ∧
      (∀ time, schedule.ProductFits total startTime time ↔
        (schedule.checkedAmount total startTime time).isSome) ∧
      ∀ time, time - startTime ≤ 50 * SECONDS_PER_YEAR →
        schedule.ProductFits total startTime time := by
  have exactly : ∀ time, schedule.ProductFits total startTime time →
      schedule.vestedAmount total startTime time =
        some (schedule.ideal total startTime time) := fun time product =>
    vestedAmount_eq small (fits_of_productFits admissible product)
  refine ⟨⟨fun time product => ?_, fun early late le before after less first more second => ?_,
    fun time due => ?_, fun halvingInterval totalDuration emits periods counts => ?_⟩,
    fun time => ?_, fun time => productFits_of_fifty_years small⟩
  · refine ⟨_, ideal_le_total (fits_of_productFits admissible product), ?_, exactly time product⟩
    obtain ⟨-, checked⟩ | ⟨beyond, -⟩ := checkedAmount_cases admissible small startTime time
    · exact checked
    · exact absurd product beyond
  · obtain rfl := some.inj ((exactly early before).symm.trans first)
    obtain rfl := some.inj ((exactly late after).symm.trans second)
    exact ideal_mono le (fits_of_productFits admissible before)
      (fits_of_productFits admissible after)
  · rw [exactly time (productFits_of_due due), ideal_of_due due]
  · subst emits
    have whole : (periods * halvingInterval) % halvingInterval = 0 := mul_mod_left ..
    rw [exactly, ideal_of_halves admissible counts, halvings_eq_sum]
    intro _ _ _
    rw [Nat.add_sub_cancel_left, whole, Nat.mul_zero]
    exact Nat.two_pow_pos 128
  · obtain ⟨product, checked⟩ | ⟨beyond, stopped⟩ :=
      checkedAmount_cases admissible small startTime time
    · rw [checked]
      exact iff_of_true product rfl
    · rw [stopped]
      exact iff_of_false beyond nofun

/-- The whole supply under the schedule of the core contributors, from genesis. -/
theorem vests_coreContributors :
    AllocationCategory.CoreContributors.vestingSchedule.Vests TOTAL_GENESIS_SUPPLY 0
        (AllocationCategory.CoreContributors.vestingSchedule.ProductFits TOTAL_GENESIS_SUPPLY 0)
        (AllocationCategory.CoreContributors.vestingSchedule.Due 0)
        AllocationCategory.CoreContributors.vestingSchedule.Halves := by
  have admissible : AllocationCategory.CoreContributors.vestingSchedule.Admissible :=
    zero_le 100
  exact (vests _ _ 0 admissible (le_refl _)).1

/-- Without the conditions: a cliff that outlasts the duration, a product beyond a `u128`, the
period that ends with the whole duration, an interval under a second, and no duration at all. -/
theorem not_vests_always :
    ¬(Linear 200 100 0).Vests 100 0 (fun _ => True) (Over (Linear 200 100 0) 0)
        (fun _ => True) ∧
      ¬(Linear 0 (2 ^ 40) 0).Vests TOTAL_GENESIS_SUPPLY 0 (fun _ => True)
        (Over (Linear 0 (2 ^ 40) 0) 0) (fun _ => True) ∧
      ¬(Emission 10 10).Vests 1000 0 (fun _ => True) (Over (Emission 10 10) 0)
        (fun _ => True) ∧
      ¬(Emission 0 100).Vests 1000 0 (fun _ => True) (Over (Emission 0 100) 0)
        (fun _ => True) ∧
      ¬(Linear 0 0 0).Vests 1000 5 (fun _ => True) (Over (Linear 0 0 0) 5) (fun _ => True) := by
  refine ⟨fun vests => ?_, fun vests => ?_, fun vests => ?_, fun vests => ?_, fun vests => ?_⟩
  · exact absurd (vests.completes 150 (by unfold Over fullDuration; decide)) (by decide)
  · obtain ⟨amount, -, checked, -⟩ := vests.bounded (2 ^ 36) trivial
    have stopped : (Linear 0 (2 ^ 40) 0).checkedAmount TOTAL_GENESIS_SUPPLY 0 (2 ^ 36) = none := by
      decide +kernel
    rw [stopped] at checked
    exact nomatch checked
  · exact absurd (vests.halves 10 10 rfl 1 trivial) (by decide)
  · obtain ⟨amount, -, checked, -⟩ := vests.bounded 50 trivial
    have stopped : (Emission 0 100).checkedAmount 1000 0 50 = none := by decide
    rw [stopped] at checked
    exact nomatch checked
  · exact absurd (vests.completes 5 (by unfold Over fullDuration; decide)) (by decide)

end Vm.VestingSchedule
