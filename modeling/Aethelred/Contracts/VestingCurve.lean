import Aethelred.Contracts.AethelredVesting
import Aethelred.Pouw.Vesting

/- What a schedule unlocks with time in exact arithmetic, and where the contract and the node agree
on it. -/
namespace AethelredVesting

open Evm Nat Int

namespace VestingSchedule

variable (schedule : VestingSchedule)

def tgeAmount : Nat := schedule.totalAmount * schedule.tgeUnlockBps / BPS_DENOMINATOR

def cliffAmount : Nat := schedule.totalAmount * schedule.cliffUnlockBps / BPS_DENOMINATOR

def linearAmount (elapsed : Nat) : Nat :=
  (schedule.totalAmount - schedule.tgeAmount - schedule.cliffAmount) *
    (elapsed - schedule.cliffDuration) / (schedule.vestingDuration - schedule.cliffDuration)

def unlocked (elapsed : Nat) : Nat :=
  if schedule.vestingType = .IMMEDIATE then schedule.totalAmount
  else if elapsed < schedule.cliffDuration then schedule.tgeAmount
  else if schedule.vestingDuration ≤ elapsed then schedule.totalAmount
  else schedule.tgeAmount + schedule.cliffAmount + schedule.linearAmount elapsed

/-- The products of the whole life of a schedule fit a word. -/
def Fits : Prop :=
  schedule.vestingType = .IMMEDIATE ∨
    schedule.totalAmount * schedule.tgeUnlockBps < wordBound ∧
    schedule.totalAmount * schedule.cliffUnlockBps < wordBound ∧
    (schedule.totalAmount - schedule.tgeAmount - schedule.cliffAmount) *
      (schedule.vestingDuration - schedule.cliffDuration - 1) < wordBound

instance : Decidable schedule.Fits := inferInstanceAs (Decidable (_ ∨ _))

/-- What the checks of a new schedule establish, and that its products fit. -/
structure Sized : Prop where
  upfront : schedule.tgeUnlockBps + schedule.cliffUnlockBps ≤ 8000
  total : schedule.totalAmount < wordBound
  fits : schedule.Fits

variable {schedule}

theorem Sized.unlocks (sized : schedule.Sized) :
    schedule.tgeAmount + schedule.cliffAmount ≤ schedule.totalAmount := by
  have shares : schedule.totalAmount * (schedule.tgeUnlockBps + schedule.cliffUnlockBps) ≤
      schedule.totalAmount * 8000 := mul_le_mul_left _ sized.upfront
  rw [mul_add] at shares
  unfold tgeAmount cliffAmount BPS_DENOMINATOR
  omega

theorem linearAmount_le {elapsed : Nat} (early : elapsed ≤ schedule.vestingDuration) :
    schedule.linearAmount elapsed ≤
      schedule.totalAmount - schedule.tgeAmount - schedule.cliffAmount := by
  refine Nat.div_le_of_le_mul ?_
  rw [Nat.mul_comm (schedule.vestingDuration - schedule.cliffDuration)]
  exact Nat.mul_le_mul_left _ (Nat.sub_le_sub_right early _)

theorem linearAmount_mono {early late : Nat} (later : early ≤ late) :
    schedule.linearAmount early ≤ schedule.linearAmount late :=
  Nat.div_le_div_right (Nat.mul_le_mul_left _ (Nat.sub_le_sub_right later _))

theorem Sized.unlocked_le (sized : schedule.Sized) (elapsed : Nat) :
    schedule.unlocked elapsed ≤ schedule.totalAmount := by
  have upfront := sized.unlocks
  unfold unlocked
  split
  · exact le_refl _
  · split
    · omega
    · split
      · exact le_refl _
      next unfinished =>
        have linear := linearAmount_le (Nat.le_of_not_le unfinished)
        omega

/-- What is unlocked never falls. -/
theorem Sized.unlocked_mono (sized : schedule.Sized) {early late : Nat} (later : early ≤ late) :
    schedule.unlocked early ≤ schedule.unlocked late := by
  by_cases immediate : schedule.vestingType = .IMMEDIATE
  · simp only [unlocked, immediate, if_true]
    exact le_refl _
  · by_cases finished : ¬late < schedule.cliffDuration ∧ schedule.vestingDuration ≤ late
    · have whole : schedule.unlocked late = schedule.totalAmount := by
        rw [unlocked, if_neg immediate, if_neg finished.1, if_pos finished.2]
      rw [whole]
      exact sized.unlocked_le early
    · unfold unlocked
      rw [if_neg immediate, if_neg immediate]
      by_cases before : early < schedule.cliffDuration
      · rw [if_pos before]
        split
        · exact le_refl _
        · have upfront := sized.unlocks
          split <;> omega
      · have after : ¬late < schedule.cliffDuration := by omega
        have unfinished : ¬schedule.vestingDuration ≤ late := fun ends => finished ⟨after, ends⟩
        rw [if_neg before, if_neg after, if_neg unfinished, if_neg (by omega)]
        have linear : schedule.linearAmount early ≤ schedule.linearAmount late :=
          linearAmount_mono later
        omega

end VestingSchedule

section Computation

variable {chain : Chain} {schedule : VestingSchedule}

/-- The contract's arithmetic is exact on sized schedules. -/
theorem vestedAfter_eq (sized : schedule.Sized) (elapsed : Nat) :
    vestedAfter schedule elapsed = .ok (schedule.unlocked elapsed) := by
  unfold vestedAfter VestingSchedule.unlocked
  by_cases immediate : schedule.vestingType = .IMMEDIATE
  · rw [if_pos immediate, if_pos immediate]
  · obtain ⟨tge, cliff, product⟩ := sized.fits.resolve_left immediate
    rw [if_neg immediate, if_neg immediate, checkedMul_bind_eq_ok]
    refine ⟨tge, ?_⟩
    by_cases before : elapsed < schedule.cliffDuration
    · rw [if_pos before, if_pos before]
      rfl
    · rw [if_neg before, if_neg before, checkedMul_bind_eq_ok]
      refine ⟨cliff, ?_⟩
      by_cases finished : schedule.vestingDuration ≤ elapsed
      · simp only [finished, or_true, if_true]
        rfl
      · have started : ¬schedule.vestingDuration = 0 := by omega
        have longer : ¬schedule.vestingDuration ≤ schedule.cliffDuration := by omega
        have unlocks := sized.unlocks
        have early : elapsed ≤ schedule.vestingDuration := Nat.le_of_not_le finished
        have linear := VestingSchedule.linearAmount_le early
        have total := sized.total
        have part : (schedule.totalAmount - schedule.tgeAmount - schedule.cliffAmount) *
            (elapsed - schedule.cliffDuration) < wordBound := by
          refine lt_of_le_of_lt (mul_le_mul_left _ ?_) product
          omega
        simp only [started, finished, longer, or_self, if_false, checkedSub_bind_eq_ok,
          checkedAdd_bind_eq_ok, checkedMul_bind_eq_ok]
        change schedule.tgeAmount ≤ _ ∧ schedule.cliffAmount ≤ _ - schedule.tgeAmount ∧
          schedule.tgeAmount + schedule.cliffAmount < _ ∧
          (_ - schedule.tgeAmount - schedule.cliffAmount) * _ < _ ∧
          schedule.tgeAmount + schedule.cliffAmount + schedule.linearAmount elapsed < _ ∧
          pure (if _ < schedule.tgeAmount + schedule.cliffAmount + schedule.linearAmount elapsed
            then _ else _) = _
        refine ⟨by omega, by omega, by omega, part, by omega, ?_⟩
        rw [if_neg (by omega)]
        rfl

def startOf (chain : Chain) (schedule : VestingSchedule) : Nat :=
  if 0 < schedule.startTime then schedule.startTime else chain.vesting.tgeTime

def endOf (chain : Chain) (schedule : VestingSchedule) : Nat :=
  if schedule.revoked then schedule.revokedTime else chain.block.timestamp

def vestedOf (chain : Chain) (schedule : VestingSchedule) : Nat :=
  if chain.vesting.tgeOccurred = false then 0
  else if endOf chain schedule < startOf chain schedule then 0
  else schedule.unlocked (endOf chain schedule - startOf chain schedule)

theorem computeVested_eq (sized : schedule.Sized) :
    computeVested chain schedule = .ok (vestedOf chain schedule) := by
  unfold computeVested vestedOf
  by_cases waiting : chain.vesting.tgeOccurred = false
  · rw [if_pos waiting, if_pos waiting]
  · rw [if_neg waiting, if_neg waiting]
    show (if endOf chain schedule < startOf chain schedule then _ else _) = _
    by_cases early : endOf chain schedule < startOf chain schedule
    · rw [if_pos early, if_pos early]
    · rw [if_neg early, if_neg early]
      exact vestedAfter_eq sized _

end Computation

section Node

variable {chain : Chain} {s : Pouw.VestingSchedule}

def ofNode (s : Pouw.VestingSchedule) (schedule : VestingSchedule) : VestingSchedule :=
  { schedule with
    totalAmount := s.totalUAETHEL.val.toNat
    vestingType := .CLIFF_LINEAR
    cliffDuration := s.cliffBlocks.val.toNat
    vestingDuration := s.vestingBlocks.val.toNat
    tgeUnlockBps := s.tgeUnlockBps.val.toNat
    cliffUnlockBps := s.cliffPercent.val.toNat
    revoked := false }

section Valid

variable (valid : s.Valid) (schedule : VestingSchedule)

include valid

theorem tgeAmount_ofNode : ((ofNode s schedule).tgeAmount : Int) = s.tgeAmount := by
  unfold ofNode VestingSchedule.tgeAmount Pouw.VestingSchedule.tgeAmount BPS_DENOMINATOR
  rw [natCast_ediv, natCast_mul, toNat_of_nonneg (le_of_lt valid.total),
    toNat_of_nonneg valid.tge]
  rfl

theorem cliffAmount_ofNode : ((ofNode s schedule).cliffAmount : Int) = s.cliffAmount := by
  unfold ofNode VestingSchedule.cliffAmount Pouw.VestingSchedule.cliffAmount BPS_DENOMINATOR
  rw [natCast_ediv, natCast_mul, toNat_of_nonneg (le_of_lt valid.total),
    toNat_of_nonneg valid.percent]
  rfl

/-- The node's accepted schedules fit a word. -/
theorem sized_ofNode : (ofNode s schedule).Sized := by
  have word : 2 ^ 63 * 2 ^ 63 < wordBound := by decide
  have total : s.totalUAETHEL.val.toNat ≤ 2 ^ 63 := by
    have fits := s.totalUAETHEL.fits
    unfold Go.Int64.Fits at fits
    omega
  have unlock := valid.unlock
  have tge := valid.tge
  have percent := valid.percent
  have product : ∀ {a b : Nat}, a ≤ 2 ^ 63 → b ≤ 2 ^ 63 → a * b < wordBound :=
    fun first second => Nat.lt_of_le_of_lt (Nat.mul_le_mul first second) word
  refine {
    upfront := ?_
    total := ?_
    fits := .inr ⟨product total ?_, product total ?_, product ?_ ?_⟩ }
  · show s.tgeUnlockBps.val.toNat + s.cliffPercent.val.toNat ≤ 8000
    omega
  · exact lt_of_le_of_lt total (by decide)
  · show s.tgeUnlockBps.val.toNat ≤ 2 ^ 63
    omega
  · show s.cliffPercent.val.toNat ≤ 2 ^ 63
    omega
  · exact (sub_le _ _).trans ((sub_le _ _).trans total)
  · refine (sub_le _ _).trans ?_
    refine (sub_le _ _).trans ?_
    show s.vestingBlocks.val.toNat ≤ 2 ^ 63
    have fits := s.vestingBlocks.fits
    unfold Go.Int64.Fits at fits
    omega

/-- Contract and node unlock the same amount. -/
theorem unlocked_ofNode (linear : s.linearAfterCliff = true) (elapsed : Nat) :
    ((ofNode s schedule).unlocked elapsed : Int) = s.released elapsed := by
  have tge := tgeAmount_ofNode valid schedule
  have cliffPart := cliffAmount_ofNode valid schedule
  have upfront := (sized_ofNode valid schedule).unlocks
  have total : ((ofNode s schedule).totalAmount : Int) = s.totalUAETHEL.val :=
    toNat_of_nonneg (le_of_lt valid.total)
  have cliff : ((ofNode s schedule).cliffDuration : Int) = s.cliffBlocks.val :=
    toNat_of_nonneg valid.cliff
  have ends : ((ofNode s schedule).vestingDuration : Int) = s.vestingBlocks.val :=
    toNat_of_nonneg (le_of_lt (lt_of_le_of_lt valid.cliff valid.ends))
  have gradual : ¬(ofNode s schedule).vestingType = .IMMEDIATE := nofun
  unfold VestingSchedule.unlocked Pouw.VestingSchedule.released
  rw [if_neg gradual]
  by_cases before : elapsed < (ofNode s schedule).cliffDuration
  · have early : (elapsed : Int) < s.cliffBlocks.val := by omega
    rw [if_pos before, if_pos early, tge]
  · have late : ¬(elapsed : Int) < s.cliffBlocks.val := by omega
    rw [if_neg before, if_neg late]
    by_cases finished : (ofNode s schedule).vestingDuration ≤ elapsed
    · have ended : (elapsed : Int) ≥ s.vestingBlocks.val := by omega
      rw [if_pos finished, if_pos ended, total]
    · have running : ¬(elapsed : Int) ≥ s.vestingBlocks.val := by omega
      rw [if_neg finished, if_neg running]
      have rest : (((ofNode s schedule).totalAmount - (ofNode s schedule).tgeAmount -
          (ofNode s schedule).cliffAmount : Nat) : Int) =
          s.totalUAETHEL.val - s.tgeAmount - s.cliffAmount := by omega
      have waited : ((elapsed - (ofNode s schedule).cliffDuration : Nat) : Int) =
          elapsed - s.cliffBlocks.val := by omega
      have stretch : (((ofNode s schedule).vestingDuration -
          (ofNode s schedule).cliffDuration : Nat) : Int) =
          s.vestingBlocks.val - s.cliffBlocks.val := by omega
      have part : ((ofNode s schedule).linearAmount elapsed : Int) = s.linearAmount elapsed := by
        unfold VestingSchedule.linearAmount Pouw.VestingSchedule.linearAmount
        rw [if_pos linear, natCast_ediv, natCast_mul, rest, waited, stretch]
      rw [natCast_add, natCast_add, tge, cliffPart, part]

end Valid

/-- The contract and the node vest the same, at every time and for every schedule that the node
accepts and that is linear after its cliff. -/
theorem computeVested_eq_vestedAmount {schedules : List Pouw.VestingSchedule}
    (accepted : Pouw.validateVestingSchedules schedules = .ok ()) (member : s ∈ schedules)
    (linear : s.linearAfterCliff = true) (schedule : VestingSchedule)
    (active : chain.vesting.tgeOccurred = true) {elapsed : Nat} (fits : Go.Int64.Fits elapsed)
    (now : chain.block.timestamp = startOf chain schedule + elapsed) :
    ∃ vested, computeVested chain (ofNode s schedule) = .ok vested ∧
      (vested : Int) = Pouw.vestedAmount s elapsed := by
  have valid := Pouw.valid_of_validateVestingSchedules accepted s member
  refine ⟨_, computeVested_eq (sized_ofNode valid schedule), ?_⟩
  have counted : endOf chain (ofNode s schedule) = startOf chain schedule + elapsed := now
  have start : startOf chain (ofNode s schedule) = startOf chain schedule := rfl
  rw [vestedOf, active, if_neg (by decide), counted, start,
    if_neg (Nat.not_lt.mpr (Nat.le_add_right _ _)), Nat.add_sub_cancel_left,
    unlocked_ofNode valid schedule linear, valid.vestedAmount_eq (natCast_nonneg _) fits]

def grantOfNode : Pouw.VestingSchedule where
  category := "grants"
  totalUAETHEL := ⟨1000003, by decide⟩
  tgeUnlockBps := .ofInt 200
  cliffBlocks := .ofInt 100
  vestingBlocks := .ofInt 1000
  cliffPercent := ⟨2500, by decide⟩
  linearAfterCliff := true

def afterTGE (elapsed : Nat) : Chain where
  block := ⟨1, 1719000000 + elapsed, Nat.add_pos_left (by decide) elapsed⟩
  token := ⟨fun _ => 0, fun _ _ => 0⟩
  vesting := { Storage.blank with tgeTime := 1719000000, tgeOccurred := true }

theorem computeVested_eq_vestedAmount_grant :
    Pouw.vestedAmount grantOfNode 333 = 458989 ∧
      ∃ vested, computeVested (afterTGE 333) (ofNode grantOfNode {}) = .ok vested ∧
        (vested : Int) = Pouw.vestedAmount grantOfNode 333 := by
  have accepted : Pouw.validateVestingSchedules [grantOfNode] = .ok () := by decide
  have listed : grantOfNode ∈ [grantOfNode] := List.mem_singleton_self _
  exact ⟨by decide, computeVested_eq_vestedAmount accepted listed rfl {} rfl (by decide) rfl⟩

end Node

end AethelredVesting
