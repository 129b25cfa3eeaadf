import Aethelred.Go.Int64
import Aethelred.Lib.Result

/- How the allocations of the genesis supply are released. -/
namespace Pouw

open Go Int

def initialSupplyUAETHEL : Int := 10000000000000000

structure VestingSchedule where
  category : String
  totalUAETHEL : I64
  tgeUnlockBps : I64
  cliffBlocks : I64
  vestingBlocks : I64
  cliffPercent : I64
  linearAfterCliff : Bool

inductive VestingError where
  | emptyCategory
  | duplicateCategory (category : String)
  | totalNotPositive (category : String)
  | vestingNotPositive (category : String)
  | negativeCliff (category : String)
  | cliffNotBeforeEnd (category : String) (cliff vesting : Int)
  | tgeOutOfRange (category : String) (bps : Int)
  | cliffPercentOutOfRange (category : String) (bps : Int)
  | unlockTooLarge (category : String) (tge cliff : Int)
  | allocationExceedsSupply (allocated supply : Int)
deriving DecidableEq

def validateVestingSchedule (state : List String × Int) (s : VestingSchedule) :
    Except VestingError (List String × Int) :=
  if s.category = "" then .error .emptyCategory
  else if s.category ∈ state.1 then .error (.duplicateCategory s.category)
  else if s.totalUAETHEL.val ≤ 0 then .error (.totalNotPositive s.category)
  else if s.vestingBlocks.val ≤ 0 then .error (.vestingNotPositive s.category)
  else if s.cliffBlocks.val < 0 then .error (.negativeCliff s.category)
  else if s.cliffBlocks.val ≥ s.vestingBlocks.val then
    .error (.cliffNotBeforeEnd s.category s.cliffBlocks.val s.vestingBlocks.val)
  else if s.tgeUnlockBps.val < 0 ∨ s.tgeUnlockBps.val > 5000 then
    .error (.tgeOutOfRange s.category s.tgeUnlockBps.val)
  else if s.cliffPercent.val < 0 ∨ s.cliffPercent.val > 5000 then
    .error (.cliffPercentOutOfRange s.category s.cliffPercent.val)
  else if Int64.wrap (s.tgeUnlockBps.val + s.cliffPercent.val) > 8000 then
    .error (.unlockTooLarge s.category s.tgeUnlockBps.val s.cliffPercent.val)
  else .ok (s.category :: state.1, Int64.wrap (state.2 + s.totalUAETHEL.val))

def validateVestingSchedules (schedules : List VestingSchedule) : Except VestingError Unit := do
  let (_, totalAllocated) ← schedules.foldlM validateVestingSchedule ([], 0)
  if totalAllocated > initialSupplyUAETHEL then
    .error (.allocationExceedsSupply totalAllocated initialSupplyUAETHEL)
  else .ok ()

/-- What has vested at a height. Sums and products are big integers, which `narrow` brings back to
64 bits. -/
def vestedWith (narrow : Int → Int) (schedule : VestingSchedule) (blockHeight : Int) : Int :=
  if blockHeight < 0 then 0
  else
    let total := schedule.totalUAETHEL.val
    let tgeAmount := total * schedule.tgeUnlockBps.val / 10000
    if blockHeight < schedule.cliffBlocks.val then narrow tgeAmount
    else
      let cliffAmount := total * schedule.cliffPercent.val / 10000
      if ¬schedule.linearAfterCliff then
        if blockHeight ≥ schedule.vestingBlocks.val then total else narrow (tgeAmount + cliffAmount)
      else if blockHeight ≥ schedule.vestingBlocks.val then total
      else
        let remainingToVest := total - tgeAmount - cliffAmount
        let vestingAfterCliff :=
          Int64.wrap (schedule.vestingBlocks.val - schedule.cliffBlocks.val)
        if vestingAfterCliff ≤ 0 then total
        else
          let elapsed := Int64.wrap (blockHeight - schedule.cliffBlocks.val)
          let linearVested := remainingToVest * elapsed / vestingAfterCliff
          let result := tgeAmount + cliffAmount + linearVested
          if result > total then total else narrow result

def vestedAmount (schedule : VestingSchedule) (blockHeight : Int) : Int :=
  vestedWith Int64.wrap schedule blockHeight

/-- The amount before it is brought back to 64 bits. -/
def exactVestedAmount (schedule : VestingSchedule) (blockHeight : Int) : Int :=
  vestedWith id schedule blockHeight

/-- What the validation makes sure of. -/
structure VestingSchedule.Valid (s : VestingSchedule) : Prop where
  total : 0 < s.totalUAETHEL.val
  cliff : 0 ≤ s.cliffBlocks.val
  ends : s.cliffBlocks.val < s.vestingBlocks.val
  tge : 0 ≤ s.tgeUnlockBps.val
  percent : 0 ≤ s.cliffPercent.val
  unlock : s.tgeUnlockBps.val + s.cliffPercent.val ≤ 8000

theorem valid_of_validateVestingSchedule {s : VestingSchedule} {state state' : List String × Int}
    (accepted : validateVestingSchedule state s = .ok state') : s.Valid := by
  unfold validateVestingSchedule at accepted
  simp only [Except.ite_error_eq_ok] at accepted
  obtain ⟨_, _, total, _, cliff, ends, tge, percent, unlock, _⟩ := accepted
  have exact : Int64.Fits (s.tgeUnlockBps.val + s.cliffPercent.val) := by
    constructor <;> omega
  rw [Int64.wrap_of_fits exact] at unlock
  exact ⟨by omega, by omega, by omega, by omega, by omega, by omega⟩

theorem valid_of_foldlM {schedules : List VestingSchedule} {state state' : List String × Int}
    (accepted : schedules.foldlM validateVestingSchedule state = .ok state') :
    ∀ s ∈ schedules, s.Valid := by
  induction schedules generalizing state with
  | nil =>
    intro s member
    cases member
  | cons first rest ih =>
    rw [List.foldlM_cons, Except.bind_eq_ok] at accepted
    obtain ⟨next, checked, later⟩ := accepted
    intro s member
    rcases List.mem_cons.mp member with rfl | among
    · exact valid_of_validateVestingSchedule checked
    · exact ih later s among

theorem valid_of_validateVestingSchedules {schedules : List VestingSchedule}
    (accepted : validateVestingSchedules schedules = .ok ()) : ∀ s ∈ schedules, s.Valid := by
  unfold validateVestingSchedules at accepted
  rw [Except.bind_eq_ok] at accepted
  obtain ⟨_, checked, _⟩ := accepted
  exact valid_of_foldlM checked

namespace VestingSchedule

variable {s : VestingSchedule}

def tgeAmount (s : VestingSchedule) : Int := s.totalUAETHEL.val * s.tgeUnlockBps.val / 10000

def cliffAmount (s : VestingSchedule) : Int := s.totalUAETHEL.val * s.cliffPercent.val / 10000

def linearAmount (s : VestingSchedule) (blockHeight : Int) : Int :=
  if s.linearAfterCliff then
    (s.totalUAETHEL.val - s.tgeAmount - s.cliffAmount) * (blockHeight - s.cliffBlocks.val) /
      (s.vestingBlocks.val - s.cliffBlocks.val)
  else 0

def released (s : VestingSchedule) (blockHeight : Int) : Int :=
  if blockHeight < s.cliffBlocks.val then s.tgeAmount
  else if blockHeight ≥ s.vestingBlocks.val then s.totalUAETHEL.val
  else s.tgeAmount + s.cliffAmount + s.linearAmount blockHeight

namespace Valid

theorem tgeAmount_nonneg (valid : s.Valid) : 0 ≤ s.tgeAmount :=
  Int.ediv_nonneg (Int.mul_nonneg (Int.le_of_lt valid.total) valid.tge) (by decide)

theorem cliffAmount_nonneg (valid : s.Valid) : 0 ≤ s.cliffAmount :=
  Int.ediv_nonneg (Int.mul_nonneg (Int.le_of_lt valid.total) valid.percent) (by decide)

theorem unlocked_le (valid : s.Valid) : s.tgeAmount + s.cliffAmount ≤ s.totalUAETHEL.val := by
  have shares : s.totalUAETHEL.val * (s.tgeUnlockBps.val + s.cliffPercent.val) ≤
      s.totalUAETHEL.val * 8000 := Int.mul_le_mul_of_nonneg_left valid.unlock (Int.le_of_lt valid.total)
  have positive := valid.total
  rw [mul_add] at shares
  unfold tgeAmount cliffAmount
  omega

variable {h : Int}

section

variable (valid : s.Valid)
include valid

theorem linearAmount_nonneg (late : s.cliffBlocks.val ≤ h) : 0 ≤ s.linearAmount h := by
  have rest := valid.unlocked_le
  have ends := valid.ends
  unfold linearAmount
  split
  · exact Int.ediv_nonneg (Int.mul_nonneg (by omega) (by omega)) (by omega)
  · exact le_refl 0

theorem linearAmount_le (early : h ≤ s.vestingBlocks.val) :
    s.linearAmount h ≤ s.totalUAETHEL.val - s.tgeAmount - s.cliffAmount := by
  have rest := valid.unlocked_le
  have ends := valid.ends
  unfold linearAmount
  split
  · apply Int.ediv_le_of_le_mul (by omega)
    exact Int.mul_le_mul_of_nonneg_left (by omega) (by omega)
  · omega

theorem linearAmount_mono {h h' : Int} (later : h ≤ h') : s.linearAmount h ≤ s.linearAmount h' := by
  have rest := valid.unlocked_le
  have ends := valid.ends
  unfold linearAmount
  split
  · apply Int.ediv_le_ediv (by omega)
    exact Int.mul_le_mul_of_nonneg_left (by omega) (by omega)
  · exact le_refl 0

theorem released_le (h : Int) : s.released h ≤ s.totalUAETHEL.val := by
  have unlocked := valid.unlocked_le
  have cliff := valid.cliffAmount_nonneg
  unfold released
  split
  · omega
  · split
    · exact le_refl _
    · have linear := valid.linearAmount_le (h := h) (by omega)
      omega

theorem released_mono {h h' : Int} (later : h ≤ h') : s.released h ≤ s.released h' := by
  have unlocked := valid.unlocked_le
  have cliff := valid.cliffAmount_nonneg
  have ends := valid.ends
  by_cases finished : s.vestingBlocks.val ≤ h'
  · have whole : s.released h' = s.totalUAETHEL.val := by
      rw [released, if_neg (by omega), if_pos finished]
    rw [whole]
    exact valid.released_le h
  · by_cases before : h < s.cliffBlocks.val
    · have least : s.released h = s.tgeAmount := by rw [released, if_pos before]
      rw [least]
      unfold released
      split
      · exact le_refl _
      · have linear := valid.linearAmount_nonneg (h := h') (by omega)
        omega
    · have linear := valid.linearAmount_mono later
      rw [released, if_neg before, if_neg (by omega), released, if_neg (by omega),
        if_neg finished]
      omega

/-- Bringing back to 64 bits loses nothing, so that the code computes the release. -/
theorem vestedWith_eq {narrow : Int → Int}
    (exact : ∀ x, 0 ≤ x → x ≤ s.totalUAETHEL.val → narrow x = x) (nonnegative : 0 ≤ h)
    (fits : Int64.Fits h) : vestedWith narrow s h = s.released h := by
  have tge := valid.tgeAmount_nonneg
  have cliff := valid.cliffAmount_nonneg
  have unlocked := valid.unlocked_le
  have start := valid.cliff
  have ends := valid.ends
  have vestingFits := s.vestingBlocks.fits
  have duration : Int64.wrap (s.vestingBlocks.val - s.cliffBlocks.val) =
      s.vestingBlocks.val - s.cliffBlocks.val := by
    unfold Int64.Fits at vestingFits
    exact Int64.wrap_of_fits ⟨by omega, by omega⟩
  unfold vestedWith released
  rw [if_neg (by omega)]
  dsimp only
  rw [duration]
  by_cases before : h < s.cliffBlocks.val
  · rw [if_pos before, if_pos before]
    exact exact s.tgeAmount tge (by omega)
  · have elapsed : Int64.wrap (h - s.cliffBlocks.val) = h - s.cliffBlocks.val := by
      unfold Int64.Fits at fits
      exact Int64.wrap_of_fits ⟨by omega, by omega⟩
    rw [if_neg before, if_neg before, elapsed]
    by_cases finished : h ≥ s.vestingBlocks.val
    · simp only [finished, ↓reduceIte, ite_self]
    · have lower := valid.linearAmount_nonneg (h := h) (by omega)
      have upper := valid.linearAmount_le (h := h) (by omega)
      rw [if_neg finished, if_neg finished, if_neg finished]
      cases linear : s.linearAfterCliff with
      | false =>
        have none : s.linearAmount h = 0 := by rw [linearAmount, linear, if_neg (by decide)]
        rw [none, add_zero, if_pos (by decide)]
        exact exact (s.tgeAmount + s.cliffAmount) (add_nonneg tge cliff) unlocked
      | true =>
        have amount : (s.totalUAETHEL.val - s.tgeAmount - s.cliffAmount) *
            (h - s.cliffBlocks.val) / (s.vestingBlocks.val - s.cliffBlocks.val) =
              s.linearAmount h := by rw [linearAmount, linear, if_pos rfl]
        rw [if_neg (by decide), if_neg (by omega)]
        unfold tgeAmount cliffAmount at amount
        rw [amount]
        show (if s.tgeAmount + s.cliffAmount + s.linearAmount h > s.totalUAETHEL.val then
          s.totalUAETHEL.val else narrow (s.tgeAmount + s.cliffAmount + s.linearAmount h)) =
            s.tgeAmount + s.cliffAmount + s.linearAmount h
        rw [if_neg (by omega)]
        exact exact _ (by omega) (by omega)

theorem vestedAmount_eq (nonnegative : 0 ≤ h) (fits : Int64.Fits h) :
    vestedAmount s h = s.released h := by
  have totalFits := s.totalUAETHEL.fits
  unfold Int64.Fits at totalFits
  exact valid.vestedWith_eq (fun x lower upper => Int64.wrap_of_fits ⟨by omega, by omega⟩)
    nonnegative fits

theorem exactVestedAmount_eq (nonnegative : 0 ≤ h)
    (fits : Int64.Fits h) : exactVestedAmount s h = s.released h :=
  valid.vestedWith_eq (fun _ _ _ => rfl) nonnegative fits

end

end Valid

end VestingSchedule

end Pouw
