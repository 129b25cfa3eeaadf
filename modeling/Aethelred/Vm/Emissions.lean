import Aethelred.Lib.Levels
import Aethelred.Vm.Vesting

/- The emission calculator (`tokenomics.rs`): what its updates pay out together. -/
namespace Vm

open Nat

structure EmissionCalculator where
  totalPool : Nat
  halvingIntervalSecs : Nat
  totalDurationSecs : Nat
  genesisTime : Nat
  totalEmitted : Nat
  lastCalculationTime : Nat

namespace EmissionCalculator

open VestingSchedule

def new (totalPool halvingIntervalSecs totalDurationSecs genesisTime : Nat) :
    EmissionCalculator where
  totalPool
  halvingIntervalSecs
  totalDurationSecs
  genesisTime
  totalEmitted := 0
  lastCalculationTime := genesisTime

def schedule (calculator : EmissionCalculator) : VestingSchedule :=
  .Emission calculator.halvingIntervalSecs calculator.totalDurationSecs

def totalEmissionsAt (calculator : EmissionCalculator) (currentTime : Nat) : Option Nat :=
  if currentTime ≤ calculator.genesisTime then some 0
  else calculator.schedule.vestedAmount calculator.totalPool calculator.genesisTime currentTime

def update (calculator : EmissionCalculator) (currentTime : Nat) :
    Option (Nat × EmissionCalculator) := do
  let newTotal ← calculator.totalEmissionsAt currentTime
  return (saturatingSub newTotal calculator.totalEmitted,
    { calculator with totalEmitted := newTotal, lastCalculationTime := currentTime })

def updates (calculator : EmissionCalculator) : List Nat → Option Nat
  | [] => some 0
  | time :: rest => do
      let (newEmissions, next) ← calculator.update time
      return newEmissions + (← next.updates rest)

def latest (times : List Nat) : Nat := Levels.peak 0 times

def level (calculator : EmissionCalculator) (time : Nat) : Nat :=
  (calculator.totalEmissionsAt time).getD 0

/-- No update pays for a rise after one that lowered the total, and none has a higher total than the
one at the latest time. -/
def Unbroken (calculator : EmissionCalculator) (times : List Nat) : Prop :=
  Levels.Unbroken 0 0 (times.map calculator.level) ∧
    ∀ time ∈ times, calculator.level time ≤ calculator.level (latest times)

instance (calculator : EmissionCalculator) (times : List Nat) :
    Decidable (calculator.Unbroken times) := inferInstanceAs (Decidable (_ ∧ _))

variable {calculator : EmissionCalculator} {times : List Nat}

theorem totalEmissionsAt_eq (positive : 0 < calculator.halvingIntervalSecs) (time : Nat) :
    calculator.totalEmissionsAt time = some (calculator.level time) := by
  have computes : ∃ total, calculator.totalEmissionsAt time = some total := by
    unfold totalEmissionsAt
    split
    · exact ⟨0, rfl⟩
    next begun =>
      unfold vestedAmount schedule calculateEmissionVested
      rw [if_neg begun]
      dsimp only
      split
      · exact ⟨_, rfl⟩
      · rw [if_neg (ne_of_gt positive)]
        exact ⟨_, rfl⟩
  obtain ⟨total, done⟩ := computes
  rw [level, done]
  rfl

theorem level_zero (calculator : EmissionCalculator) : calculator.level 0 = 0 := by
  unfold level totalEmissionsAt
  rw [if_pos (zero_le _)]
  rfl

theorem updates_eq (positive : 0 < calculator.halvingIntervalSecs) (times : List Nat) :
    calculator.updates times =
      some (Levels.rises calculator.totalEmitted (times.map calculator.level)) := by
  induction times generalizing calculator with
  | nil => rfl
  | cons time rest ih =>
    rw [updates, update, totalEmissionsAt_eq positive]
    have later := @ih { calculator with
      totalEmitted := calculator.level time
      lastCalculationTime := time } positive
    simp only [Option.bind_eq_bind, Option.bind_some, Option.pure_def, later]
    rfl

theorem latest_mem (times : List Nat) : latest times = 0 ∨ latest times ∈ times := by
  unfold latest
  generalize 0 = top
  induction times generalizing top with
  | nil => exact .inl rfl
  | cons time rest ih =>
    rw [Levels.peak]
    obtain same | member := ih (max top time)
    · rw [same]
      obtain bigger | bigger := le_total top time
      · rw [max_eq_right bigger]
        exact .inr List.mem_cons_self
      · rw [max_eq_left bigger]
        exact .inl rfl
    · exact .inr (List.mem_cons_of_mem _ member)

theorem peak_eq_level_iff :
    Levels.peak 0 (times.map calculator.level) = calculator.level (latest times) ↔
      ∀ time ∈ times, calculator.level time ≤ calculator.level (latest times) := by
  constructor
  · intro highest time member
    rw [← highest]
    exact Levels.le_peak_of_mem (List.mem_map_of_mem member)
  · intro each
    apply le_antisymm
    · refine Levels.peak_le (zero_le _) fun level member => ?_
      obtain ⟨time, known, rfl⟩ := List.mem_map.mp member
      exact each time known
    · obtain none | member := latest_mem times
      · rw [none, level_zero]
        exact zero_le _
      · exact Levels.le_peak_of_mem (List.mem_map_of_mem member)

/-- The updates pay out the total at the latest time exactly if they are unbroken. -/
theorem updates_eq_latest_iff (totalPool halvingIntervalSecs totalDurationSecs genesisTime : Nat)
    (positive : 0 < halvingIntervalSecs) (times : List Nat) :
    (new totalPool halvingIntervalSecs totalDurationSecs genesisTime).updates times =
        (new totalPool halvingIntervalSecs totalDurationSecs genesisTime).totalEmissionsAt
          (latest times) ↔
      (new totalPool halvingIntervalSecs totalDurationSecs genesisTime).Unbroken times := by
  generalize made : new totalPool halvingIntervalSecs totalDurationSecs genesisTime = calculator
  have interval : 0 < calculator.halvingIntervalSecs := made ▸ positive
  have unpaid : calculator.totalEmitted = 0 := made ▸ rfl
  rw [updates_eq interval, totalEmissionsAt_eq interval, unpaid, Option.some.injEq, Unbroken,
    ← Levels.rises_eq_peak_iff, ← peak_eq_level_iff]
  have least := Levels.peak_le_rises (times.map calculator.level)
  have last : calculator.level (latest times) ≤ Levels.peak 0 (times.map calculator.level) := by
    obtain none | member := latest_mem times
    · rw [none, level_zero]
      exact zero_le _
    · exact Levels.le_peak_of_mem (List.mem_map_of_mem member)
  omega

theorem updates_eq_latest_iff_ordered :
    (new 1000 100 400 0).updates [50, 100, 100, 250] =
        (new 1000 100 400 0).totalEmissionsAt (latest [50, 100, 100, 250]) ↔
      (new 1000 100 400 0).Unbroken [50, 100, 100, 250] :=
  updates_eq_latest_iff 1000 100 400 0 (by decide) _

/-- The emission between the smaller time and the later one is paid twice. -/
theorem updates_backwards :
    (new 1000 100 400 0).updates [100, 40, 100] ≠
      (new 1000 100 400 0).totalEmissionsAt (latest [100, 40, 100]) := by
  decide

end EmissionCalculator

end Vm
