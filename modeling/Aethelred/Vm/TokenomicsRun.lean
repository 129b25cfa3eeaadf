import Aethelred.Vm.Tokenomics

/- The two counters of the tokenomics manager over runs of creations, claims and revocations after
genesis: what is locked is what the positions are still owed, and with what circulates it stays
within the genesis supply as long as the pool added at genesis is left room for. -/
namespace Vm.TokenomicsManager

open Go Attempt VestingSchedule

/-- What happens to positions. -/
inductive VestingCall
  | createVestingPosition (beneficiary : Address) (amount : Nat) (category : AllocationCategory)
      (customSchedule : Option VestingSchedule) (startTime : Nat) (revocable : Bool)
  | claimVested (positionId : Nat) (claimer : Address) (currentTime : Nat)
  | revokePosition (positionId : Nat) (currentTime : Nat)

/-- The manager and the time of the last call that had one. -/
structure Ledger where
  manager : TokenomicsManager
  clock : Nat := 0

namespace Ledger

variable (ledger : Ledger)

def step : VestingCall → Ledger
  | .createVestingPosition beneficiary amount category customSchedule startTime revocable =>
    ⟨(createVestingPosition beneficiary amount category customSchedule startTime revocable
      ledger.manager).2, ledger.clock⟩
  | .claimVested positionId claimer currentTime =>
    ⟨(claimVested positionId claimer currentTime ledger.manager).2, currentTime⟩
  | .revokePosition positionId currentTime =>
    ⟨(revokePosition positionId currentTime ledger.manager).2, currentTime⟩

variable (manager : TokenomicsManager)

def subtractions : VestingCall → List (Nat × Nat)
  | .createVestingPosition .. => []
  | .claimVested positionId claimer currentTime =>
    match manager.vestingPositions.lookup positionId with
    | some position =>
      if position.beneficiary = claimer then
        position.subtractions currentTime ++
          match position.claimableAmount currentTime with
          | some claimable =>
            if claimable > 0 then [(manager.totalVestingLocked, claimable)] else []
          | none => []
      else []
    | none => []
  | .revokePosition positionId currentTime =>
    match manager.vestingPositions.lookup positionId with
    | some position =>
      if position.revocable = true ∧ position.revoked = false then
        position.subtractions currentTime ++
          match position.vestedAmount currentTime with
          | some vested => [(manager.totalVestingLocked, position.totalAmount - vested)]
          | none => []
      else []
    | none => []

/-- No subtraction of the call goes below zero. -/
def NoUnderflow (call : VestingCall) : Prop :=
  ∀ pair ∈ subtractions ledger.manager call, pair.2 ≤ pair.1

/-- Each position has claimed no more than is vested, and that is no more than its total; what is
locked is what the positions are still owed; and the supply is not exceeded. -/
structure Sound (ledger : Ledger) : Prop where
  vested : ∀ id position, ledger.manager.vestingPositions.lookup id = some position →
    ∃ amount, position.vestedAmount ledger.clock = some amount ∧
      position.claimedAmount ≤ amount ∧ amount ≤ position.totalAmount
  locked : ledger.manager.totalVestingLocked +
      ledger.manager.vestingPositions.sum (·.claimedAmount) =
    ledger.manager.vestingPositions.sum (·.entitlement)
  supply : ledger.manager.circulatingSupply + ledger.manager.totalVestingLocked ≤
    TOTAL_GENESIS_SUPPLY

/-- A position may be opened: its identifier is free, its amount leaves what is reserved, and its
schedule fits at the time. -/
def Admits (reserved : Nat) (ledger : Ledger) (amount : Nat) (schedule : VestingSchedule)
    (startTime : Nat) : Prop :=
  ledger.manager.vestingPositions.lookup ledger.manager.nextPositionId = none ∧
  ledger.manager.circulatingSupply + ledger.manager.totalVestingLocked + amount + reserved ≤
    TOTAL_GENESIS_SUPPLY ∧
  schedule.Fits amount startTime ledger.clock

/-- The time is not before that of the last call, and no schedule overflows at it. -/
def Punctual (currentTime : Nat) : Prop :=
  ledger.clock ≤ currentTime ∧
  ∀ entry ∈ AList.entries ledger.manager.vestingPositions, entry.2.revoked = false →
    entry.2.schedule.Fits entry.2.totalAmount entry.2.startTime currentTime

/-- What the calls after genesis have to meet. -/
def Lawful : VestingCall → Prop
  | .createVestingPosition _ amount category customSchedule startTime _ =>
    ledger.Admits 0 amount (customSchedule.getD category.vestingSchedule) startTime
  | .claimVested _ _ currentTime => ledger.Punctual currentTime
  | .revokePosition _ currentTime => ledger.Punctual currentTime

/-- A genesis allocation leaves room for the pool that is added after the last one. -/
def Founded (allocation : GenesisAllocation) : Prop :=
  Admits PUBLIC_SALES_POOL ⟨manager, 0⟩ allocation.amount
    (allocation.customSchedule.getD allocation.category.vestingSchedule) manager.genesisTime

instance (reserved : Nat) (ledger : Ledger) (amount : Nat) (schedule : VestingSchedule)
    (startTime : Nat) : Decidable (ledger.Admits reserved amount schedule startTime) :=
  inferInstanceAs (Decidable (_ ∧ _ ∧ _))

instance (currentTime : Nat) : Decidable (ledger.Punctual currentTime) :=
  inferInstanceAs (Decidable (_ ∧ _))

instance (call : VestingCall) : Decidable (ledger.Lawful call) := by
  cases call <;> unfold Lawful <;> infer_instance

instance (allocation : GenesisAllocation) :
    Decidable (Founded manager allocation) := by
  unfold Founded
  infer_instance

section Invariant

variable {ledger : Ledger} {reserved : Nat} {position : VestingPosition}

def exact (position : VestingPosition) (time : Nat) : Nat :=
  position.schedule.ideal position.totalAmount position.startTime (position.effectiveTime time)

/-- No more is claimed than has vested. -/
structure Settled (position : VestingPosition) (clock : Nat) : Prop where
  small : position.totalAmount ≤ TOTAL_GENESIS_SUPPLY
  fits : position.schedule.Fits position.totalAmount position.startTime
    (position.effectiveTime clock)
  claimed : position.claimedAmount ≤ exact position clock
  stopped : position.revoked = true → ∃ time, position.revokedAt = some time

theorem Settled.vestedAmount (settled : Settled position ledger.clock) :
    position.vestedAmount ledger.clock = some (exact position ledger.clock) :=
  vestedAmount_eq settled.small settled.fits

theorem Settled.exact_le (settled : Settled position ledger.clock) :
    exact position ledger.clock ≤ position.totalAmount :=
  ideal_le_total settled.fits

theorem effectiveTime_of_revoked (revoked : position.revoked = true)
    (stopped : ∃ time, position.revokedAt = some time) (first second : Nat) :
    position.effectiveTime first = position.effectiveTime second := by
  obtain ⟨time, at_time⟩ := stopped
  simp only [VestingPosition.effectiveTime, revoked, at_time, ↓reduceIte, Option.getD_some]

theorem effectiveTime_of_active (active : position.revoked = false) (time : Nat) :
    position.effectiveTime time = time := by
  simp only [VestingPosition.effectiveTime, active, Bool.false_eq_true, ↓reduceIte]

theorem Settled.entitlement (settled : Settled position ledger.clock) :
    position.entitlement =
      if position.revoked then exact position ledger.clock else position.totalAmount := by
  unfold VestingPosition.entitlement
  split
  next revoked =>
    have same : position.vestedAmount 0 = position.vestedAmount ledger.clock := by
      unfold VestingPosition.vestedAmount
      rw [effectiveTime_of_revoked revoked (settled.stopped revoked) 0 ledger.clock]
    rw [same, settled.vestedAmount, Option.getD_some]
  · rfl

theorem Settled.later (settled : Settled position ledger.clock) {time : Nat}
    (later : ledger.clock ≤ time) (fits : position.revoked = false →
      position.schedule.Fits position.totalAmount position.startTime time) :
    Settled position time := by
  cases active : position.revoked with
  | true =>
    have same := effectiveTime_of_revoked active (settled.stopped active) time ledger.clock
    refine ⟨settled.small, same ▸ settled.fits, ?_, settled.stopped⟩
    rw [exact, same]
    exact settled.claimed
  | false =>
    have before := effectiveTime_of_active active ledger.clock
    have after := effectiveTime_of_active active time
    have fits' : position.schedule.Fits position.totalAmount position.startTime
        (position.effectiveTime time) := after.symm ▸ fits active
    refine ⟨settled.small, fits', Nat.le_trans settled.claimed ?_, settled.stopped⟩
    refine ideal_mono ?_ settled.fits fits'
    rw [before, after]
    exact later

/-- What is locked, claimed and in circulation adds up. -/
structure Kept (reserved : Nat) (ledger : Ledger) : Prop where
  settled : ∀ id position, ledger.manager.vestingPositions.lookup id = some position →
    Settled position ledger.clock
  locked : ledger.manager.totalVestingLocked +
      ledger.manager.vestingPositions.sum (·.claimedAmount) =
    ledger.manager.vestingPositions.sum (·.entitlement)
  supply : ledger.manager.circulatingSupply + ledger.manager.totalVestingLocked + reserved ≤
    TOTAL_GENESIS_SUPPLY

theorem Kept.sound (kept : Kept 0 ledger) : ledger.Sound where
  vested id position present :=
    have settled := kept.settled id position present
    ⟨exact position ledger.clock, settled.vestedAmount, settled.claimed, settled.exact_le⟩
  locked := kept.locked
  supply := kept.supply

/-- What is owed to a position is locked. -/
theorem Kept.owed_le (kept : Kept reserved ledger) {id : Nat}
    (present : ledger.manager.vestingPositions.lookup id = some position) :
    position.entitlement ≤ ledger.manager.totalVestingLocked + position.claimedAmount := by
  have claimed := Map.sum_erase ledger.manager.vestingPositions id (·.claimedAmount)
  have entitled := Map.sum_erase ledger.manager.vestingPositions id (·.entitlement)
  have locked := kept.locked
  have others : Map.sum (ledger.manager.vestingPositions.erase id) (·.claimedAmount) ≤
      Map.sum (ledger.manager.vestingPositions.erase id) (·.entitlement) := by
    refine Map.sum_le_sum fun key => ?_
    by_cases same : key = id
    · rw [same, AList.lookup_erase]
      exact Nat.le_refl _
    · rw [AList.lookup_erase_ne same]
      cases found : ledger.manager.vestingPositions.lookup key with
      | none => exact Nat.le_refl _
      | some other =>
        have settled := kept.settled key other found
        have claimed := settled.claimed
        have bound := settled.exact_le
        simp only [Map.share_some, settled.entitlement]
        split
        · exact claimed
        · exact Nat.le_trans claimed bound
  rw [present, Map.share_some] at claimed entitled
  omega

theorem supply_lt_max : TOTAL_GENESIS_SUPPLY < 2 ^ 128 := by decide

section

variable (kept : Kept reserved ledger)
include kept

/-- An admitted position keeps the books. -/
theorem Kept.create {beneficiary : Address} {amount : Nat} {category : AllocationCategory}
    {customSchedule : Option VestingSchedule} {startTime : Nat} {revocable : Bool}
    (admits : ledger.Admits reserved amount (customSchedule.getD category.vestingSchedule)
      startTime) :
    Kept reserved ⟨(createVestingPosition beneficiary amount category customSchedule startTime
      revocable ledger.manager).2, ledger.clock⟩ := by
  obtain ⟨free, room, fits⟩ := admits
  have limit := supply_lt_max
  have locked := kept.locked
  generalize opened : ledger.manager.newPosition beneficiary amount category customSchedule
    startTime revocable = position
  have total : position.totalAmount = amount := opened ▸ rfl
  have unclaimed : position.claimedAmount = 0 := opened ▸ rfl
  have entitled : position.entitlement = amount := opened ▸ rfl
  have settled : Settled position ledger.clock :=
    opened ▸ ⟨(by change amount ≤ _; omega), fits, Nat.zero_le _, nofun⟩
  have claimedSum := Map.sum_insert ledger.manager.vestingPositions ledger.manager.nextPositionId
    position (·.claimedAmount)
  have entitledSum := Map.sum_insert ledger.manager.vestingPositions ledger.manager.nextPositionId
    position (·.entitlement)
  rw [free, Map.share_none] at claimedSum entitledSum
  change Kept reserved ⟨ledger.manager.addPosition (ledger.manager.newPosition beneficiary amount
    category customSchedule startTime revocable), ledger.clock⟩
  rw [opened]
  have added : addU128 ledger.manager.totalVestingLocked position.totalAmount =
      ledger.manager.totalVestingLocked + amount := by
    rw [total]
    exact addU128_eq (by omega)
  refine ⟨Map.forall_insert settled kept.settled, ?_, ?_⟩
  · change addU128 ledger.manager.totalVestingLocked position.totalAmount + _ = _
    rw [added]
    change _ + Map.sum (ledger.manager.vestingPositions.insert ledger.manager.nextPositionId
      position) _ = Map.sum (ledger.manager.vestingPositions.insert
        ledger.manager.nextPositionId position) _
    omega
  · change _ + addU128 ledger.manager.totalVestingLocked position.totalAmount + _ ≤ _
    rw [added]
    change ledger.manager.circulatingSupply + _ + _ ≤ _
    omega

theorem Kept.later {time : Nat} (punctual : ledger.Punctual time) :
    Kept reserved ⟨ledger.manager, time⟩ := by
  refine ⟨fun id position present => ?_, kept.locked, kept.supply⟩
  refine (kept.settled id position present).later punctual.1 fun active => ?_
  exact punctual.2 ⟨id, position⟩ (AList.mem_lookup_iff.mp present) active

variable {id : Nat}

/-- So does a change of one position that the totals follow. -/
theorem Kept.put {changed : VestingPosition} {manager : TokenomicsManager}
    (present : ledger.manager.vestingPositions.lookup id = some position)
    (settled : Settled changed ledger.clock)
    (positions : manager.vestingPositions = ledger.manager.vestingPositions.insert id changed)
    (locked : manager.totalVestingLocked + changed.claimedAmount + position.entitlement =
      ledger.manager.totalVestingLocked + position.claimedAmount + changed.entitlement)
    (supply : manager.circulatingSupply + manager.totalVestingLocked ≤
      ledger.manager.circulatingSupply + ledger.manager.totalVestingLocked) :
    Kept reserved ⟨manager, ledger.clock⟩ := by
  have claimedSum := Map.sum_insert ledger.manager.vestingPositions id changed (·.claimedAmount)
  have entitledSum := Map.sum_insert ledger.manager.vestingPositions id changed (·.entitlement)
  have before := kept.locked
  have limit := kept.supply
  rw [present, Map.share_some] at claimedSum entitledSum
  refine ⟨?_, ?_, ?_⟩
  · change ∀ key other, manager.vestingPositions.lookup key = some other → _
    rw [positions]
    exact Map.forall_insert settled kept.settled
  · change manager.totalVestingLocked + manager.vestingPositions.sum _ =
      manager.vestingPositions.sum _
    rw [positions]
    omega
  · change manager.circulatingSupply + manager.totalVestingLocked + _ ≤ _
    omega

theorem Kept.claimable_le
    (present : ledger.manager.vestingPositions.lookup id = some position) :
    exact position ledger.clock - position.claimedAmount ≤ ledger.manager.totalVestingLocked := by
  have settled := kept.settled id position present
  have owed := kept.owed_le present
  have bound := settled.exact_le
  rw [settled.entitlement] at owed
  split at owed
  · omega
  · omega

variable (positionId : Nat)

/-- So does a claim. -/
theorem Kept.claim (claimer : Address) :
    Kept reserved ⟨(claimVested positionId claimer ledger.clock ledger.manager).2,
      ledger.clock⟩ := by
  obtain same | ⟨position, vested, present, owner, amount, done⟩ :=
    @claimVested_cases ledger.manager positionId claimer ledger.clock
  · rw [same]
    exact kept
  · have settled := kept.settled positionId position present
    rw [settled.vestedAmount] at amount
    cases amount
    have limit := supply_lt_max
    have supply := kept.supply
    have claimed := settled.claimed
    have payable := kept.claimable_le present
    have bound := settled.exact_le
    have small := settled.small
    have sum : addU128 position.claimedAmount
        (exact position ledger.clock - position.claimedAmount) = exact position ledger.clock := by
      rw [addU128_eq (by omega)]
      omega
    rw [sum] at done
    have settled' : Settled { position with claimedAmount := exact position ledger.clock }
        ledger.clock := ⟨settled.small, settled.fits, Nat.le_refl _, settled.stopped⟩
    have entitled : VestingPosition.entitlement { position with
        claimedAmount := exact position ledger.clock } = position.entitlement := rfl
    rw [done]
    split
    · refine kept.put present settled' rfl ?_ ?_
      · change subU128 ledger.manager.totalVestingLocked _ + exact position ledger.clock + _ = _
        rw [subU128_eq (by omega) payable, entitled]
        omega
      · change addU128 ledger.manager.circulatingSupply _ +
          subU128 ledger.manager.totalVestingLocked _ ≤ _
        rw [subU128_eq (by omega) payable, addU128_eq (by omega)]
        omega
    · refine kept.put present settled' rfl ?_ (Nat.le_refl _)
      change ledger.manager.totalVestingLocked + exact position ledger.clock + _ = _
      rw [entitled]
      omega

theorem Kept.unvested_le
    (present : ledger.manager.vestingPositions.lookup id = some position)
    (active : position.revoked = false) :
    position.totalAmount - exact position ledger.clock ≤ ledger.manager.totalVestingLocked := by
  have settled := kept.settled id position present
  have owed := kept.owed_le present
  have claimed := settled.claimed
  rw [settled.entitlement, active, if_neg Bool.false_ne_true] at owed
  omega

/-- So does a revocation. -/
theorem Kept.revoke :
    Kept reserved ⟨(revokePosition positionId ledger.clock ledger.manager).2, ledger.clock⟩ := by
  obtain same | ⟨position, vested, present, active, amount, done⟩ :=
    @revokePosition_cases ledger.manager positionId ledger.clock
  · rw [same]
    exact kept
  · have settled := kept.settled positionId position present
    have time := effectiveTime_of_active active ledger.clock
    rw [settled.vestedAmount] at amount
    cases amount
    have limit := supply_lt_max
    have supply := kept.supply
    have unvested := kept.unvested_le present active
    have bound := settled.exact_le
    generalize stopped : ({ position with
      revoked := true
      revokedAt := some ledger.clock } : VestingPosition) = changed at done
    have atClock : changed.effectiveTime ledger.clock = position.effectiveTime ledger.clock := by
      rw [time, ← stopped]
      rfl
    have sameExact : exact changed ledger.clock = exact position ledger.clock := by
      rw [exact, atClock, ← stopped]
      rfl
    have settled' : Settled changed ledger.clock := by
      refine ⟨stopped ▸ settled.small, ?_, ?_, fun _ => ⟨ledger.clock, stopped ▸ rfl⟩⟩
      · rw [atClock, ← stopped]
        exact settled.fits
      · rw [sameExact, ← stopped]
        exact settled.claimed
    have entitled : changed.entitlement = exact position ledger.clock := by
      rw [settled'.entitlement, sameExact, ← stopped]
      rfl
    have whole : position.entitlement = position.totalAmount := by
      rw [settled.entitlement, active, if_neg Bool.false_ne_true]
    have claimed : changed.claimedAmount = position.claimedAmount := stopped ▸ rfl
    rw [done]
    refine kept.put present settled' rfl ?_ ?_
    · change subU128 ledger.manager.totalVestingLocked _ + changed.claimedAmount + _ = _
      rw [subU128_eq (by omega) unvested, entitled, whole, claimed]
      omega
    · change ledger.manager.circulatingSupply + subU128 ledger.manager.totalVestingLocked _ ≤ _
      rw [subU128_eq (by omega) unvested]
      omega

theorem Kept.noUnderflow_position
    (present : ledger.manager.vestingPositions.lookup id = some position) :
    ∀ pair ∈ position.subtractions ledger.clock, pair.2 ≤ pair.1 := fun _ member =>
  have settled := kept.settled id position present
  le_of_mem_subtractions settled.small settled.fits member

theorem Kept.noUnderflow_claim (claimer : Address) :
    ledger.NoUnderflow (.claimVested positionId claimer ledger.clock) := by
  intro pair member
  simp only [subtractions] at member
  cases present : ledger.manager.vestingPositions.lookup positionId with
  | none =>
    rw [present] at member
    cases member
  | some position =>
    have settled := kept.settled positionId position present
    rw [present] at member
    simp only [VestingPosition.claimableAmount, settled.vestedAmount, Option.map_some] at member
    split at member
    · obtain inside | last := List.mem_append.mp member
      · exact kept.noUnderflow_position present pair inside
      · split at last
        · rw [List.mem_singleton.mp last]
          exact kept.claimable_le present
        · cases last
    · cases member

theorem Kept.noUnderflow_revoke : ledger.NoUnderflow (.revokePosition positionId ledger.clock) := by
  intro pair member
  simp only [subtractions] at member
  cases present : ledger.manager.vestingPositions.lookup positionId with
  | none =>
    rw [present] at member
    cases member
  | some position =>
    have settled := kept.settled positionId position present
    rw [present] at member
    simp only [settled.vestedAmount] at member
    split at member
    next active =>
      obtain inside | last := List.mem_append.mp member
      · exact kept.noUnderflow_position present pair inside
      · rw [List.mem_singleton.mp last]
        exact kept.unvested_le present active.2
    · cases member

end

end Invariant

section Runs

variable {ledger : Ledger}

theorem kept_step (ledger : Ledger) (call : VestingCall) (lawful : ledger.Lawful call)
    (kept : Kept 0 ledger) : Kept 0 (ledger.step call) := by
  cases call with
  | createVestingPosition beneficiary amount category customSchedule startTime revocable =>
    exact kept.create lawful
  | claimVested positionId claimer currentTime =>
    exact (kept.later lawful).claim positionId claimer
  | revokePosition positionId currentTime => exact (kept.later lawful).revoke positionId

theorem noUnderflow_step (ledger : Ledger) (call : VestingCall) (kept : Kept 0 ledger)
    (lawful : ledger.Lawful call) : ledger.NoUnderflow call := by
  cases call with
  | createVestingPosition beneficiary amount category customSchedule startTime revocable =>
    intro pair member
    cases member
  | claimVested positionId claimer currentTime =>
    exact (kept.later lawful).noUnderflow_claim positionId claimer
  | revokePosition positionId currentTime =>
    exact (kept.later lawful).noUnderflow_revoke positionId

def genesis (genesisTime : Nat) (allocations : List GenesisAllocation) : Ledger :=
  ⟨(new genesisTime).initializeGenesis allocations, 0⟩

theorem pool_le_supply : PUBLIC_SALES_POOL ≤ TOTAL_GENESIS_SUPPLY := by decide

theorem kept_new (genesisTime : Nat) : Kept PUBLIC_SALES_POOL ⟨new genesisTime, 0⟩ where
  settled _ _ present := nomatch present
  locked := rfl
  supply := by
    simp only [new, Nat.zero_add]
    exact pool_le_supply

theorem Kept.circulate {manager : TokenomicsManager} {reserved : Nat}
    (kept : Kept reserved ⟨manager, 0⟩) :
    Kept 0 ⟨{ manager with circulatingSupply := addU128 manager.circulatingSupply reserved }, 0⟩ := by
  have supply := kept.supply
  have limit := supply_lt_max
  refine ⟨kept.settled, kept.locked, ?_⟩
  simp only at supply ⊢
  rw [addU128_eq (by omega)]
  omega

theorem kept_genesis {genesisTime : Nat} {allocations : List GenesisAllocation}
    (founded : Run.Along allocate Founded (new genesisTime) allocations) :
    Kept 0 (genesis genesisTime allocations) :=
  (Run.invariant (fun manager => Kept PUBLIC_SALES_POOL ⟨manager, 0⟩)
    (fun _ _ admits kept => kept.create admits) (kept_new genesisTime) founded).circulate

end Runs

/-- After a genesis and calls that all meet the conditions, no subtraction has underflowed and the
counters are sound. -/
theorem sound_of_lawful (genesisTime : Nat) (allocations : List GenesisAllocation)
    (calls : List VestingCall) (founded : Run.Along allocate Founded (new genesisTime) allocations)
    (lawful : Run.Along step Lawful (genesis genesisTime allocations) calls) :
    Run.Along step NoUnderflow (genesis genesisTime allocations) calls ∧
      (Run.exec step (genesis genesisTime allocations) calls).Sound := by
  have kept := kept_genesis founded
  refine ⟨lawful.of_invariant (Kept 0) kept_step noUnderflow_step kept, ?_⟩
  exact (Run.invariant (Kept 0) kept_step kept lawful).sound

def sampleAllocations : List GenesisAllocation :=
  [⟨1, 2000000000 * ONE_AETHEL, .CoreContributors, none, true⟩,
    ⟨2, 550000000 * ONE_AETHEL, .StrategicSeed, none, false⟩]

def sampleCalls : List VestingCall :=
  [.claimVested 1 1 (2 * SECONDS_PER_YEAR),
    .createVestingPosition 3 (1000 * ONE_AETHEL) .EcosystemGrants none SECONDS_PER_YEAR true,
    .revokePosition 1 (3 * SECONDS_PER_YEAR), .claimVested 1 1 (4 * SECONDS_PER_YEAR)]

theorem sound_sampleCalls :
    Run.Along step NoUnderflow (genesis 1000 sampleAllocations) sampleCalls ∧
      (Run.exec step (genesis 1000 sampleAllocations) sampleCalls).Sound :=
  sound_of_lawful 1000 sampleAllocations sampleCalls (by decide +kernel) (by decide +kernel)

/-- Allocations of the whole supply, and the public sales pool circulates besides. -/
theorem not_sound_whole_supply :
    ¬(genesis 0 [⟨1, TOTAL_GENESIS_SUPPLY, .ComputePoUW, none, false⟩]).Sound := by
  intro sound
  have supply := sound.supply
  revert supply
  decide +kernel

end Ledger

end Vm.TokenomicsManager
