import Aethelred.Vm.Vesting

/- The tokenomics manager (`tokenomics.rs`): genesis allocations, vesting positions, claims and
revocations, and the two counters they move tokens between. -/
namespace Vm

open Go Attempt

structure VestingPosition where
  id : Nat
  beneficiary : Address
  totalAmount : Nat
  claimedAmount : Nat := 0
  category : AllocationCategory
  customSchedule : Option VestingSchedule
  startTime : Nat
  revocable : Bool
  revoked : Bool := false
  revokedAt : Option Nat := none

namespace VestingPosition

variable (position : VestingPosition)

def schedule : VestingSchedule :=
  position.customSchedule.getD position.category.vestingSchedule

variable (currentTime : Nat)

def effectiveTime : Nat :=
  if position.revoked then position.revokedAt.getD currentTime else currentTime

def vestedAmount : Option Nat :=
  position.schedule.vestedAmount position.totalAmount position.startTime
    (position.effectiveTime currentTime)

def claimableAmount : Option Nat :=
  (position.vestedAmount currentTime).map (saturatingSub · position.claimedAmount)

def entitlement : Nat :=
  if position.revoked then (position.vestedAmount 0).getD 0 else position.totalAmount

def subtractions : List (Nat × Nat) :=
  position.schedule.subtractions position.totalAmount position.startTime
    (position.effectiveTime currentTime)

end VestingPosition

structure CategoryStats where
  totalAllocated : Nat := 0
  totalVested : Nat := 0
  totalClaimed : Nat := 0
  positionCount : Nat := 0

structure GenesisAllocation where
  beneficiary : Address
  amount : Nat
  category : AllocationCategory
  customSchedule : Option VestingSchedule
  revocable : Bool

structure TokenomicsManager where
  genesisTime : Nat
  vestingPositions : Map Nat VestingPosition := ∅
  nextPositionId : Nat := 1
  circulatingSupply : Nat := 0
  totalVestingLocked : Nat := 0
  categoryStats : Map AllocationCategory CategoryStats := ∅

/-- A call returns an error, or the program panics. -/
inductive Stop
  | error (reason : SystemContractError)
  | panic
  deriving DecidableEq

namespace TokenomicsManager

def new (genesisTime : Nat) : TokenomicsManager where genesisTime

abbrev Call := Attempt TokenomicsManager Stop

variable (manager : TokenomicsManager)

def addPosition (position : VestingPosition) : TokenomicsManager :=
  let stats := manager.categoryStats.get position.category {}
  { manager with
    nextPositionId := addU64 manager.nextPositionId 1
    vestingPositions := manager.vestingPositions.insert manager.nextPositionId position
    totalVestingLocked := addU128 manager.totalVestingLocked position.totalAmount
    categoryStats := manager.categoryStats.insert position.category { stats with
      totalAllocated := addU128 stats.totalAllocated position.totalAmount
      positionCount := addU64 stats.positionCount 1 } }

def newPosition (beneficiary : Address) (amount : Nat)
    (category : AllocationCategory) (customSchedule : Option VestingSchedule) (startTime : Nat)
    (revocable : Bool) : VestingPosition where
  id := manager.nextPositionId
  beneficiary
  totalAmount := amount
  category
  customSchedule
  startTime
  revocable

def createVestingPosition (beneficiary : Address) (amount : Nat) (category : AllocationCategory)
    (customSchedule : Option VestingSchedule) (startTime : Nat) (revocable : Bool) : Call Nat := do
  let manager ← read
  modify fun manager => manager.addPosition
    (manager.newPosition beneficiary amount category customSchedule startTime revocable)
  return manager.nextPositionId

def allocate (allocation : GenesisAllocation) : TokenomicsManager :=
  (createVestingPosition allocation.beneficiary allocation.amount allocation.category
    allocation.customSchedule manager.genesisTime allocation.revocable manager).2

def initializeGenesis (allocations : List GenesisAllocation) : TokenomicsManager :=
  let manager := allocations.foldl allocate manager
  { manager with circulatingSupply := addU128 manager.circulatingSupply PUBLIC_SALES_POOL }

def pay (category : AllocationCategory) (claimable : Nat) : TokenomicsManager :=
  { manager with
    totalVestingLocked := subU128 manager.totalVestingLocked claimable
    circulatingSupply := addU128 manager.circulatingSupply claimable
    categoryStats :=
      match manager.categoryStats.lookup category with
      | some stats => manager.categoryStats.insert category
          { stats with totalClaimed := addU128 stats.totalClaimed claimable }
      | none => manager.categoryStats }

def putPosition (id : Nat) (position : VestingPosition) : TokenomicsManager :=
  { manager with vestingPositions := manager.vestingPositions.insert id position }

def claimVested (positionId : Nat) (claimer : Address) (currentTime : Nat) : Call Nat := do
  let manager ← read
  let position ← okOr (manager.vestingPositions.lookup positionId)
    (.error (.Tokenomics "Position not found"))
  ensure (position.beneficiary = claimer) (.error (.Tokenomics "Not position beneficiary"))
  let claimable ← okOr (position.claimableAmount currentTime) .panic
  modify fun manager => manager.putPosition positionId { position with
    claimedAmount := addU128 position.claimedAmount claimable }
  modify fun manager => if claimable > 0 then manager.pay position.category claimable else manager
  return claimable

def revokePosition (positionId : Nat) (currentTime : Nat) : Call Nat := do
  let manager ← read
  let position ← okOr (manager.vestingPositions.lookup positionId)
    (.error (.Tokenomics "Position not found"))
  ensure (position.revocable = true) (.error (.Tokenomics "Position is not revocable"))
  ensure (position.revoked = false) (.error (.Tokenomics "Position already revoked"))
  let vested ← okOr (position.vestedAmount currentTime) .panic
  let unvested := saturatingSub position.totalAmount vested
  modify fun manager => { manager.putPosition positionId { position with
      revoked := true
      revokedAt := some currentTime } with
    totalVestingLocked := subU128 manager.totalVestingLocked unvested }
  return unvested

section Cases

variable {manager : TokenomicsManager}

/-- All that a claim can do. -/
theorem claimVested_cases (positionId : Nat) (claimer : Address) (currentTime : Nat) :
    (claimVested positionId claimer currentTime manager).2 = manager ∨
    ∃ position vested, manager.vestingPositions.lookup positionId = some position ∧
      position.beneficiary = claimer ∧ position.vestedAmount currentTime = some vested ∧
      (claimVested positionId claimer currentTime manager).2 =
        (if vested - position.claimedAmount > 0 then
          (manager.putPosition positionId { position with
            claimedAmount := addU128 position.claimedAmount
              (vested - position.claimedAmount) }).pay position.category
            (vested - position.claimedAmount)
        else manager.putPosition positionId { position with
          claimedAmount := addU128 position.claimedAmount (vested - position.claimedAmount) }) := by
  simp only [claimVested, read_bind, okOr_bind]
  cases present : manager.vestingPositions.lookup positionId with
  | none => exact .inl rfl
  | some position =>
    dsimp only
    rw [ensure_bind]
    split
    next owner =>
      rw [okOr_bind]
      unfold VestingPosition.claimableAmount
      cases amount : position.vestedAmount currentTime with
      | none => exact .inl rfl
      | some vested => exact .inr ⟨position, vested, rfl, owner, amount, rfl⟩
    · exact .inl rfl

/-- All that a revocation can do. -/
theorem revokePosition_cases (positionId currentTime : Nat) :
    (revokePosition positionId currentTime manager).2 = manager ∨
    ∃ position vested, manager.vestingPositions.lookup positionId = some position ∧
      position.revoked = false ∧ position.vestedAmount currentTime = some vested ∧
      (revokePosition positionId currentTime manager).2 =
        { manager.putPosition positionId { position with
            revoked := true
            revokedAt := some currentTime } with
          totalVestingLocked :=
            subU128 manager.totalVestingLocked (position.totalAmount - vested) } := by
  simp only [revokePosition, read_bind, okOr_bind]
  cases present : manager.vestingPositions.lookup positionId with
  | none => exact .inl rfl
  | some position =>
    dsimp only
    rw [ensure_bind]
    split
    · rw [ensure_bind]
      split
      next active =>
        rw [okOr_bind]
        cases amount : position.vestedAmount currentTime with
        | none => exact .inl rfl
        | some vested => exact .inr ⟨position, vested, rfl, active, amount, rfl⟩
      · exact .inl rfl
    · exact .inl rfl

end Cases

end TokenomicsManager

end Vm
