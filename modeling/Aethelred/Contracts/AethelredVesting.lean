import Aethelred.Evm.Basic

/- AethelredVesting.sol: schedules of tokens that unlock over time, and the lists of the schedules
of each beneficiary. A function that reverts leaves nothing behind, so each one returns the chain
after it or the reason it reverted for. -/
namespace AethelredVesting

open Evm AccessControl Function

def VESTING_ADMIN_ROLE : Bytes32 :=
  0xa8f45af456ec169d21f52f0673e869f84c82a5ecdb557cd556f1159a748bfb06

def REVOKER_ROLE : Bytes32 := 0xce3f34913921da558f105cefb578d87278debbbd073a8d552b5de0d168deee30

def UPGRADER_ROLE : Bytes32 := 0x189ab7a9244df0848122154315af71fe140f3db0fe014031783b0946b8c9d2e3

def MILESTONE_ATTESTOR_ROLE : Bytes32 :=
  0xf955df90a2e8fe4c16c94d8cbe3f1073a398b180d52156e4cfc90ab3a43a8c0d

def MIN_UPGRADER_TIMELOCK_DELAY : Nat := 2332800
def BPS_DENOMINATOR : Nat := 10000
def MAX_SCHEDULES_PER_BENEFICIARY : Nat := 10

inductive VestingType where
  | LINEAR | CLIFF_LINEAR | IMMEDIATE | DAO_CONTROLLED | MILESTONE
  deriving DecidableEq

inductive AllocationCategory where
  | COMPUTE_POUW_REWARDS | CORE_CONTRIBUTORS | ECOSYSTEM_GRANTS | STRATEGIC_SEED | PUBLIC_SALES
  | AIRDROP_SEALS | TREASURY_MM | INSURANCE_FUND | CONTINGENCY_RESERVE
  deriving DecidableEq

structure Terms where
  category : AllocationCategory := .COMPUTE_POUW_REWARDS
  vestingType : VestingType := .LINEAR
  cliffDuration : Nat := 0
  vestingDuration : Nat := 0
  tgeUnlockBps : Nat := 0
  cliffUnlockBps : Nat := 0
  revocable : Bool := false
  transferable : Bool := false

structure VestingSchedule extends Terms where
  scheduleId : Bytes32 := 0
  beneficiary : Address := 0
  totalAmount : Nat := 0
  releasedAmount : Nat := 0
  startTime : Nat := 0
  revoked : Bool := false
  revokedTime : Nat := 0
  createdAt : Nat := 0

structure Milestone where
  achieved : Bool
  achievedAt : Nat

/-- The contract's storage. -/
structure Storage where
  access : AccessControl
  paused : Bool
  token : Address
  totalAllocated : Nat
  totalReleased : Nat
  scheduleCount : Nat
  tgeTime : Nat
  tgeOccurred : Bool
  schedules : Bytes32 → VestingSchedule
  beneficiarySchedules : Address → List Bytes32
  scheduleMilestones : Bytes32 → List Milestone
  categoryAllocated : AllocationCategory → Nat
  categoryReleased : AllocationCategory → Nat
  categoryCaps : AllocationCategory → Nat

def Storage.blank : Storage where
  access := AccessControl.empty
  paused := false
  token := 0
  totalAllocated := 0
  totalReleased := 0
  scheduleCount := 0
  tgeTime := 0
  tgeOccurred := false
  schedules := fun _ => {}
  beneficiarySchedules := fun _ => []
  scheduleMilestones := fun _ => []
  categoryAllocated := fun _ => 0
  categoryReleased := fun _ => 0
  categoryCaps := fun _ => 0

inductive Error where
  | TGENotOccurred
  | TGEAlreadyOccurred
  | InvalidAmount
  | InvalidBeneficiary
  | ScheduleNotFound
  | ScheduleAlreadyRevoked
  | ScheduleNotRevocable
  | NothingToRelease
  | NotTransferable
  | CategoryCapExceeded
  | MaxSchedulesExceeded
  | MilestoneAlreadyAchieved
  | UnauthorizedBeneficiary
  | AdminMustBeContract
  | CategoryCapBelowAllocated
  | ScheduleAlreadyActive
  | MilestoneIndexOutOfBounds
  | UpgraderTimelockDelayTooShort
  | ProductionInitializationRequiresTimelock
  | cannotRecoverVestingTokens
  | AccessControlUnauthorizedAccount (account : Address) (role : Bytes32)
  | AccessControlBadConfirmation
  | EnforcedPause
  | ExpectedPause
  | arithmetic
  | token (reason : Erc20.Error)
  deriving DecidableEq

/-- What the deployment fixes: the hash function, the contract's own address, and the chain. -/
structure Environment where
  keccak256 : List Nat → Bytes32
  address : Address
  chainId : Nat
  hasCode : Address → Bool
  getMinDelay : Address → Nat

structure Chain where
  block : Block
  token : Erc20
  vesting : Storage

section Modifiers

variable (chain : Chain)

def onlyRole (role : Bytes32) (sender : Address) : Except Error Unit :=
  revertIf (chain.vesting.access.hasRole role sender = false)
    (.AccessControlUnauthorizedAccount sender role)

def whenNotPaused : Except Error Unit := revertIf (chain.vesting.paused = true) .EnforcedPause

def onlyAfterTGE : Except Error Unit := revertIf (chain.vesting.tgeOccurred = false) .TGENotOccurred

def onlyBeforeTGE : Except Error Unit :=
  revertIf (chain.vesting.tgeOccurred = true) .TGEAlreadyOccurred

def scheduleExists (scheduleId : Bytes32) : Except Error Unit :=
  revertIf ((chain.vesting.schedules scheduleId).beneficiary = 0) .ScheduleNotFound

def notRevoked (scheduleId : Bytes32) : Except Error Unit :=
  revertIf ((chain.vesting.schedules scheduleId).revoked = true) .ScheduleAlreadyRevoked

end Modifiers

section Initialization

variable (env : Environment)

def Chain.blank (block : Block) (token : Erc20) : Chain where
  block
  token
  vesting := Storage.blank

def initialCap : AllocationCategory → Nat
  | .COMPUTE_POUW_REWARDS => 3000000000 * 10 ^ 18
  | .CORE_CONTRIBUTORS => 2000000000 * 10 ^ 18
  | .ECOSYSTEM_GRANTS => 1500000000 * 10 ^ 18
  | .STRATEGIC_SEED => 550000000 * 10 ^ 18
  | .PUBLIC_SALES => 750000000 * 10 ^ 18
  | .AIRDROP_SEALS => 700000000 * 10 ^ 18
  | .TREASURY_MM => 600000000 * 10 ^ 18
  | .INSURANCE_FUND => 500000000 * 10 ^ 18
  | .CONTINGENCY_RESERVE => 400000000 * 10 ^ 18

def initializeVesting (token admin upgraderAuthority : Address) (chain : Chain) :
    Except Error Chain := do
  revertIf (token = 0) .InvalidBeneficiary
  revertIf (admin = 0) .InvalidBeneficiary
  revertIf (upgraderAuthority = 0) .InvalidBeneficiary
  let access := AccessControl.empty
    |>.grant DEFAULT_ADMIN_ROLE admin
    |>.grant VESTING_ADMIN_ROLE admin
    |>.grant REVOKER_ROLE admin
    |>.setRoleAdmin UPGRADER_ROLE UPGRADER_ROLE
    |>.grant UPGRADER_ROLE upgraderAuthority
  return { chain with
    vesting.token := token
    vesting.access := access
    vesting.categoryCaps := initialCap }

def localDevChain : Bool := env.chainId == 31337 || env.chainId == 1337

/-- `initialize`, for a local chain only. -/
def legacyInitialize (token admin : Address) (chain : Chain) : Except Error Chain := do
  revertIf (localDevChain env = false) .ProductionInitializationRequiresTimelock
  initializeVesting token admin admin chain

def requireContractAdmin (admin : Address) : Except Error Unit := do
  revertIf (admin = 0) .InvalidBeneficiary
  revertIf (env.hasCode admin = false ∧ localDevChain env = false) .AdminMustBeContract

def initializeWithTimelock (token admin upgraderTimelock : Address) (chain : Chain) :
    Except Error Chain := do
  requireContractAdmin env admin
  requireContractAdmin env upgraderTimelock
  revertIf (env.getMinDelay upgraderTimelock < MIN_UPGRADER_TIMELOCK_DELAY)
    .UpgraderTimelockDelayTooShort
  initializeVesting token admin upgraderTimelock chain

def executeTGE (sender : Address) (chain : Chain) : Except Error Chain := do
  onlyRole chain VESTING_ADMIN_ROLE sender
  onlyBeforeTGE chain
  return { chain with
    vesting.tgeTime := chain.block.timestamp
    vesting.tgeOccurred := true }

def withSchedule (chain : Chain) (scheduleId : Bytes32) (schedule : VestingSchedule) : Chain :=
  { chain with vesting.schedules := update chain.vesting.schedules scheduleId schedule }

def activateSchedule (sender : Address) (scheduleId : Bytes32) (chain : Chain) :
    Except Error Chain := do
  onlyRole chain VESTING_ADMIN_ROLE sender
  onlyAfterTGE chain
  scheduleExists chain scheduleId
  let schedule := chain.vesting.schedules scheduleId
  revertIf (schedule.startTime ≠ 0) .ScheduleAlreadyActive
  return withSchedule chain scheduleId { schedule with startTime := chain.vesting.tgeTime }

def createSchedule (beneficiary : Address) (amount : Nat) (terms : Terms) (chain : Chain) :
    Except Error (Chain × Bytes32) := do
  revertIf (beneficiary = 0) .InvalidBeneficiary
  revertIf (amount = 0) .InvalidAmount
  revertIf (BPS_DENOMINATOR < terms.tgeUnlockBps) .InvalidAmount
  revertIf (BPS_DENOMINATOR < terms.cliffUnlockBps) .InvalidAmount
  revertIf (8000 < terms.tgeUnlockBps + terms.cliffUnlockBps) .InvalidAmount
  revertIf (MAX_SCHEDULES_PER_BENEFICIARY ≤
    (chain.vesting.beneficiarySchedules beneficiary).length) .MaxSchedulesExceeded
  let categoryAllocated ← checkedAdd .arithmetic (chain.vesting.categoryAllocated terms.category)
    amount
  revertIf (chain.vesting.categoryCaps terms.category < categoryAllocated) .CategoryCapExceeded
  let scheduleId := env.keccak256 [beneficiary.val, amount, chain.vesting.scheduleCount]
  let scheduleCount ← checkedAdd .arithmetic chain.vesting.scheduleCount 1
  let totalAllocated ← checkedAdd .arithmetic chain.vesting.totalAllocated amount
  return ({ chain with
    vesting.schedules := update chain.vesting.schedules scheduleId
      { terms with
        scheduleId
        beneficiary
        totalAmount := amount
        startTime := if chain.vesting.tgeOccurred then chain.vesting.tgeTime else 0
        createdAt := chain.block.timestamp }
    vesting.beneficiarySchedules := update chain.vesting.beneficiarySchedules beneficiary
      (chain.vesting.beneficiarySchedules beneficiary ++ [scheduleId])
    vesting.scheduleCount := scheduleCount
    vesting.totalAllocated := totalAllocated
    vesting.categoryAllocated := update chain.vesting.categoryAllocated terms.category
      categoryAllocated }, scheduleId)

def strategicSeedTerms : Terms where
  category := .STRATEGIC_SEED
  vestingType := .CLIFF_LINEAR
  cliffDuration := 365 * 86400
  vestingDuration := 3 * 365 * 86400
  transferable := true

variable (sender beneficiary : Address) (amount : Nat)

def createStrategicSeedSchedule (chain : Chain) : Except Error (Chain × Bytes32) := do
  onlyRole chain VESTING_ADMIN_ROLE sender
  createSchedule env beneficiary amount strategicSeedTerms chain

def coreContributorTerms : Terms where
  category := .CORE_CONTRIBUTORS
  vestingType := .CLIFF_LINEAR
  cliffDuration := 182 * 86400
  vestingDuration := 4 * 365 * 86400
  revocable := true

def createCoreContributorSchedule (chain : Chain) : Except Error (Chain × Bytes32) := do
  onlyRole chain VESTING_ADMIN_ROLE sender
  createSchedule env beneficiary amount coreContributorTerms chain

def publicSalesTerms : Terms where
  category := .PUBLIC_SALES
  vestingType := .CLIFF_LINEAR
  vestingDuration := 547 * 86400
  tgeUnlockBps := 2000
  transferable := true

def createPublicSalesSchedule (chain : Chain) : Except Error (Chain × Bytes32) := do
  onlyRole chain VESTING_ADMIN_ROLE sender
  createSchedule env beneficiary amount publicSalesTerms chain

def createCustomSchedule (terms : Terms) (chain : Chain) : Except Error (Chain × Bytes32) := do
  onlyRole chain VESTING_ADMIN_ROLE sender
  createSchedule env beneficiary amount terms chain

end Initialization

/-- The part of `_computeVested` after the start. -/
def vestedAfter (schedule : VestingSchedule) (elapsed : Nat) : Except Error Nat :=
  if schedule.vestingType = .IMMEDIATE then .ok schedule.totalAmount
  else do
    let tgeProduct ← checkedMul .arithmetic schedule.totalAmount schedule.tgeUnlockBps
    let tgeAmount := tgeProduct / BPS_DENOMINATOR
    if elapsed < schedule.cliffDuration then return tgeAmount
    else do
      let cliffProduct ← checkedMul .arithmetic schedule.totalAmount schedule.cliffUnlockBps
      let cliffAmount := cliffProduct / BPS_DENOMINATOR
      if schedule.vestingDuration = 0 ∨ schedule.vestingDuration ≤ elapsed then
        return schedule.totalAmount
      else if schedule.vestingDuration ≤ schedule.cliffDuration then return schedule.totalAmount
      else do
        let afterTge ← checkedSub .arithmetic schedule.totalAmount tgeAmount
        let vestingAmount ← checkedSub .arithmetic afterTge cliffAmount
        let linearDuration := schedule.vestingDuration - schedule.cliffDuration
        let linearElapsed := elapsed - schedule.cliffDuration
        let upfront ← checkedAdd .arithmetic tgeAmount cliffAmount
        let product ← checkedMul .arithmetic vestingAmount linearElapsed
        let vestedAmount ← checkedAdd .arithmetic upfront (product / linearDuration)
        return if schedule.totalAmount < vestedAmount then schedule.totalAmount else vestedAmount

variable (chain : Chain)

def computeVested (schedule : VestingSchedule) : Except Error Nat :=
  if chain.vesting.tgeOccurred = false then .ok 0
  else
    let startTime := if 0 < schedule.startTime then schedule.startTime else chain.vesting.tgeTime
    let endTime := if schedule.revoked then schedule.revokedTime else chain.block.timestamp
    if endTime < startTime then .ok 0 else vestedAfter schedule (endTime - startTime)

def computeReleasable (schedule : VestingSchedule) : Except Error Nat := do
  let vested ← computeVested chain schedule
  checkedSub .arithmetic vested schedule.releasedAmount

def getReleasable (scheduleId : Bytes32) : Except Error Nat :=
  let schedule := chain.vesting.schedules scheduleId
  if schedule.beneficiary = 0 then .ok 0
  else if schedule.revoked then .ok 0
  else computeReleasable chain schedule

section Release

variable (env : Environment)

/-- `token.safeTransfer(recipient, amount)`. -/
def pay (recipient : Address) (amount : Nat) (chain : Chain) : Except Error Chain := do
  let token ← (chain.token.transfer env.address recipient amount).mapError .token
  return { chain with token }

def book (scheduleId : Bytes32) (releasable : Nat) (chain : Chain) : Except Error Chain := do
  let schedule := chain.vesting.schedules scheduleId
  let releasedAmount ← checkedAdd .arithmetic schedule.releasedAmount releasable
  let totalReleased ← checkedAdd .arithmetic chain.vesting.totalReleased releasable
  let categoryReleased ← checkedAdd .arithmetic
    (chain.vesting.categoryReleased schedule.category) releasable
  return { chain with
    vesting.schedules := update chain.vesting.schedules scheduleId
      { schedule with releasedAmount }
    vesting.totalReleased := totalReleased
    vesting.categoryReleased := update chain.vesting.categoryReleased schedule.category
      categoryReleased }

variable (sender : Address)

def release (scheduleId : Bytes32) (chain : Chain) :
    Except Error (Chain × Nat) := do
  whenNotPaused chain
  onlyAfterTGE chain
  scheduleExists chain scheduleId
  notRevoked chain scheduleId
  let schedule := chain.vesting.schedules scheduleId
  revertIf (sender ≠ schedule.beneficiary) .UnauthorizedBeneficiary
  let releasable ← computeReleasable chain schedule
  revertIf (releasable = 0) .NothingToRelease
  let chain ← book scheduleId releasable chain
  let chain ← pay env schedule.beneficiary releasable chain
  return (chain, releasable)

/-- The loop of `releaseAll`. -/
def bookAll : List Bytes32 → Nat → Chain → Except Error (Chain × Nat)
  | [], totalReleasedAmount, chain => .ok (chain, totalReleasedAmount)
  | scheduleId :: rest, totalReleasedAmount, chain =>
    if (chain.vesting.schedules scheduleId).revoked then bookAll rest totalReleasedAmount chain
    else do
      let releasable ← computeReleasable chain (chain.vesting.schedules scheduleId)
      if 0 < releasable then do
        let chain ← book scheduleId releasable chain
        let totalReleasedAmount ← checkedAdd .arithmetic totalReleasedAmount releasable
        bookAll rest totalReleasedAmount chain
      else bookAll rest totalReleasedAmount chain

variable (chain : Chain)

def releaseAll : Except Error (Chain × Nat) := do
  whenNotPaused chain
  onlyAfterTGE chain
  let scheduleIds := chain.vesting.beneficiarySchedules sender
  let (chain, totalReleasedAmount) ←
    bookAll (scheduleIds.take MAX_SCHEDULES_PER_BENEFICIARY) 0 chain
  revertIf (totalReleasedAmount = 0) .NothingToRelease
  let chain ← pay env sender totalReleasedAmount chain
  return (chain, totalReleasedAmount)

def revokeSchedule (scheduleId : Bytes32) (chain : Chain) :
    Except Error Chain := do
  onlyRole chain REVOKER_ROLE sender
  scheduleExists chain scheduleId
  notRevoked chain scheduleId
  let schedule := chain.vesting.schedules scheduleId
  revertIf (schedule.revocable = false) .ScheduleNotRevocable
  let vested ← computeVested chain schedule
  let unvested ← checkedSub .arithmetic schedule.totalAmount vested
  let totalAllocated ← checkedSub .arithmetic chain.vesting.totalAllocated unvested
  let categoryAllocated ← checkedSub .arithmetic
    (chain.vesting.categoryAllocated schedule.category) unvested
  return { chain with
    vesting.schedules := update chain.vesting.schedules scheduleId
      { schedule with revoked := true, revokedTime := chain.block.timestamp }
    vesting.totalAllocated := totalAllocated
    vesting.categoryAllocated := update chain.vesting.categoryAllocated schedule.category
      categoryAllocated }

/-- `_removeBeneficiarySchedule`: the last id takes the place of the first one that matches. -/
def removeBeneficiarySchedule (scheduleId : Bytes32) : List Bytes32 → List Bytes32
  | [] => []
  | first :: rest =>
    if first = scheduleId then
      match rest.getLast? with
      | some last => last :: rest.dropLast
      | none => []
    else first :: removeBeneficiarySchedule scheduleId rest

def transferBeneficiary (scheduleId : Bytes32) (newBeneficiary : Address)
    (chain : Chain) : Except Error Chain := do
  scheduleExists chain scheduleId
  notRevoked chain scheduleId
  let schedule := chain.vesting.schedules scheduleId
  revertIf (sender ≠ schedule.beneficiary) .UnauthorizedBeneficiary
  revertIf (schedule.transferable = false) .NotTransferable
  revertIf (newBeneficiary = 0) .InvalidBeneficiary
  let removed := update chain.vesting.beneficiarySchedules schedule.beneficiary
    (removeBeneficiarySchedule scheduleId (chain.vesting.beneficiarySchedules schedule.beneficiary))
  return { chain with
    vesting.schedules := update chain.vesting.schedules scheduleId
      { schedule with beneficiary := newBeneficiary }
    vesting.beneficiarySchedules := update removed newBeneficiary
      (removed newBeneficiary ++ [scheduleId]) }

def setCategoryCap (category : AllocationCategory) (cap : Nat)
    (chain : Chain) : Except Error Chain := do
  onlyRole chain DEFAULT_ADMIN_ROLE sender
  revertIf (cap < chain.vesting.categoryAllocated category) .CategoryCapBelowAllocated
  return { chain with
    vesting.categoryCaps := update chain.vesting.categoryCaps category cap }

def pause : Except Error Chain := do
  onlyRole chain DEFAULT_ADMIN_ROLE sender
  revertIf (chain.vesting.paused = true) .EnforcedPause
  return { chain with vesting.paused := true }

def unpause : Except Error Chain := do
  onlyRole chain DEFAULT_ADMIN_ROLE sender
  revertIf (chain.vesting.paused = false) .ExpectedPause
  return { chain with vesting.paused := false }

def recoverTokens (sender tokenAddress : Address) (amount : Nat) (recipient : Address)
    (chain : Chain) : Except Error Chain := do
  onlyRole chain DEFAULT_ADMIN_ROLE sender
  revertIf (recipient = 0) .InvalidBeneficiary
  if tokenAddress = chain.vesting.token then do
    let vestingBalance := chain.vesting.totalAllocated - chain.vesting.totalReleased
    let recoverable := chain.token.balanceOf env.address - vestingBalance
    revertIf (recoverable < amount) .cannotRecoverVestingTokens
    pay env recipient amount chain
  else return chain

def achieveMilestone (scheduleId : Bytes32) (milestoneIndex : Nat)
    (chain : Chain) : Except Error Chain := do
  onlyRole chain VESTING_ADMIN_ROLE sender
  scheduleExists chain scheduleId
  notRevoked chain scheduleId
  onlyRole chain MILESTONE_ATTESTOR_ROLE sender
  let milestones := chain.vesting.scheduleMilestones scheduleId
  match milestones[milestoneIndex]? with
  | none => .error .MilestoneIndexOutOfBounds
  | some milestone => do
      revertIf (milestone.achieved = true) .MilestoneAlreadyAchieved
      return { chain with
        vesting.scheduleMilestones := update chain.vesting.scheduleMilestones scheduleId
          (milestones.set milestoneIndex ⟨true, chain.block.timestamp⟩) }

variable (role : Bytes32)

def grantRole (account : Address) (chain : Chain) : Except Error Chain := do
  onlyRole chain (chain.vesting.access.getRoleAdmin role) sender
  return { chain with vesting.access := chain.vesting.access.grant role account }

def revokeRole (account : Address) (chain : Chain) : Except Error Chain := do
  onlyRole chain (chain.vesting.access.getRoleAdmin role) sender
  return { chain with vesting.access := chain.vesting.access.revoke role account }

def renounceRole (callerConfirmation : Address) (chain : Chain) : Except Error Chain := do
  revertIf (callerConfirmation ≠ sender) .AccessControlBadConfirmation
  return { chain with vesting.access := chain.vesting.access.revoke role sender }

end Release

/-- The functions of the contract that change its state, with their arguments. -/
inductive Function where
  | executeTGE
  | activateSchedule (scheduleId : Bytes32)
  | createStrategicSeedSchedule (beneficiary : Address) (amount : Nat)
  | createCoreContributorSchedule (beneficiary : Address) (amount : Nat)
  | createPublicSalesSchedule (beneficiary : Address) (amount : Nat)
  | createCustomSchedule (beneficiary : Address) (amount : Nat) (terms : Terms)
  | release (scheduleId : Bytes32)
  | releaseAll
  | revokeSchedule (scheduleId : Bytes32)
  | transferBeneficiary (scheduleId : Bytes32) (newBeneficiary : Address)
  | setCategoryCap (category : AllocationCategory) (cap : Nat)
  | pause
  | unpause
  | recoverTokens (tokenAddress : Address) (amount : Nat) (recipient : Address)
  | achieveMilestone (scheduleId : Bytes32) (milestoneIndex : Nat)
  | grantRole (role : Bytes32) (account : Address)
  | revokeRole (role : Bytes32) (account : Address)
  | renounceRole (role : Bytes32) (callerConfirmation : Address)

def Function.execute (env : Environment) (sender : Address) (chain : Chain) :
    Function → Except Error Chain
  | .executeTGE => AethelredVesting.executeTGE sender chain
  | .activateSchedule id => AethelredVesting.activateSchedule sender id chain
  | .createStrategicSeedSchedule beneficiary amount =>
    (AethelredVesting.createStrategicSeedSchedule env sender beneficiary amount chain).map (·.1)
  | .createCoreContributorSchedule beneficiary amount =>
    (AethelredVesting.createCoreContributorSchedule env sender beneficiary amount chain).map (·.1)
  | .createPublicSalesSchedule beneficiary amount =>
    (AethelredVesting.createPublicSalesSchedule env sender beneficiary amount chain).map (·.1)
  | .createCustomSchedule beneficiary amount terms =>
    (AethelredVesting.createCustomSchedule env sender beneficiary amount terms chain).map (·.1)
  | .release id => (AethelredVesting.release env sender id chain).map (·.1)
  | .releaseAll => (AethelredVesting.releaseAll env sender chain).map (·.1)
  | .revokeSchedule id => AethelredVesting.revokeSchedule sender id chain
  | .transferBeneficiary id newBeneficiary =>
    AethelredVesting.transferBeneficiary sender id newBeneficiary chain
  | .setCategoryCap category cap => AethelredVesting.setCategoryCap sender category cap chain
  | .pause => AethelredVesting.pause sender chain
  | .unpause => AethelredVesting.unpause sender chain
  | .recoverTokens tokenAddress amount recipient =>
    AethelredVesting.recoverTokens env sender tokenAddress amount recipient chain
  | .achieveMilestone id index => AethelredVesting.achieveMilestone sender id index chain
  | .grantRole role account => AethelredVesting.grantRole sender role account chain
  | .revokeRole role account => AethelredVesting.revokeRole sender role account chain
  | .renounceRole role account => AethelredVesting.renounceRole sender role account chain

inductive TokenCall where
  | transfer (recipient : Address) (amount : Nat)
  | transferFrom (owner recipient : Address) (amount : Nat)
  | approve (spender : Address) (amount : Nat)

def TokenCall.execute (sender : Address) (token : Erc20) : TokenCall → Except Erc20.Error Erc20
  | .transfer recipient amount => token.transfer sender recipient amount
  | .transferFrom owner recipient amount => token.transferFrom sender owner recipient amount
  | .approve spender amount => token.approve sender spender amount

/-- Blocks pass, and anyone calls the contract or its token. -/
inductive Action where
  | advance (blocks seconds : Nat)
  | call (sender : Address) (function : Function)
  | token (sender : Address) (call : TokenCall)

/-- A call that reverts changes nothing. -/
def step (env : Environment) (chain : Chain) : Action → Chain
  | .advance blocks seconds => { chain with block := chain.block.advance blocks seconds }
  | .call sender function => (function.execute env sender chain).toOption.getD chain
  | .token sender call =>
    { chain with token := (call.execute sender chain.token).toOption.getD chain.token }

inductive Initialized (env : Environment) : Chain → Prop where
  | legacy {block token tokenAddr admin chain}
      (done : legacyInitialize env tokenAddr admin (Chain.blank block token) = .ok chain) :
      Initialized env chain
  | timelock {block token tokenAddr admin upgraderTimelock chain}
      (done : initializeWithTimelock env tokenAddr admin upgraderTimelock
        (Chain.blank block token) = .ok chain) : Initialized env chain

end AethelredVesting
