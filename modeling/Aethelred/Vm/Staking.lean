import Aethelred.Vm.BankRun

/- The staking manager of the system contracts (`staking.rs`): stakes, unbonding, slashing and the
adaptive split of fees. -/
namespace Vm

open Go Attempt

structure SlashingParams where
  slaViolationBps : Nat
  invalidProofBps : Nat
  doubleSignBps : Nat
  minorJailDuration : Nat
  majorJailDuration : Nat
  tombstoneThreshold : Nat

structure StakingConfig where
  minValidatorStake : Nat
  minComputeStake : Nat
  minDelegatorStake : Nat
  unbondingPeriod : Nat
  baseBurnRateBps : Nat
  maxBurnRateBps : Nat
  congestionThreshold : Nat
  highCongestionThreshold : Nat
  slashing : SlashingParams

def SlashingParams.mainnet : SlashingParams where
  slaViolationBps := 100
  invalidProofBps := 500
  doubleSignBps := 5000
  minorJailDuration := 24 * 3600
  majorJailDuration := 7 * 24 * 3600
  tombstoneThreshold := 10

def SlashingParams.devnet : SlashingParams where
  slaViolationBps := 10
  invalidProofBps := 50
  doubleSignBps := 500
  minorJailDuration := 60
  majorJailDuration := 300
  tombstoneThreshold := 3

def StakingConfig.mainnet : StakingConfig where
  minValidatorStake := 100000000000000000000000
  minComputeStake := 5000000000000000000000
  minDelegatorStake := 100000000000000000000
  unbondingPeriod := 21 * 24 * 3600
  baseBurnRateBps := 500
  maxBurnRateBps := 1500
  congestionThreshold := 50
  highCongestionThreshold := 80
  slashing := .mainnet

def StakingConfig.devnet : StakingConfig where
  minValidatorStake := 1000000000000000000
  minComputeStake := 1000000000000000000
  minDelegatorStake := 100000000000000000
  unbondingPeriod := 60
  baseBurnRateBps := 500
  maxBurnRateBps := 1500
  congestionThreshold := 50
  highCongestionThreshold := 80
  slashing := .devnet

def StakingConfig.minStake (config : StakingConfig) : StakeRole → Nat
  | .Validator => config.minValidatorStake
  | .ComputeNode => config.minComputeStake
  | .Delegator => config.minDelegatorStake

def StakingConfig.validate (config : StakingConfig) : Except SystemContractError Unit :=
  if config.minValidatorStake = 0 then
    .error (.InvalidConfig "min_validator_stake must be > 0")
  else if config.baseBurnRateBps > config.maxBurnRateBps then
    .error (.InvalidConfig "base_burn_rate_bps must be <= max_burn_rate_bps")
  else if config.congestionThreshold ≥ config.highCongestionThreshold then
    .error (.InvalidConfig "congestion_threshold must be < high_congestion_threshold")
  else .ok ()

structure StakeInfo where
  address : Address
  role : StakeRole
  staked : Nat
  unbonding : Nat := 0
  unbondingCompleteTime : Nat := 0
  slashCount : Nat := 0
  jailedUntil : Nat := 0
  tombstoned : Bool := false
  registeredAt : Nat

def StakeInfo.new (address : Address) (role : StakeRole) (amount timestamp : Nat) : StakeInfo where
  address
  role
  staked := amount
  registeredAt := timestamp

def StakeInfo.isActive (info : StakeInfo) (currentTime : Nat) : Bool :=
  !info.tombstoned && info.jailedUntil ≤ currentTime

structure StakingManager where
  config : StakingConfig
  stakers : Map Address StakeInfo := ∅
  totalStaked : Nat := 0
  totalBurned : Nat := 0
  networkUtilization : Nat := 0
  currentBurnRateBps : Nat
  currentBlock : Nat := 0

namespace StakingManager

def new (config : StakingConfig) : StakingManager where
  config
  currentBurnRateBps := config.baseBurnRateBps

abbrev Call := Attempt StakingManager SystemContractError

def burnRate (config : StakingConfig) (utilization : Nat) : Nat :=
  if utilization > config.highCongestionThreshold then config.maxBurnRateBps
  else if utilization > config.congestionThreshold then
    let range := (config.maxBurnRateBps + 2 ^ 16 - config.baseBurnRateBps) % 2 ^ 16
    let congestionRange := config.highCongestionThreshold - config.congestionThreshold
    let excess := utilization - config.congestionThreshold
    (config.baseBurnRateBps + range * excess / congestionRange) % 2 ^ 16
  else config.baseBurnRateBps

variable (manager : StakingManager)

def updateUtilization (utilization : Nat) : StakingManager :=
  { manager with
    networkUtilization := min utilization 100
    currentBurnRateBps := burnRate manager.config utilization }

def calculateFeeSplit (fee : Nat) : Nat × Nat × Nat :=
  let proverAmount := mulU128 fee 70 / 100
  let burnAmount := mulU128 fee manager.currentBurnRateBps / 10000
  (proverAmount, saturatingSub (saturatingSub fee proverAmount) burnAmount, burnAmount)

/-- Adds to a stake, opening it if there is none. -/
def addStake (staker : Address) (amount : Nat) (role : StakeRole) : StakingManager :=
  let info := (manager.stakers.lookup staker).getD (.new staker role 0 manager.currentBlock)
  { manager with
    stakers := manager.stakers.insert staker { info with
      staked := saturatingAdd info.staked amount }
    totalStaked := saturatingAdd manager.totalStaked amount }

def unstake (staker : Address) (amount : Nat) (ctx : BlockContext) : Call Unit := do
  let manager ← read
  let info ← okOr (manager.stakers.lookup staker) (.StakerNotFound staker)
  ensure (info.jailedUntil ≤ ctx.timestamp) .SlashingInProgress
  let available := saturatingSub info.staked info.unbonding
  ensure (amount ≤ available) (.CannotUnstake amount available)
  let remaining := saturatingSub info.staked amount
  let minStake := manager.config.minStake info.role
  ensure (¬(remaining > 0 ∧ remaining < minStake)) (.InsufficientStake minStake remaining)
  modify fun manager => { manager with
    stakers := manager.stakers.insert staker { info with
      unbonding := saturatingAdd info.unbonding amount
      unbondingCompleteTime := addU64 ctx.timestamp manager.config.unbondingPeriod } }

def unjail (ctx : BlockContext) (info : StakeInfo) : StakeInfo :=
  if info.jailedUntil > 0 ∧ info.jailedUntil ≤ ctx.timestamp ∧ info.tombstoned = false then
    { info with jailedUntil := 0 }
  else info

def endBlock (ctx : BlockContext) : StakingManager :=
  { manager with
    currentBlock := ctx.height
    stakers := manager.stakers.mapValues (unjail ctx) }

end StakingManager

/-- The staking manager with the bank it locks stakes in. -/
structure Economy where
  staking : StakingManager
  bank : Bank

namespace Economy

open StakingManager

abbrev Call := Attempt Economy SystemContractError

def onBank {α : Type} (call : Bank.Call α) : Call α :=
  within Economy.bank (fun economy bank => { economy with bank }) call

def onStaking {α : Type} (call : StakingManager.Call α) : Call α :=
  within Economy.staking (fun economy staking => { economy with staking }) call

variable (staker : Address)

def stake (amount : Nat) (role : StakeRole) : Call Unit := do
  let economy ← read
  let minStake := economy.staking.config.minStake role
  ensure (minStake ≤ amount) (.InsufficientStake minStake amount)
  onBank (Bank.lock staker amount)
  modify fun economy => { economy with staking := economy.staking.addStake staker amount role }

def withdraw (ctx : BlockContext) : Call Nat := do
  let economy ← read
  let info ← okOr (economy.staking.stakers.lookup staker) (.StakerNotFound staker)
  ensure (info.unbonding ≠ 0) .NothingToWithdraw
  ensure (info.unbondingCompleteTime ≤ ctx.timestamp)
    (.UnstakeInProgress info.unbondingCompleteTime)
  modify fun economy => { economy with staking := { economy.staking with
    stakers := economy.staking.stakers.insert staker { info with
      staked := saturatingSub info.staked info.unbonding
      unbonding := 0
      unbondingCompleteTime := 0 }
    totalStaked := saturatingSub economy.staking.totalStaked info.unbonding } }
  onBank (Bank.unlock staker info.unbonding)
  return info.unbonding

/-- The staker after a slash that took `taken`. -/
def punished (manager : StakingManager) (info : StakeInfo) (rateBps taken : Nat) (jail : Bool) :
    StakeInfo :=
  let slashing := manager.config.slashing
  let slashCount := (info.slashCount + 1) % 2 ^ 32
  { info with
    staked := saturatingSub info.staked taken
    slashCount
    jailedUntil :=
      if jail then
        addU64 manager.currentBlock (if rateBps ≥ slashing.doubleSignBps then
          slashing.majorJailDuration else slashing.minorJailDuration)
      else info.jailedUntil
    tombstoned := info.tombstoned || decide (slashCount ≥ slashing.tombstoneThreshold) }

def slash (rateBps : Nat) (jail : Bool) : Call Nat := do
  let economy ← read
  let info ← okOr (economy.staking.stakers.lookup staker) (.StakerNotFound staker)
  let taken ← onBank (Bank.slash staker (mulU128 info.staked rateBps / 10000))
  modify fun economy => { economy with staking := { economy.staking with
    stakers := economy.staking.stakers.insert staker
      (punished economy.staking info rateBps taken jail)
    totalStaked := saturatingSub economy.staking.totalStaked taken
    totalBurned := saturatingAdd economy.staking.totalBurned taken } }
  return taken

inductive Offense
  | slaViolation | invalidProof | doubleSign
  deriving DecidableEq

def Offense.rateBps (params : SlashingParams) : Offense → Nat
  | .slaViolation => params.slaViolationBps
  | .invalidProof => params.invalidProofBps
  | .doubleSign => params.doubleSignBps

/-- `slash_for_sla_violation`, `slash_for_invalid_proof` and `slash_for_double_sign`. -/
def slashFor (offense : Offense) (staker : Address) : Call Nat := fun economy =>
  slash staker (offense.rateBps economy.staking.config.slashing) true economy

end Economy

end Vm

/- What the calls of the staking manager can end with. -/
namespace Vm.Economy

open Go Attempt StakingManager

variable {economy : Economy} {staker : Address} {info : StakeInfo} {amount : Nat}

section Parts

variable {α : Type}

theorem onBank_apply (call : Bank.Call α) :
    onBank call economy = ((call economy.bank).1, { economy with bank := (call economy.bank).2 }) :=
  rfl

theorem onStaking_apply (call : StakingManager.Call α) :
    onStaking call economy =
      ((call economy.staking).1, { economy with staking := (call economy.staking).2 }) := rfl

theorem onBank_of {call : Bank.Call α} {outcome : Except SystemContractError α} {bank : Bank}
    (done : call economy.bank = (outcome, bank)) :
    onBank call economy = (outcome, { economy with bank }) := by
  rw [onBank_apply, done]

end Parts

/-- The stake of an address, nothing if there is none. -/
def stakeOf (economy : Economy) (staker : Address) : Nat :=
  Map.share (·.staked) (economy.staking.stakers.lookup staker)

theorem stakeOf_eq (present : economy.staking.stakers.lookup staker = some info) :
    economy.stakeOf staker = info.staked := by
  rw [stakeOf, present]
  rfl

theorem stake_cases (staker : Address) (amount : Nat) (role : StakeRole) (economy : Economy) :
    (∃ reason bank, stake staker amount role economy = (.error reason, { economy with bank }) ∧
      (bank = economy.bank ∨ Bank.lock staker amount economy.bank = (.error reason, bank))) ∨
    ∃ bank, economy.staking.config.minStake role ≤ amount ∧
      Bank.lock staker amount economy.bank = (.ok (), bank) ∧
      stake staker amount role economy =
        (.ok (), ⟨economy.staking.addStake staker amount role, bank⟩) := by
  simp only [stake, read_bind, ensure_bind]
  split
  next enough =>
    cases locked : Bank.lock staker amount economy.bank with
    | mk outcome bank =>
      cases outcome with
      | error reason =>
        rw [bind_of_error (onBank_of locked)]
        exact .inl ⟨reason, bank, rfl, .inr rfl⟩
      | ok done =>
        rw [bind_of_ok (onBank_of locked)]
        exact .inr ⟨bank, enough, rfl, rfl⟩
  · exact .inl ⟨_, economy.bank, rfl, .inl rfl⟩

theorem unstake_cases (staker : Address) (amount : Nat) (ctx : BlockContext)
    (manager : StakingManager) :
    (∃ reason, unstake staker amount ctx manager = (.error reason, manager)) ∨
    ∃ info, manager.stakers.lookup staker = some info ∧ info.jailedUntil ≤ ctx.timestamp ∧
      amount ≤ saturatingSub info.staked info.unbonding ∧
      unstake staker amount ctx manager = (.ok (), { manager with
        stakers := manager.stakers.insert staker { info with
          unbonding := saturatingAdd info.unbonding amount
          unbondingCompleteTime := addU64 ctx.timestamp manager.config.unbondingPeriod } }) := by
  simp only [unstake, read_bind, okOr_bind]
  cases present : manager.stakers.lookup staker with
  | none => exact .inl ⟨_, rfl⟩
  | some info =>
    simp only [ensure_bind]
    split
    next free =>
      split
      next enough =>
        split
        · exact .inr ⟨info, rfl, free, enough, rfl⟩
        · exact .inl ⟨_, rfl⟩
      · exact .inl ⟨_, rfl⟩
    · exact .inl ⟨_, rfl⟩

theorem unstake_jailed {manager : StakingManager} {ctx : BlockContext}
    (present : manager.stakers.lookup staker = some info)
    (jailed : ctx.timestamp < info.jailedUntil) :
    unstake staker amount ctx manager = (.error .SlashingInProgress, manager) := by
  simp only [unstake, read_bind, okOr_bind, present, ensure_bind]
  rw [if_neg (Nat.not_le_of_lt jailed)]

def withdrawn (manager : StakingManager) (staker : Address) (info : StakeInfo) : StakingManager :=
  { manager with
    stakers := manager.stakers.insert staker { info with
      staked := saturatingSub info.staked info.unbonding
      unbonding := 0
      unbondingCompleteTime := 0 }
    totalStaked := saturatingSub manager.totalStaked info.unbonding }

/-- All that a withdrawal can do. -/
theorem withdraw_cases (staker : Address) (ctx : BlockContext) (economy : Economy) :
    (∃ reason, withdraw staker ctx economy = (.error reason, economy)) ∨
    ∃ info, economy.staking.stakers.lookup staker = some info ∧ info.unbonding ≠ 0 ∧
      withdraw staker ctx economy =
        ((Bank.unlock staker info.unbonding economy.bank).1.map fun _ => info.unbonding,
          ⟨withdrawn economy.staking staker info,
            (Bank.unlock staker info.unbonding economy.bank).2⟩) := by
  simp only [withdraw, read_bind, okOr_bind]
  cases present : economy.staking.stakers.lookup staker with
  | none => exact .inl ⟨_, rfl⟩
  | some info =>
    simp only [ensure_bind]
    split
    next positive =>
      split
      · refine .inr ⟨info, rfl, positive, ?_⟩
        have asked : onBank (Bank.unlock staker info.unbonding)
            ⟨withdrawn economy.staking staker info, economy.bank⟩ =
          ((Bank.unlock staker info.unbonding economy.bank).1,
            ⟨withdrawn economy.staking staker info,
              (Bank.unlock staker info.unbonding economy.bank).2⟩) := onBank_apply _
        cases paid : Bank.unlock staker info.unbonding economy.bank with
        | mk outcome bank =>
          rw [paid] at asked
          rw [modify_bind]
          cases outcome with
          | error reason => exact bind_of_error asked
          | ok done => exact bind_of_ok asked
      · exact .inl ⟨_, rfl⟩
    · exact .inl ⟨_, rfl⟩

theorem slashFor_cases (offense : Offense) (staker : Address) (economy : Economy) :
    (∃ reason, slashFor offense staker economy = (.error reason, economy)) ∨
    ∃ info bank taken rateBps, economy.staking.stakers.lookup staker = some info ∧
      rateBps = offense.rateBps economy.staking.config.slashing ∧
      Bank.slash staker (mulU128 info.staked rateBps / 10000) economy.bank = (.ok taken, bank) ∧
      slashFor offense staker economy = (.ok taken, ⟨{ economy.staking with
        stakers := economy.staking.stakers.insert staker
          (punished economy.staking info rateBps taken true)
        totalStaked := saturatingSub economy.staking.totalStaked taken
        totalBurned := saturatingAdd economy.staking.totalBurned taken }, bank⟩) := by
  simp only [slashFor, slash, read_bind, okOr_bind]
  cases present : economy.staking.stakers.lookup staker with
  | none => exact .inl ⟨_, rfl⟩
  | some info =>
    dsimp only
    generalize rate : offense.rateBps economy.staking.config.slashing = rateBps
    obtain ⟨reason, failed⟩ | ⟨bank, done, -, -⟩ :=
      Bank.slash_spec staker (mulU128 info.staked rateBps / 10000)
    · rw [bind_of_error (onBank_of failed)]
      exact .inl ⟨reason, rfl⟩
    · rw [bind_of_ok (onBank_of done)]
      exact .inr ⟨info, bank, _, rateBps, rfl, rfl, done, rfl⟩

end Vm.Economy
