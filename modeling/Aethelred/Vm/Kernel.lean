import Aethelred.Vm.Staking

/- The system kernel (`mod.rs`) as the staking manager sees it: the block context, the staking calls
that it executes, and the end of the block. -/
namespace Vm

open Go Attempt

/-- The transactions about stakes. -/
inductive SystemCall
  | Stake (staker : Address) (amount : Nat) (role : StakeRole)
  | Unstake (staker : Address) (amount : Nat)
  | WithdrawStake (staker : Address)
  deriving DecidableEq

inductive SystemCallResult
  | Staked (staker : Address) (amount : Nat)
  | UnstakeInitiated (staker : Address) (amount : Nat)
  | Withdrawn (staker : Address) (amount : Nat)
  deriving DecidableEq

structure SystemKernel where
  economy : Economy
  context : BlockContext := {}

namespace SystemKernel

open Economy StakingManager

def fromGenesis (config : StakingConfig) (bank : Bank) : SystemKernel where
  economy := ⟨.new config, bank⟩

abbrev config (kernel : SystemKernel) : StakingConfig := kernel.economy.staking.config

abbrev now (kernel : SystemKernel) : Nat := kernel.context.timestamp

def record (kernel : SystemKernel) (staker : Address) : Option StakeInfo :=
  kernel.economy.staking.stakers.lookup staker

abbrev Call := Attempt SystemKernel SystemContractError

def onEconomy {α : Type} (call : Economy.Call α) : Call α :=
  within economy (fun kernel economy => { kernel with economy }) call

def execute (call : SystemCall) : Call SystemCallResult := do
  let kernel ← read
  match call with
  | .Stake staker amount role => do
      onEconomy (stake staker amount role)
      return .Staked staker amount
  | .Unstake staker amount => do
      onEconomy (onStaking (unstake staker amount kernel.context))
      return .UnstakeInitiated staker amount
  | .WithdrawStake staker => do
      let amount ← onEconomy (withdraw staker kernel.context)
      return .Withdrawn staker amount

def beginBlock (context : BlockContext) (kernel : SystemKernel) : SystemKernel :=
  { kernel with context }

def endBlock (utilization : Nat) (kernel : SystemKernel) : SystemKernel :=
  { kernel with economy := { kernel.economy with
    staking := (kernel.economy.staking.endBlock kernel.context).updateUtilization utilization } }

/-- Blocks begin, carry transactions and end. -/
inductive KernelCall
  | beginBlock (context : BlockContext)
  | endBlock (utilization : Nat)
  | execute (call : SystemCall)
  /-- The staking manager is open to the other modules, which report offenses to it. -/
  | slashFor (offense : Offense) (staker : Address)
  /-- What the other contracts do with the bank. -/
  | elsewhere (bank : Bank)

def step (kernel : SystemKernel) : KernelCall → SystemKernel
  | .beginBlock context => kernel.beginBlock context
  | .endBlock utilization => kernel.endBlock utilization
  | .execute call => (kernel.execute call).2
  | .slashFor offense staker =>
    { kernel with economy := (slashFor offense staker kernel.economy).2 }
  | .elsewhere bank => { kernel with economy := { kernel.economy with bank } }

variable {kernel : SystemKernel} {staker other : Address} {call : KernelCall}

section Executing

variable {α : Type}

theorem onEconomy_return (call : Economy.Call α) (wrap : α → SystemCallResult) :
    (do return wrap (← onEconomy call) : Call SystemCallResult) kernel =
      ((call kernel.economy).1.map wrap, { kernel with economy := (call kernel.economy).2 }) := by
  cases done : call kernel.economy with
  | mk outcome economy =>
    have asked : onEconomy call kernel = (outcome, { kernel with economy }) := by
      unfold onEconomy within
      rw [done]
    cases outcome with
    | error reason => exact bind_of_error asked
    | ok value => exact bind_of_ok asked

variable (staker : Address)

theorem execute_stake (amount : Nat) (role : StakeRole) :
    kernel.execute (.Stake staker amount role) =
      ((stake staker amount role kernel.economy).1.map fun _ => .Staked staker amount,
        { kernel with economy := (stake staker amount role kernel.economy).2 }) :=
  onEconomy_return (stake staker amount role) fun _ => .Staked staker amount

theorem execute_unstake (amount : Nat) :
    kernel.execute (.Unstake staker amount) =
      ((unstake staker amount kernel.context kernel.economy.staking).1.map
          fun _ => .UnstakeInitiated staker amount,
        { kernel with economy := { kernel.economy with
          staking := (unstake staker amount kernel.context kernel.economy.staking).2 } }) :=
  onEconomy_return (onStaking (unstake staker amount kernel.context))
    fun _ => .UnstakeInitiated staker amount

theorem execute_withdrawStake :
    kernel.execute (.WithdrawStake staker) =
      ((withdraw staker kernel.context kernel.economy).1.map (.Withdrawn staker),
        { kernel with economy := (withdraw staker kernel.context kernel.economy).2 }) :=
  onEconomy_return (withdraw staker kernel.context) (.Withdrawn staker)

end Executing

def opened (kernel : SystemKernel) (staker : Address) (role : StakeRole) : StakeInfo :=
  (kernel.record staker).getD (.new staker role 0 kernel.economy.staking.currentBlock)

/-- What a call can make of a staker's record. -/
inductive Records (kernel : SystemKernel) (staker : Address) : KernelCall → Option StakeInfo → Prop
  | kept {call : KernelCall} : Records kernel staker call (kernel.record staker)
  | staked {amount : Nat} {role : StakeRole} (enough : kernel.config.minStake role ≤ amount)
      (funded : amount ≤ (kernel.economy.bank.account staker).available) :
      Records kernel staker (.execute (.Stake staker amount role))
        (some { kernel.opened staker role with
          staked := saturatingAdd (kernel.opened staker role).staked amount })
  | unstaked {amount : Nat} {info : StakeInfo} (present : kernel.record staker = some info)
      (enough : amount ≤ saturatingSub info.staked info.unbonding) (complete : Nat) :
      Records kernel staker (.execute (.Unstake staker amount)) (some { info with
        unbonding := saturatingAdd info.unbonding amount
        unbondingCompleteTime := complete })
  | withdrawn {info : StakeInfo} (present : kernel.record staker = some info) :
      Records kernel staker (.execute (.WithdrawStake staker)) (some { info with
        staked := saturatingSub info.staked info.unbonding
        unbonding := 0
        unbondingCompleteTime := 0 })
  | slashed {offense : Offense} {info : StakeInfo} {taken : Nat}
      (present : kernel.record staker = some info)
      (done : (slashFor offense staker kernel.economy).1 = .ok taken) :
      Records kernel staker (.slashFor offense staker) (some (punished kernel.economy.staking info
        (offense.rateBps kernel.config.slashing) taken true))
  | unjailed {utilization : Nat} :
      Records kernel staker (.endBlock utilization)
        ((kernel.record staker).map (unjail kernel.context))

theorem Records.insert {info : StakeInfo} (writes : Records kernel staker call (some info))
    (other : Address) :
    Records kernel other call
      ((kernel.economy.staking.stakers.insert staker info).lookup other) := by
  rw [Map.lookup_insert_eq]
  split
  next same =>
    subst same
    exact writes
  · exact .kept

/-- What a call does to a staker's record. -/
theorem records_step (kernel : SystemKernel) (staker : Address) (call : KernelCall) :
    Records kernel staker call ((kernel.step call).record staker) := by
  cases call with
  | beginBlock context => exact .kept
  | endBlock utilization =>
    have looked : ((kernel.step (.endBlock utilization)).record staker) =
        (kernel.record staker).map (unjail kernel.context) := Map.lookup_mapValues ..
    rw [looked]
    exact .unjailed
  | execute call =>
    cases call with
    | Stake other amount role =>
      rw [step, execute_stake]
      obtain ⟨reason, bank, failed, -⟩ | ⟨bank, enough, locked, done⟩ :=
        stake_cases other amount role kernel.economy
      · rw [failed]
        exact .kept
      · rw [done]
        obtain ⟨reason, failed⟩ | ⟨funded, -⟩ :=
          Bank.lock_cases other amount kernel.economy.bank
        · rw [locked] at failed
          cases congrArg Prod.fst failed
        · exact (Records.staked enough funded).insert staker
    | Unstake other amount =>
      rw [step, execute_unstake]
      obtain ⟨reason, failed⟩ | ⟨info, present, -, enough, done⟩ :=
        unstake_cases other amount kernel.context kernel.economy.staking
      · rw [failed]
        exact .kept
      · rw [done]
        exact (Records.unstaked present enough _).insert staker
    | WithdrawStake other =>
      rw [step, execute_withdrawStake]
      obtain ⟨reason, failed⟩ | ⟨info, present, -, done⟩ :=
        withdraw_cases other kernel.context kernel.economy
      · rw [failed]
        exact .kept
      · rw [done]
        exact (Records.withdrawn present).insert staker
  | slashFor offense other =>
    obtain ⟨reason, failed⟩ | ⟨info, bank, taken, rateBps, present, rfl, -, done⟩ :=
      slashFor_cases offense other kernel.economy
    · rw [step, failed]
      exact .kept
    · rw [step, done]
      exact (Records.slashed present (congrArg Prod.fst done)).insert staker
  | elsewhere bank => exact .kept

/-- No call changes the configuration. -/
theorem config_step (kernel : SystemKernel) (call : KernelCall) :
    (kernel.step call).config = kernel.config := by
  cases call with
  | beginBlock context => rfl
  | endBlock utilization => rfl
  | execute call =>
    cases call with
    | Stake staker amount role =>
      rw [step, execute_stake]
      obtain ⟨reason, bank, failed, -⟩ | ⟨bank, -, -, done⟩ :=
        stake_cases staker amount role kernel.economy
      · rw [failed]
      · rw [done]
        rfl
    | Unstake staker amount =>
      rw [step, execute_unstake]
      obtain ⟨reason, failed⟩ | ⟨info, -, -, -, done⟩ :=
        unstake_cases staker amount kernel.context kernel.economy.staking
      · rw [failed]
      · rw [done]
    | WithdrawStake staker =>
      rw [step, execute_withdrawStake]
      obtain ⟨reason, failed⟩ | ⟨info, -, -, done⟩ :=
        withdraw_cases staker kernel.context kernel.economy
      · rw [failed]
      · rw [done]
        rfl
  | slashFor offense staker =>
    obtain ⟨reason, failed⟩ | ⟨info, bank, taken, rateBps, -, -, -, done⟩ :=
      slashFor_cases offense staker kernel.economy
    · rw [step, failed]
    · rw [step, done]
  | elsewhere bank => rfl

end SystemKernel

end Vm
