import Aethelred.Lib.Bytes
import Aethelred.Go.RangeOrder
import Aethelred.Pouw.FeeBreakdown

/- Paying a job fee out of the pouw module account: `DistributeJobFee`, the entry point over the
staking module's validators, and the store of earmarks. -/
namespace Pouw

open Go Attempt

def moduleName : String := "pouw"
def treasuryModuleName : String := "pouw_treasury"
def insuranceModuleName : String := "pouw_insurance"
def defaultDenom : String := "uaethel"
def treasuryEarmarkKeyPrefix : List UInt8 := [0x0A]
def insuranceEarmarkKeyPrefix : List UInt8 := [0x0B]
def maxValidatorsPerDistribution : Nat := 300

/-- The calls on the bank module, which also keeps the balances. -/
structure BankKeeper (β : Type) where
  balance : β → List UInt8 → String → Int
  sendCoinsFromModuleToAccount : String → List UInt8 → Coin → Attempt β Fault Unit
  sendCoinsFromModuleToModule : String → String → Coin → Attempt β Fault Unit
  burnCoins : String → Coin → Attempt β Fault Unit

structure Sdk (β : Type) where
  bank : BankKeeper β
  newModuleAddress : String → List UInt8
  accAddressFromBech32 : String → Except String (List UInt8)
  valAddressFromBech32 : String → Except String (List UInt8)
  /-- `%q`. -/
  quote : String → String

inductive BondStatus where
  | unspecified
  | unbonded
  | unbonding
  | bonded
deriving DecidableEq

structure StakingValidator where
  operatorAddress : String
  status : BondStatus
  jailed : Bool

/-- The bank's state and the earmarks, whose decimal texts stand for their numbers. -/
structure FeeState (β : Type) where
  bank : β
  storeService : Bool
  earmarks : Map (List UInt8) Int

abbrev FeeCall (β α : Type) := Attempt (FeeState β) Fault α

variable {β : Type} (key : List UInt8)

def earmarkKey (denom : String) : List UInt8 := key ++ Bytes.ofText denom

def getEarmarkAmount (denom : String) : FeeCall β Int := do
  let state ← read
  ensure (state.storeService = true) (.err "store service not configured")
  ensure (denom ≠ "") (.err "denom must not be empty")
  pure ((state.earmarks.lookup (earmarkKey key denom)).getD 0)

def whenPositive (coin : Coin) (call : FeeCall β Unit) : FeeCall β Unit :=
  if 0 < coin.amount then call else pure ()

variable (amount : Coin)

def addEarmarkAmount : FeeCall β Unit :=
  whenPositive amount do
    let state ← read
    ensure (state.storeService = true) (.err "store service not configured")
    ensure (amount.denom ≠ "") (.err "denom must not be empty")
    let current ← getEarmarkAmount key amount.denom
    let next ← ofExcept (SdkInt.add current amount.amount)
    modify fun state =>
      { state with earmarks := state.earmarks.insert (earmarkKey key amount.denom) next }

def recordTreasuryEarmark : FeeCall β Unit :=
  addEarmarkAmount treasuryEarmarkKeyPrefix amount

def recordInsuranceFundEarmark : FeeCall β Unit :=
  addEarmarkAmount insuranceEarmarkKeyPrefix amount

def onBank (call : Attempt β Fault Unit) : FeeCall β Unit :=
  within (·.bank) (fun state bank => { state with bank }) call

/-- `fmt.Errorf` around the error of a call. -/
def wrapping (context : String) (call : FeeCall β Unit) : FeeCall β Unit := fun state =>
  ((call state).1.mapError (Fault.wrap context), (call state).2)

section Calls

variable (sdk : Sdk β)

def sendReward (reward : Coin) (validator : String) : FeeCall β Unit :=
  match sdk.accAddressFromBech32 validator with
  | .error reason => fail (.err s!"invalid validator address {validator}: {reason}")
  | .ok address =>
    wrapping s!"failed to send reward to validator {validator}"
      (onBank (sdk.bank.sendCoinsFromModuleToAccount moduleName address reward))

def sendRewards (reward : Coin) : List String → FeeCall β Unit
  | [] => pure ()
  | validator :: validators => do
      sendReward sdk reward validator
      sendRewards reward validators

def distributeVerificationRewards (validators : List String) (perValidatorReward : Coin) :
    FeeCall β Unit :=
  whenPositive perValidatorReward (sendRewards sdk perValidatorReward validators)

variable (amount : Coin)

def burnTokens : FeeCall β Unit :=
  let text := amount.toString
  whenPositive amount (wrapping s!"failed to burn {text} from module {moduleName}"
    (onBank (sdk.bank.burnCoins moduleName amount)))

def checkAddresses (index : Nat) : List String → Except Fault Unit
  | [] => .ok ()
  | validator :: validators =>
    match sdk.accAddressFromBech32 validator with
    | .error reason =>
      let quoted := sdk.quote validator
      .error (.err s!"invalid validator address at index {index}: {quoted}: {reason} (FD-04)")
    | .ok _ => checkAddresses (index + 1) validators

/-- FD-04: no address stands twice in the list. -/
def checkDuplicates (seen : List String) : List String → Except Fault Unit
  | [] => .ok ()
  | validator :: validators =>
    if validator ∈ seen then
      let quoted := sdk.quote validator
      .error (.err s!"duplicate validator address {quoted} in distribution list (FD-04)")
    else
      checkDuplicates (validator :: seen) validators

variable (config : FeeDistributionConfig)

def checkConfig : Except Fault Unit :=
  (validateFeeDistribution config).mapError fun reason =>
    .err s!"invalid fee distribution config: {reason}"

/-- FD-01: the fee is in the chain's denomination. -/
def checkDenom (denom : String) : Except Fault Unit :=
  let quoted := sdk.quote denom
  let expected := sdk.quote defaultDenom
  if denom ≠ defaultDenom then
    .error (.err s!"unexpected fee denom {quoted}; expected {expected} (FD-01)")
  else
    .ok ()

def checkDistribution (jobFee : Coin) (validators : List String) : Except Fault Unit :=
  let fee := jobFee.toString
  let count := validators.length
  if ¬0 < jobFee.amount then
    .error (.err s!"job fee must be positive, got {fee}")
  else if count = 0 then
    .error (.err "at least one validator is required for fee distribution")
  else if count > maxValidatorsPerDistribution then
    .error (.err
      s!"validator count {count} exceeds maximum {maxValidatorsPerDistribution} (FD-05)")
  else do
    checkAddresses sdk 0 validators
    checkDuplicates sdk [] validators
    checkConfig config
    checkDenom sdk jobFee.denom

def payTreasury : FeeCall β Unit :=
  whenPositive amount do
    wrapping "failed to transfer treasury allocation" (onBank
      (sdk.bank.sendCoinsFromModuleToModule moduleName treasuryModuleName amount))
    wrapping "failed to record treasury earmark" (recordTreasuryEarmark amount)

def payInsurance : FeeCall β Unit :=
  whenPositive amount do
    wrapping "failed to transfer insurance allocation" (onBank
      (sdk.bank.sendCoinsFromModuleToModule moduleName insuranceModuleName amount))
    wrapping "failed to record insurance earmark" (recordInsuranceFundEarmark amount)

def distributeJobFee (jobFee : Coin) (validators : List String) :
    FeeCall β FeeDistributionResult := do
  ofExcept (checkDistribution sdk config jobFee validators)
  let result ← ofExcept (calculateFeeBreakdown jobFee config validators.length)
  whenPositive result.perValidatorReward (wrapping "failed to distribute validator rewards"
    (distributeVerificationRewards sdk validators result.perValidatorReward))
  payTreasury sdk result.treasuryAmount
  whenPositive result.burnedAmount
    (wrapping "failed to burn tokens" (burnTokens sdk result.burnedAmount))
  payInsurance sdk result.insuranceFund
  pure result

def bondedAddrs (validators : List StakingValidator) : List String :=
  (validators.filter fun validator => validator.status = .bonded ∧ ¬validator.jailed).map
    (·.operatorAddress)

/-- The entry point over the validators `GetAllValidators` gives. -/
def distributeJobFeeFromValidatorSet
    (allValidators : Except String (List StakingValidator)) (jobFee : Coin) :
    FeeCall β FeeDistributionResult :=
  match allValidators with
  | .error reason => fail (.err s!"failed to load validators from staking keeper: {reason}")
  | .ok validators =>
    if bondedAddrs validators = [] then
      fail (.err "no bonded validators found for fee distribution (FD-04)")
    else
      distributeJobFee sdk config jobFee (bondedAddrs validators)

end Calls

end Pouw
