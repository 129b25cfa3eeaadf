import Aethelred.Go.MapSum
import Aethelred.Go.Strings
import Aethelred.Vault.Attestation
import Aethelred.Vault.ValidatorSetHash

/- The liquid staking of the vault keeper (`keeper.go`): stakers, validators, withdrawal requests and
the totals the keeper stores beside them. Amounts are 64-bit and wrap. A call that fails keeps what
it has written before. Texts of errors end where the program prints a time or the text of an error of
a library. -/
namespace Vault

open Go Attempt Bytes

structure StakerRecord where
  address : String
  evmAddress : String
  shares : UInt64
  stakedAmount : UInt64
  delegatedTo : String
  deriving DecidableEq

structure WithdrawalRequest where
  id : UInt64
  owner : String
  shares : UInt64
  aethelAmount : UInt64
  /-- In nanoseconds. -/
  completionTime : Int
  claimed : Bool

structure CircuitBreakerConfig where
  maxUnstakePerEpochPct : UInt32 := 25
  maxSlashesPerEpoch : UInt32 := 3
  enabled : Bool := false

/-- What the keeper stores; the defaults are those of `InitializeDefaults`. -/
structure Store where
  totalPooledAethel : UInt64 := 0
  totalShares : UInt64 := 0
  currentEpoch : UInt64 := 1
  nextWithdrawalID : UInt64 := 1
  totalPendingWithdrawals : UInt64 := 0
  activeValidators : List String := []
  stakers : Map String StakerRecord := ∅
  validators : Map String ValidatorRecord := ∅
  withdrawals : Map UInt64 WithdrawalRequest := ∅
  stakePerEpoch : Map UInt64 UInt64 := ∅
  userWithdrawals : Map String (List UInt64) := ∅
  registry : Registry := {}
  delegationSnapshots : Map UInt64 (List StakerStakeEntry) := ∅
  paused : Bool := false
  pauseReason : String := ""
  circuitBreaker : CircuitBreakerConfig := {}
  epochUnstakeAccum : Map UInt64 UInt64 := ∅
  epochSlashCount : Map UInt64 UInt64 := ∅

structure Deployment where
  authority : String
  sha256 : List UInt8 → Fixed 32
  recoverCompact : (compactSig digest : Go.Bytes) → Option Go.Bytes
  verifyP256 : (x y hash r s : Go.Bytes) → Bool
  accAddressFromBech32 : String → Option Go.Bytes
  /-- `unicode.ToLower`. -/
  toLowerRune : Char → Char

def Deployment.crypto (deployment : Deployment) : Crypto where
  sha256 bytes := List.ofFn (deployment.sha256 bytes)
  recoverCompact := deployment.recoverCompact
  verifyP256 := deployment.verifyP256

/-- `strings.ToLower`. -/
def Deployment.toLower (deployment : Deployment) (text : String) : String :=
  String.ofList (text.toList.map deployment.toLowerRune)

/-- A block time in nanoseconds, within the years 1 to 9999 that a timestamp of a header can have. -/
structure Instant where
  nanos : Int
  lower : -62135596800 * 10 ^ 9 ≤ nanos
  upper : nanos < 253402300800 * 10 ^ 9

def Instant.unix (time : Instant) : Int := time.nanos / 10 ^ 9

def MinStakeUAETH : UInt64 := 32_000_000

def MaxStakePerEpochUAETH : UInt64 := 500_000_000_000_000

def MaxCommissionBPS : UInt32 := 1000

def MaxWithdrawalRequestsPerUser : Nat := 100

/-- 14 days, in nanoseconds. -/
def UnbondingPeriod : Int := 14 * 24 * 60 * 60 * 10 ^ 9

/-- From here on `Time.MarshalJSON` fails. -/
def yearTenThousand : Int := 253402300800 * 10 ^ 9

namespace Store

section Records

variable (store : Store)

def setStaker (staker : StakerRecord) : Store :=
  { store with stakers := store.stakers.insert staker.address staker }

def setValidator (validator : ValidatorRecord) : Store :=
  { store with validators := store.validators.insert validator.address validator }

def setWithdrawal (request : WithdrawalRequest) : Store :=
  { store with withdrawals := store.withdrawals.insert request.id request }

def releaseStake (validatorAddr : String) (amount : UInt64) : Store :=
  match store.validators.lookup validatorAddr with
  | some validator =>
    store.setValidator { validator with
      delegatedStake :=
        if validator.delegatedStake ≥ amount then validator.delegatedStake - amount else 0 }
  | none => store

end Records

def requireNotPaused : Attempt Store String Unit := do
  let store ← read
  ensure (store.paused = false)
    s!"vault is paused: all mutating operations are blocked: {store.pauseReason}"

section CircuitBreaker

variable (store : Store)

def trip (reason : String) : Store :=
  if store.paused then store else { store with paused := true, pauseReason := reason }

def checkCircuitBreaker : Store :=
  let cfg := store.circuitBreaker
  let epochUnstaked := store.epochUnstakeAccum.get store.currentEpoch 0
  let threshold :=
    (store.totalPooledAethel + epochUnstaked) * cfg.maxUnstakePerEpochPct.toUInt64 / 100
  let epochSlashes := store.epochSlashCount.get store.currentEpoch 0
  if cfg.enabled = false then store
  else if cfg.maxUnstakePerEpochPct > 0 ∧ threshold > 0 ∧ epochUnstaked > threshold then
    store.trip (s!"circuit breaker: epoch {store.currentEpoch} unstake volume {epochUnstaked} " ++
      s!"exceeds {cfg.maxUnstakePerEpochPct}% of TVL (threshold {threshold})")
  else if cfg.maxSlashesPerEpoch > 0 ∧ epochSlashes > cfg.maxSlashesPerEpoch.toUInt64 then
    store.trip (s!"circuit breaker: epoch {store.currentEpoch} slash count {epochSlashes} " ++
      s!"exceeds limit {cfg.maxSlashesPerEpoch}")
  else store

end CircuitBreaker

section Stake

variable (deployment : Deployment)

/-- The 20 bytes of an address, in hexadecimal or in bech32, as hexadecimal digits. -/
def resolveEvmAddress (addr : String) : Option String :=
  let hexAddr := Strings.trimPrefix (deployment.toLower addr) "0x"
  match decodeExactly 20 hexAddr with
  | some _ => some hexAddr
  | none =>
    ((deployment.accAddressFromBech32 addr).filter fun bytes => bytes.length = 20).map
      Hex.encodeToString

/-- The shares that an amount is worth, in 64 bits. -/
def mintedShares (totalPooled totalShares amount : UInt64) : UInt64 :=
  if totalPooled = 0 then amount else amount * totalShares / totalPooled

/-- The staker's record and the stake delegated to the validator, once the shares are minted. -/
def recordStake (address evmAddr : String) (amount shares : UInt64) (validatorAddr : String)
    (val : ValidatorRecord) (store : Store) : Store :=
  match store.stakers.lookup address with
  | some staker =>
    let restaked := { staker with
      evmAddress := if staker.evmAddress = "" then evmAddr else staker.evmAddress
      shares := staker.shares + shares
      stakedAmount := staker.stakedAmount + amount
      delegatedTo := validatorAddr }
    if staker.delegatedTo ≠ validatorAddr then
      let released :=
        if staker.delegatedTo ≠ "" then store.releaseStake staker.delegatedTo staker.stakedAmount
        else store
      (released.setValidator { val with
        delegatedStake := val.delegatedStake + (staker.stakedAmount + amount) }).setStaker restaked
    else
      (store.setValidator { val with
        delegatedStake := val.delegatedStake + amount }).setStaker restaked
  | none =>
    (store.setValidator { val with delegatedStake := val.delegatedStake + amount }).setStaker
      ⟨address, evmAddr, shares, amount, validatorAddr⟩

def stake (address : String) (amount : UInt64) (validatorAddr : String) :
    Attempt Store String UInt64 := do
  requireNotPaused
  ensure (¬amount < MinStakeUAETH) s!"amount {amount} below minimum stake {MinStakeUAETH}"
  ensure (validatorAddr ≠ "")
    "validatorAddr is required: delegation is mandatory for reward weighting"
  let store ← read
  let val ← okOr (store.validators.lookup validatorAddr) s!"validator {validatorAddr} not found"
  ensure (val.isActive = true) s!"validator {validatorAddr} is not active"
  let epochStake := store.stakePerEpoch.get store.currentEpoch 0 + amount
  ensure (¬epochStake > MaxStakePerEpochUAETH) "epoch rate limit exceeded"
  modify fun store =>
    { store with stakePerEpoch := store.stakePerEpoch.insert store.currentEpoch epochStake }
  let shares := mintedShares store.totalPooledAethel store.totalShares amount
  ensure (shares ≠ 0) "computed shares is zero"
  modify fun store =>
    { store with
      totalPooledAethel := store.totalPooledAethel + amount
      totalShares := store.totalShares + shares }
  let evmAddr ← okOr (resolveEvmAddress deployment address)
    "resolve EVM address for staker: cannot resolve address "
  modify (recordStake address evmAddr amount shares validatorAddr val)
  return shares

def delegateStake (stakerAddr validatorAddr : String) : Attempt Store String Unit := do
  requireNotPaused
  ensure (validatorAddr ≠ "") "validatorAddr is required: delegation cannot be empty"
  let store ← read
  let staker ← okOr (store.stakers.lookup stakerAddr) s!"staker not found: {stakerAddr}"
  let val ← okOr (store.validators.lookup validatorAddr) s!"validator {validatorAddr} not found"
  ensure (val.isActive = true) s!"validator {validatorAddr} is not active"
  modify fun store =>
    if staker.delegatedTo ≠ validatorAddr then
      let released :=
        if staker.delegatedTo ≠ "" then store.releaseStake staker.delegatedTo staker.stakedAmount
        else store
      released.setValidator { val with
        delegatedStake := val.delegatedStake + staker.stakedAmount }
    else store
  modify fun store => store.setStaker { staker with delegatedTo := validatorAddr }

end Stake

/-- What shares are worth, in 64 bits. -/
def bookedAmount (totalPooled totalShares shares : UInt64) : UInt64 :=
  if totalShares > 0 then shares * totalPooled / totalShares else 0

/-- The part of the staked amount that goes with the shares. -/
def stakedReduction (staker : StakerRecord) (shares : UInt64) : UInt64 :=
  let reduction := shares * staker.stakedAmount / staker.shares
  if reduction > staker.stakedAmount then staker.stakedAmount else reduction

/-- The staker's record and the stake delegated to the validator, less the shares. -/
def recordUnstake (staker : StakerRecord) (shares : UInt64) (store : Store) : Store :=
  if staker.delegatedTo ≠ "" ∧ staker.shares > 0 then
    (store.releaseStake staker.delegatedTo (stakedReduction staker shares)).setStaker { staker with
      stakedAmount := staker.stakedAmount - stakedReduction staker shares
      shares := staker.shares - shares }
  else store.setStaker { staker with shares := staker.shares - shares }

def unstake (blockTime : Instant) (address : String) (shares : UInt64) :
    Attempt Store String (UInt64 × UInt64) := do
  requireNotPaused
  let store ← read
  let staker ← okOr (store.stakers.lookup address) s!"staker not found: {address}"
  ensure (¬staker.shares < shares) s!"insufficient shares: have {staker.shares}, want {shares}"
  let userIDs := store.userWithdrawals.get address []
  ensure (¬userIDs.length ≥ MaxWithdrawalRequestsPerUser)
    s!"too many withdrawal requests for {address}"
  let aethelAmount := bookedAmount store.totalPooledAethel store.totalShares shares
  ensure (aethelAmount ≠ 0) "computed aethel amount is zero"
  modify (recordUnstake staker shares)
  modify fun store =>
    { store with
      totalPooledAethel := store.totalPooledAethel - aethelAmount
      totalShares := store.totalShares - shares
      totalPendingWithdrawals := store.totalPendingWithdrawals + aethelAmount
      nextWithdrawalID := store.nextWithdrawalID + 1 }
  let withdrawalID := store.nextWithdrawalID
  let completionTime := blockTime.nanos + UnbondingPeriod
  ensure (completionTime < yearTenThousand) "Time.MarshalJSON: year outside of range [0,9999]"
  modify fun store =>
    store.setWithdrawal ⟨withdrawalID, address, shares, aethelAmount, completionTime, false⟩
  modify fun store =>
    { store with
      userWithdrawals := store.userWithdrawals.insert address (userIDs ++ [withdrawalID])
      epochUnstakeAccum := store.epochUnstakeAccum.update store.currentEpoch 0 (· + aethelAmount) }
  modify checkCircuitBreaker
  return (withdrawalID, aethelAmount)

def withdraw (blockTime : Instant) (address : String) (withdrawalID : UInt64) :
    Attempt Store String UInt64 := do
  requireNotPaused
  let store ← read
  let req ← okOr (store.withdrawals.lookup withdrawalID) s!"withdrawal {withdrawalID} not found"
  ensure (req.owner = address) s!"withdrawal {withdrawalID} not owned by {address}"
  ensure (req.claimed = false) s!"withdrawal {withdrawalID} already claimed"
  ensure (¬blockTime.nanos < req.completionTime) s!"withdrawal {withdrawalID} not ready until "
  modify fun store => store.setWithdrawal { req with claimed := true }
  modify fun store =>
    { store with totalPendingWithdrawals := store.totalPendingWithdrawals - req.aethelAmount }
  return req.aethelAmount

section Validators

variable (deployment : Deployment)

/-- What `computeSelectionPolicyHash` hashes for the weights 0.4, 0.3 and 0.3, an uptime of 95 per
cent, no limit by region and three validators of an operator. -/
def selectionPolicyPreimage : List UInt8 :=
  "CruzibleSelectionPolicy-v1".toUTF8.toList ++
    bigEndian 8 0x3FD999999999999A ++ bigEndian 8 0x3FD3333333333333 ++
    bigEndian 8 0x3FD3333333333333 ++ bigEndian 8 0x4057C00000000000 ++
    bigEndian 32 MaxCommissionBPS.toNat ++ bigEndian 32 0 ++ bigEndian 32 3 ++
    bigEndian 32 MinStakeUAETH.toNat

/-- What `computeEligibleUniverseHash` hashes. -/
def universePreimage (sortedAddrs : List String) : List UInt8 :=
  sortedAddrs.flatMap fun addr => addr.toUTF8.toList ++ [0]

def selectionPayload (epoch : UInt64) (validators : List ValidatorRecord)
    (eligibleAddrs : List String) : List UInt8 :=
  List.ofFn (Keeper.computeValidatorSetHash deployment.sha256 epoch validators) ++
    List.ofFn (deployment.sha256 selectionPolicyPreimage) ++
    List.ofFn (deployment.sha256 (universePreimage eligibleAddrs))

def selectionPayloadHash (epoch : UInt64) (validators : List ValidatorRecord)
    (eligibleAddrs : List String) : String :=
  Hex.encodeToString (List.ofFn
    (deployment.sha256 (selectionPayload deployment epoch validators eligibleAddrs)))

def firstDuplicate (seen : List String) : List String → Option String
  | [] => none
  | address :: rest =>
    if address ∈ seen then some address else firstDuplicate (address :: seen) rest

def persistValidators (validators : List ValidatorRecord) (store : Store) : Store :=
  { validators.foldl (fun store v => store.setValidator { v with isActive := true }) store with
    activeValidators := validators.map (·.address) }

/-- `eligibleAddrs` are the validators that the telemetry in the store makes eligible. -/
def applyValidatorSelection (blockTime : Instant) (eligibleAddrs : List String)
    (validators : List ValidatorRecord) (attestation : TEEAttestation) (epoch : UInt64) :
    Attempt Store String Unit := do
  requireNotPaused
  ensure (validators ≠ []) "empty validator set"
  within registry (fun store registry => { store with registry }) fun registry =>
    match verifyAttestation deployment.crypto (I64.ofInt blockTime.unix) attestation registry with
    | (outcome, registry) =>
      (outcome.mapError ("attestation verification failed: " ++ ·), registry)
  let expected := selectionPayloadHash deployment epoch validators eligibleAddrs
  ensure (attestation.payloadHash = expected)
    (s!"payload hash mismatch: attestation covers {attestation.payloadHash} but epoch-bound " ++
      s!"validators+policy+universe hash to {expected} (universe or policy may be unauthorized)")
  match firstDuplicate [] (validators.map (·.address)) with
  | some address => fail s!"duplicate validator address in attested set: {address}"
  | none => pure ()
  modify (persistValidators validators)

def slashValidator (validatorAddr : String) : Attempt Store String Unit := do
  requireNotPaused
  let store ← read
  let v ← okOr ((store.validators.lookup validatorAddr).filter (·.isActive))
    s!"validator {validatorAddr} not active"
  modify fun store =>
    store.setValidator { v with isActive := false, slashCount := v.slashCount + 1 }
  modify fun store =>
    { store with
      activeValidators := store.activeValidators.erase validatorAddr
      epochSlashCount := store.epochSlashCount.update store.currentEpoch 0 (· + 1) }
  modify checkCircuitBreaker

def entryAddress (staker : StakerRecord) : Except String String :=
  if staker.evmAddress = "" then
    match resolveEvmAddress deployment staker.address with
    | some resolved => .ok (deployment.toLower resolved)
    | none => .error s!"resolve EVM address for staker {staker.address}: cannot resolve address "
  else .ok (deployment.toLower staker.evmAddress)

/-- Records without shares are passed over. -/
def collectFrom (seen : List String) : List StakerRecord → Except String (List StakerStakeEntry)
  | [] => .ok []
  | s :: rest =>
    if s.shares = 0 then collectFrom seen rest
    else
      match entryAddress deployment s with
      | .error reason => .error reason
      | .ok evmAddr =>
        if evmAddr ∈ seen then
          .error s!"duplicate staker EVM address in store: {evmAddr} (from {s.address})"
        else
          (collectFrom (evmAddr :: seen) rest).map
            (⟨evmAddr, s.shares, deployment.toLower s.delegatedTo⟩ :: ·)

/-- The stakers in the order of their keys, as `Walk` visits them. -/
def walkStakers (store : Store) : List StakerRecord :=
  (store.stakers.keys.mergeSort fun first second => decide (first ≤ second)).filterMap
    store.stakers.lookup

def collectStakerEntries (store : Store) : Except String (List StakerStakeEntry) :=
  collectFrom deployment [] store.walkStakers

def checkDelegations (store : Store) : List StakerStakeEntry → Except String Unit
  | [] => .ok ()
  | entry :: rest =>
    if entry.delegatedTo = "" then
      .error (s!"staker {entry.address} has empty delegation target: " ++
        "delegation is mandatory for reward weighting")
    else if (store.validators.lookup entry.delegatedTo).isNone then
      .error (s!"staker {entry.address} delegates to unknown validator {entry.delegatedTo}: " ++
        "delegation target must be a registered validator")
    else checkDelegations store rest

def snapshotDelegationState : Attempt Store String Unit := do
  let store ← read
  ensure (store.delegationSnapshots.lookup store.currentEpoch).isNone
    s!"delegation snapshot already exists for epoch {store.currentEpoch}"
  let entries ← ofExcept
    ((collectStakerEntries deployment store).mapError ("snapshot delegation state: " ++ ·))
  ofExcept (checkDelegations store entries)
  modify fun store =>
    { store with
      delegationSnapshots := store.delegationSnapshots.insert store.currentEpoch entries }

variable (caller : String)

def requireAuthority : Attempt Store String Unit :=
  ensure (caller = deployment.authority)
    (s!"unauthorized: caller is not the module authority: {caller} is not authority " ++
      deployment.authority)

def pauseVault (caller reason : String) : Attempt Store String Unit := do
  requireAuthority deployment caller
  let store ← read
  ensure (store.paused = false) s!"vault is already paused (reason: {store.pauseReason})"
  modify fun store => { store with paused := true, pauseReason := reason }

def unpauseVault : Attempt Store String Unit := do
  requireAuthority deployment caller
  let store ← read
  ensure (store.paused = true) "vault is not paused"
  modify fun store => { store with paused := false, pauseReason := "" }

def updateCircuitBreakerConfig (cfg : CircuitBreakerConfig) : Attempt Store String Unit := do
  requireAuthority deployment caller
  ensure (¬cfg.maxUnstakePerEpochPct > 100)
    s!"max_unstake_per_epoch_pct must be <= 100, got {cfg.maxUnstakePerEpochPct}"
  modify fun store => { store with circuitBreaker := cfg }

end Validators

end Store

end Vault
