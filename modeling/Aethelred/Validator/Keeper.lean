import Aethelred.Go.MapSum
import Aethelred.Go.Strings
import Aethelred.Lib.Result
import Mathlib.Data.String.Basic

/- The active validator set (`x/validator/keeper`): registered capabilities, heartbeats, and
slashing. A stored collection is walked in the order of its keys. -/
namespace Validator

open Go Attempt

structure CapabilityStatus where
  online : Bool := false
  lastHeartbeat : Option Int := none
  currentJobs : Int := 0
  reputationScore : Int := 0

structure ComputeResources where
  maxConcurrentJobs : Int := 0

structure NetworkInfo where
  region : String

structure HardwareCapability where
  validatorAddress : String
  operatorAddress : String := ""
  compute : Option ComputeResources := none
  network : Option NetworkInfo := none
  status : Option CapabilityStatus := none

structure SlashingRecord where
  validatorAddress : String
  height : Int
  reason : String
  slashFraction : String
  jailed : Bool
  timestamp : Int
  jobId : String
  deriving DecidableEq

/-- The context of a call: block time and height, and the clock of the machine in nanoseconds. -/
structure Block where
  unix : Int
  height : Int
  now : Int

structure Libraries where
  valAddressFromBech32 : String → Except String (List UInt8)
  valAddress_empty : valAddressFromBech32 "" = .error "empty address string is not allowed"
  /-- `unicode.ToLower`. -/
  toLowerRune : Char → Char
  /-- A score times a fraction, in floating point, as an integer. -/
  reputationPenalty : Int → String → Int

/-- The collections of the module. The slashes are a record of the successful calls, which the
program does not keep. -/
structure Keeper where
  hardwareCapabilities : Map String HardwareCapability := ∅
  slashingRecords : Map String SlashingRecord := ∅
  tombstonedValidators : List String := []
  validatorJailUntil : Map String Int := ∅
  slashes : List SlashingRecord := []

def MaxActiveValidators : Nat := 100

def ZoneCapBps : Nat := 3300

namespace HardwareCapability

variable (hc : HardwareCapability)

def new (validatorAddr operatorAddr : String) : HardwareCapability where
  validatorAddress := validatorAddr
  operatorAddress := operatorAddr
  compute := some {}
  status := some { reputationScore := 50 }

def validate (libraries : Libraries) : Except String Unit :=
  match libraries.valAddressFromBech32 hc.validatorAddress, hc.validatorAddress with
  | .error _, "" => .error "validator address cannot be empty"
  | _, _ =>
    if hc.compute.any fun compute => decide (compute.maxConcurrentJobs < 0) then
      .error "max concurrent jobs cannot be negative"
    else .ok ()

def online : Bool := hc.status.any CapabilityStatus.online

def updateStatus (now : Int) (online : Bool) (currentJobs : Int) : HardwareCapability :=
  { hc with status := some { hc.status.getD {} with
      online, currentJobs := Int.bmod currentJobs (2 ^ 32), lastHeartbeat := some now } }

end HardwareCapability

def normalizeRegion (libraries : Libraries) (region : String) : String :=
  String.ofList ((Strings.trimSpace region).toList.map libraries.toLowerRune)

/-- The region that a capability counts for, none if empty. -/
def HardwareCapability.region (libraries : Libraries) (hc : HardwareCapability) : String :=
  match hc.network with
  | some network => normalizeRegion libraries network.region
  | none => ""

namespace Keeper

abbrev Call := Attempt Keeper String

variable (libraries : Libraries) (block : Block) (k : Keeper) (addr : String)

def setCapability (capability : HardwareCapability) : Keeper :=
  { k with hardwareCapabilities := k.hardwareCapabilities.insert addr capability }

def removeCapability : Keeper :=
  { k with hardwareCapabilities := k.hardwareCapabilities.erase addr }

def setJailUntil (jailedUntil : Int) : Keeper :=
  { k with validatorJailUntil := k.validatorJailUntil.insert addr jailedUntil }

def removeJailUntil : Keeper :=
  { k with validatorJailUntil := k.validatorJailUntil.erase addr }

def setTombstoned : Keeper :=
  { k with tombstonedValidators := k.tombstonedValidators.insert addr }

def walk {ν : Type} (collection : Map String ν) : List (String × ν) :=
  (collection.keys.insertionSort (· ≤ ·)).filterMap fun key =>
    (collection.lookup key).map (key, ·)

variable (validatorAddr : String)

def getHardwareCapability : Call HardwareCapability := do
  let k ← read
  okOr (k.hardwareCapabilities.lookup validatorAddr)
    s!"hardware capability not found for {validatorAddr}"

def countActive (excludeAddr : String) (counts : Nat × Map String Nat)
    (entry : String × HardwareCapability) : Nat × Map String Nat :=
  if entry.1 = excludeAddr ∨ entry.2.online = false then counts
  else
    (counts.1 + 1,
      if entry.2.region libraries ≠ "" then counts.2.update (entry.2.region libraries) 0 (· + 1)
      else counts.2)

def countActiveValidatorsByRegion (excludeAddr : String) : Nat × Map String Nat :=
  (walk k.hardwareCapabilities).foldl (countActive libraries excludeAddr) (0, ∅)

def allowedInZone (active : Nat) : Nat :=
  if active * ZoneCapBps / 10000 < 1 then 1 else active * ZoneCapBps / 10000

variable (capability : HardwareCapability)

def enforceValidatorSetConstraints : Except String Unit :=
  if capability.online = false then .ok ()
  else
    let counts := countActiveValidatorsByRegion libraries k capability.validatorAddress
    let projectedActive := counts.1 + 1
    let targetRegion := capability.region libraries
    let projectedRegion := counts.2.get targetRegion 0 + 1
    let percent := ZoneCapBps / 100
    if MaxActiveValidators < projectedActive then
      .error s!"active validator cap reached ({MaxActiveValidators}). validator queued"
    else if targetRegion = "" then .ok ()
    else if allowedInZone projectedActive < projectedRegion then
      .error (s!"region {targetRegion} exceeds {percent}% zone cap " ++
        s!"({projectedRegion}/{projectedActive} active validators). validator queued")
    else .ok ()

variable (order : RangeOrder String)

def validateActiveValidatorSetInvariants (k : Keeper) : Except String Unit :=
  let counts := countActiveValidatorsByRegion libraries k ""
  let totalActive := counts.1
  let percent := ZoneCapBps / 100
  let allowed := if totalActive * ZoneCapBps / 10000 < 1 ∧ 0 < totalActive then 1
    else totalActive * ZoneCapBps / 10000
  if MaxActiveValidators < totalActive then
    .error s!"active validator cap exceeded ({totalActive} > {MaxActiveValidators})"
  else
    match (order.order counts.2.keys).find? fun region => decide (allowed < counts.2.get region 0) with
    | some region =>
      let count := counts.2.get region 0
      .error (s!"region {region} exceeds {percent}% zone cap " ++
        s!"({count}/{totalActive} active validators)")
    | none => .ok ()

def serveJail : Call Unit := do
  let k ← read
  let addr := capability.validatorAddress
  match k.validatorJailUntil.lookup addr with
  | some jailedUntil =>
    if capability.online then
      ensure (jailedUntil ≤ block.unix) s!"validator {addr} is temporarily jailed until {jailedUntil}"
      modify fun k => k.removeJailUntil addr
  | none => return ()

def storeCapability (capability : HardwareCapability) : Call Unit := do
  let k ← read
  let addr := capability.validatorAddress
  let previousCap := k.hardwareCapabilities.lookup addr
  modify fun k => k.setCapability addr capability
  match validateActiveValidatorSetInvariants libraries order (k.setCapability addr capability) with
  | .ok () => return ()
  | .error reason =>
    modify fun k => match previousCap with
      | some previousCap => k.setCapability addr previousCap
      | none => k.removeCapability addr
    fail s!"post-write validator set invariant check failed: {reason}"

def registerHardwareCapability (capability : Option HardwareCapability) : Call Unit := do
  let capability ← okOr capability
    "invalid hardware capability: hardware capability cannot be nil"
  ofExcept ((capability.validate libraries).mapError ("invalid hardware capability: " ++ ·))
  let k ← read
  let addr := capability.validatorAddress
  ensure (addr ∉ k.tombstonedValidators) s!"validator {addr} is permanently tombstoned"
  serveJail block capability
  ofExcept (enforceValidatorSetConstraints libraries k capability)
  storeCapability libraries order capability

def updateValidatorStatus (online : Bool) (currentJobs : Int) :
    Call Unit := do
  let capability ← getHardwareCapability validatorAddr
  modify fun k => k.setCapability validatorAddr (capability.updateStatus block.now online currentJobs)

def heartbeatCapability : HardwareCapability :=
  let capability := (k.hardwareCapabilities.lookup validatorAddr).getD (.new validatorAddr "")
  { capability with status := some { capability.status.getD {} with
      lastHeartbeat := some block.now, online := true } }

def recordHeartbeat : Call Unit :=
  modify fun k => k.setCapability validatorAddr (k.heartbeatCapability block validatorAddr)

def setOffline : HardwareCapability :=
  { capability with status := some { capability.status.getD {} with online := false } }

def markValidatorOffline : Call Unit := do
  let capability ← getHardwareCapability validatorAddr
  modify fun k => k.setCapability validatorAddr (setOffline capability)

/-- `now.Sub(last)`, which stops at the ends of a duration. -/
def durationSince (now last : Int) : Int := max (-2 ^ 63) (min (2 ^ 63 - 1) (now - last))

/-- The zero time, in nanoseconds of the Unix clock. -/
def zeroTime : Int := -62135596800 * 1000000000

def timedOut (timeout : Int) (capability : HardwareCapability) : Bool :=
  capability.online &&
    ((capability.status.bind CapabilityStatus.lastHeartbeat).any fun last =>
      decide (last ≠ zeroTime) && decide (timeout < durationSince block.now last))

def checkInactiveValidators (timeout : Int) : Call Unit :=
  modify fun k => { k with
    hardwareCapabilities := k.hardwareCapabilities.mapValues fun capability =>
      if timedOut block timeout capability then setOffline capability else capability }

/-- The share of the stake that a condition costs. -/
def slashingFractions : String → Option String
  | "invalid_output" => some "1.00"
  | "fake_attestation" => some "1.00"
  | "invalid_proof" => some "0.10"
  | "double_sign" => some "0.50"
  | "downtime" => some "0.05"
  | "collusion" => some "1.00"
  | _ => none

def jailableConditions (condition : String) : Bool :=
  condition ∈ ["invalid_output", "fake_attestation", "double_sign", "downtime", "collusion"]

def tombstoneConditions (condition : String) : Bool :=
  condition ∈ ["invalid_output", "fake_attestation", "collusion"]

/-- The staking keeper as it answers during a call. A validator need not give its consensus
address. -/
structure StakingKeeper where
  getValidator : List UInt8 → Except String (Option (Except String (List UInt8)))
  slash : List UInt8 → String → Except String Unit
  jail : List UInt8 → Except String Unit

def applyEconomicPenalty (stakingKeeper : Option StakingKeeper) (validatorAddr fraction : String)
    (shouldJail : Bool) : Except String Unit :=
  match stakingKeeper with
  | none => .ok ()
  | some staking => do
      let failed := s!"cannot apply staking penalty for validator {validatorAddr}: "
      let valAddr ← (libraries.valAddressFromBech32 validatorAddr).mapError
        (failed ++ "invalid operator address: " ++ ·)
      let validator ← (staking.getValidator valAddr).mapError (failed ++ ·)
      match validator with
      | none => .error (failed ++ "validator does not expose consensus address")
      | some provided => do
          let consAddr ← provided.mapError (failed ++ "failed to resolve consensus address: " ++ ·)
          (staking.slash consAddr fraction).mapError (failed ++ "slash failed: " ++ ·)
          if shouldJail then
            (staking.jail consAddr).mapError
              (s!"cannot jail validator {validatorAddr} after slash: " ++ ·)

def recordKey (height : Int) : String :=
  validatorAddr ++ ":" ++ Strconv.formatInt height

def setRecord (record : SlashingRecord) : Keeper :=
  { k with
    slashingRecords := k.slashingRecords.insert (recordKey record.validatorAddress record.height) record
    slashes := k.slashes ++ [record] }

def penalize (fraction : String) (shouldJail : Bool) : HardwareCapability :=
  let status := capability.status.getD {}
  let score := Int64.wrap
    (status.reputationScore - libraries.reputationPenalty status.reputationScore fraction)
  { capability with status := some { status with
      reputationScore := if score < 0 then 0 else score
      online := if shouldJail then false else status.online } }

def penalizeCapability (validatorAddr fraction : String) (shouldJail : Bool) : Keeper :=
  match k.hardwareCapabilities.lookup validatorAddr with
  | some capability => k.setCapability validatorAddr (penalize libraries capability fraction shouldJail)
  | none => k

def confine (validatorAddr condition : String) : Keeper :=
  let k := if condition = "downtime" then k.setJailUntil validatorAddr (block.unix + 3600) else k
  if tombstoneConditions condition then
    (k.setTombstoned validatorAddr).removeJailUntil validatorAddr
  else k

def slashValidator (stakingKeeper : Option StakingKeeper) (validatorAddr condition jobID : String) :
    Call Unit := do
  let k ← read
  ensure (validatorAddr ∉ k.tombstonedValidators)
    s!"validator {validatorAddr} is permanently tombstoned"
  let fraction ← okOr (slashingFractions condition) s!"unknown slashing condition: {condition}"
  let shouldJail := jailableConditions condition
  ofExcept (applyEconomicPenalty libraries stakingKeeper validatorAddr fraction shouldJail)
  modify fun k => k.setRecord
    { validatorAddress := validatorAddr
      height := block.height
      reason := condition
      slashFraction := fraction
      jailed := shouldJail
      timestamp := block.now
      jobId := jobID }
  modify fun k => k.penalizeCapability libraries validatorAddr fraction shouldJail
  modify fun k => k.confine block validatorAddr condition

def getSlashingRecords : List SlashingRecord :=
  ((walk k.slashingRecords).map Prod.snd).filter fun record =>
    decide (record.validatorAddress = validatorAddr)

end Keeper

/-- A call, with the answers of the staking keeper and the order of the regions. -/
inductive Call where
  | registerHardwareCapability (order : RangeOrder String) (capability : Option HardwareCapability)
  | updateValidatorStatus (validatorAddr : String) (online : Bool) (currentJobs : Int)
  | recordHeartbeat (validatorAddr : String)
  | markValidatorOffline (validatorAddr : String)
  | checkInactiveValidators (timeout : Int)
  | slashValidator (stakingKeeper : Option Keeper.StakingKeeper)
      (validatorAddr condition jobID : String)

/-- The keeper at the last block. -/
structure Chain where
  keeper : Keeper
  block : Block

namespace Chain

variable (libraries : Libraries)

def run (block : Block) : Validator.Call → Keeper.Call Unit
  | .registerHardwareCapability order capability =>
    Keeper.registerHardwareCapability libraries block order capability
  | .updateValidatorStatus validatorAddr online currentJobs =>
    Keeper.updateValidatorStatus block validatorAddr online currentJobs
  | .recordHeartbeat validatorAddr => Keeper.recordHeartbeat block validatorAddr
  | .markValidatorOffline validatorAddr => Keeper.markValidatorOffline validatorAddr
  | .checkInactiveValidators timeout => Keeper.checkInactiveValidators block timeout
  | .slashValidator stakingKeeper validatorAddr condition jobID =>
    Keeper.slashValidator libraries block stakingKeeper validatorAddr condition jobID

def step (chain : Chain) (call : Block × Validator.Call) : Chain :=
  { keeper := (run libraries call.1 call.2 chain.keeper).2, block := call.1 }

end Chain

end Validator
