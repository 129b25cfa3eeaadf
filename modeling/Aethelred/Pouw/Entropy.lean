import Aethelred.Pouw.ValidatorPool

/- The entropy an assignment is drawn from: a public pulse, a threshold beacon, or what the
block itself gives. -/
namespace Aethelred.Pouw

open Go

structure SchedulerConfig where
  maxJobsPerBlock : Int
  jobTimeoutBlocks : Int
  minValidatorsRequired : Int
  validatorsPerJob : Int := 0
  requireExecutionWorkers : Bool := false
  executionWorkersPerJob : Int := 0
  priorityBoostPerBlock : Int
  maxRetries : Int
  requirePublicDrandPulse : Bool := false
  allowDKGBeaconFallback : Bool := true
  allowLegacyEntropyFallback : Bool := true
  /-- Whether a provider of pulses is configured. -/
  drandPulseProvider : Bool := false
  enterpriseMode : Bool := false

def SchedulerConfig.default : SchedulerConfig where
  maxJobsPerBlock := 10
  jobTimeoutBlocks := 100
  minValidatorsRequired := 3
  priorityBoostPerBlock := 1
  maxRetries := 3

namespace SchedulerConfig

variable (c : SchedulerConfig)

def requiredValidators : Int :=
  if c.validatorsPerJob > 0 then c.validatorsPerJob
  else if c.minValidatorsRequired > 0 then c.minValidatorsRequired
  else 1

def requiredWorkers : Int :=
  if c.executionWorkersPerJob > 0 then c.executionWorkersPerJob
  else if c.requireExecutionWorkers then 1
  else 0

theorem requiredValidators_pos : 0 < c.requiredValidators := by
  unfold requiredValidators
  split
  · omega
  · split <;> omega

end SchedulerConfig

structure BeaconPayload where
  round : Nat
  randomness : Bytes
  signature : Bytes
  scheme : String := ""

structure ProvidedPulse extends BeaconPayload where
  source : String := ""

/-- The context of a scheduling call: the block, the values attached to the context, and what
the configured provider answers. -/
structure SchedulingContext where
  sdk : SDKContext
  drandPulse : Option BeaconPayload := none
  dkgBeacon : Option BeaconPayload := none
  latestPulse : Option ProvidedPulse := none

inductive EntropyError where
  | invalidRound
  | randomnessLength (got : Nat)
  | signatureLength (got : Nat)
  | missingDrandPulse
  | dkgFallbackDisabled
  | missingBeacon
deriving DecidableEq

structure EntropyMeta where
  source : String
  beaconVersion : String
  beaconRound : Nat := 0
  beaconRandomness : String := ""
  beaconSigHash : String := ""

def drandBeaconSchemeV1 : String := "drand-public-v1"
def thresholdBeaconSchemeV1 : String := "dkg-threshold-bls-v1"
def legacySource : String := "legacy-context-fallback"

def checkPayload (defaultScheme : String) (p : BeaconPayload) : Except EntropyError BeaconPayload := do
  if p.round = 0 then throw .invalidRound
  if p.randomness.length ≠ 32 then throw (.randomnessLength p.randomness.length)
  if p.signature.length < 48 then throw (.signatureLength p.signature.length)
  return { p with scheme := if p.scheme = "" then defaultScheme else p.scheme }

variable (crypto : Crypto)

def entropyFromBeaconPayload (p : BeaconPayload) (source : String) : Bytes × EntropyMeta :=
  (crypto.sha256 (utf8 vrfAssignmentVersion ++ utf8 p.scheme ++ utf8 source ++
      utf8 (Strconv.formatUint p.round) ++ p.randomness ++ p.signature),
    { source := source
      beaconVersion := p.scheme
      beaconRound := p.round
      beaconRandomness := Hex.encodeToString p.randomness
      beaconSigHash := Hex.encodeToString (crypto.sha256 p.signature) })

def legacyEntropy (ctx : SDKContext) (blockHeight : Int) : Bytes × EntropyMeta :=
  (crypto.sha256 (utf8 vrfAssignmentVersion ++ utf8 (Strconv.formatInt blockHeight) ++
      utf8 ctx.chainID ++ utf8 ctx.blockTime.rfc3339Nano ++ ctx.headerHash),
    { source := legacySource, beaconVersion := "legacy-context-v1" })

def fallbackEntropy (ctx : SchedulingContext) (blockHeight : Int)
    (cfg : SchedulerConfig) : Except EntropyError (Bytes × EntropyMeta) := do
  match ctx.dkgBeacon with
  | some payload =>
    let payload ← checkPayload thresholdBeaconSchemeV1 payload
    if !cfg.allowDKGBeaconFallback then throw .dkgFallbackDisabled
    return entropyFromBeaconPayload crypto payload "dkg-threshold-beacon"
  | none =>
    if !cfg.allowLegacyEntropyFallback then throw .missingBeacon
    return legacyEntropy crypto ctx.sdk blockHeight

def assignmentEntropyFromContext (ctx : SchedulingContext) (blockHeight : Int)
    (cfg : SchedulerConfig) : Except EntropyError (Bytes × EntropyMeta) := do
  match ctx.drandPulse with
  | some pulse =>
    let pulse ← checkPayload drandBeaconSchemeV1 pulse
    return entropyFromBeaconPayload crypto pulse "drand-public"
  | none =>
    match if cfg.drandPulseProvider then ctx.latestPulse else none with
    | some pulse =>
      let payload := { pulse.toBeaconPayload with
        scheme := if pulse.scheme = "" then drandBeaconSchemeV1 else pulse.scheme }
      return entropyFromBeaconPayload crypto payload
        (if pulse.source = "" then "drand-public" else pulse.source)
    | none =>
      if cfg.requirePublicDrandPulse then throw .missingDrandPulse
      fallbackEntropy crypto ctx blockHeight cfg

end Aethelred.Pouw
