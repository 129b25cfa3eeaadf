import Aethelred.Lib.Bytes
import Aethelred.Vm.Types

/- Jobs and the proofs submitted for them (`job_registry.rs`, `types.rs`): the checks a proof has to
pass. What the two verification precompiles answer is left open. -/
namespace Vm

open Go Attempt Bytes

inductive TeeType
  | IntelSgx | AwsNitro | AmdSev
  deriving DecidableEq

def TeeType.platformByte : TeeType → UInt8
  | .AwsNitro => 0x01
  | .IntelSgx => 0x02
  | .AmdSev => 0x04

structure TeeAttestation where
  teeType : TeeType
  attestation : List UInt8
  measurement : Hash
  timestamp : Nat

inductive ZkSystem
  | Groth16 | Plonk | Stark | Ezkl | Halo2
  deriving DecidableEq

structure ZkProof where
  system : ZkSystem
  proof : List UInt8
  publicInputs : List Hash
  vkHash : Hash

structure Proof where
  method : VerificationMethod
  teeAttestation : Option TeeAttestation
  zkProof : Option ZkProof
  outputHash : Hash

def Proof.isEnterpriseCompliant (proof : Proof) : Bool :=
  proof.method = .Hybrid && proof.teeAttestation.isSome && proof.zkProof.isSome

structure EnterpriseModeConfig where
  enabled : Bool := true
  requireRegisteredCircuit : Bool := true
  requireDomainBinding : Bool := true

structure JobConfig where
  minBid : Nat
  maxBid : Nat
  defaultSlaTimeout : Nat
  minSlaTimeout : Nat
  maxSlaTimeout : Nat
  cancellationFeeBps : Nat
  lateGracePeriod : Nat
  latePenaltyBps : Nat
  maxJobsPerRequester : Nat
  maxActiveJobs : Nat
  enterpriseMode : Bool
  requireCryptographicVerification : Bool

def JobConfig.devnet : JobConfig where
  minBid := 0
  maxBid := MAX_U128
  defaultSlaTimeout := 120
  minSlaTimeout := 10
  maxSlaTimeout := 3600
  cancellationFeeBps := 0
  lateGracePeriod := 10
  latePenaltyBps := 0
  maxJobsPerRequester := 2 ^ 32 - 1
  maxActiveJobs := MAX_U64
  enterpriseMode := false
  requireCryptographicVerification := false

def JobConfig.validate (config : JobConfig) : Except SystemContractError Unit :=
  if config.minSlaTimeout ≥ config.maxSlaTimeout then
    .error (.InvalidConfig "min_sla_timeout must be < max_sla_timeout")
  else if config.cancellationFeeBps > 10000 then
    .error (.InvalidConfig "cancellation_fee_bps must be <= 10000")
  else .ok ()

structure SlaPolicy where
  deadline : Nat
  graceEnd : Nat
  latePenaltyBps : Nat
  deriving DecidableEq

structure JobState where
  jobId : JobId
  requester : Address
  assignedProver : Option Address := none
  status : JobStatus := .Submitted
  bidAmount : Nat
  modelHash : Hash
  inputHash : Hash
  outputHash : Option Hash := none
  verificationMethod : VerificationMethod
  sla : SlaPolicy
  submittedAt : Nat
  assignedAt : Option Nat := none
  proofSubmittedAt : Option Nat := none
  verifiedAt : Option Nat := none
  settledAt : Option Nat := none
  result : Option (List UInt8) := none
  deriving DecidableEq

structure JobRegistry where
  config : JobConfig
  jobs : Map JobId JobState := ∅
  jobsByRequester : Map Address (List JobId) := ∅
  jobsByProver : Map Address (List JobId) := ∅
  jobsByDeadline : Map Nat (List JobId) := ∅
  activeJobs : Nat := 0
  totalJobs : Nat := 0
  jobNonces : Map Address Nat := ∅
  /-- Hashes of the attestations verified so far. -/
  seenAttestationHashes : List Hash := []
  enterpriseMode : Bool := false
  enterpriseZkmlConfig : EnterpriseModeConfig := { enabled := false }
  registeredCircuits : List Hash := []

/-- What a run of the attestation precompile ends with. -/
inductive TeeOutcome
  | success | rejected | error (text : String) | panicked
  deriving DecidableEq

/-- The hash, the precompiles and the features the crate is built with. -/
structure Platform where
  sha256 : List UInt8 → Hash
  /-- `UniversalTeeVerifyPrecompile`, with its enterprise policy or without. -/
  teePrecompile : Bool → List UInt8 → TeeOutcome
  /-- `UnifiedZkpVerifyPrecompile`: whether its output ends in one, or its error. -/
  zkpPrecompile : List UInt8 → Except String Bool
  sgx : Bool
  zkp : Bool

namespace JobRegistry

abbrev Call := Attempt JobRegistry SystemContractError

variable (platform : Platform) (registry : JobRegistry)

def requiresCryptographicVerification : Bool :=
  registry.enterpriseMode || registry.config.requireCryptographicVerification

/-- `{:?}` of bytes. -/
def debugBytes (bytes : List UInt8) : String :=
  "[" ++ ", ".intercalate (bytes.map fun byte => toString byte.toNat) ++ "]"

def measurementMismatch (expected got : Hash) : String :=
  "Measurement mismatch: expected " ++ debugBytes ((bigEndian 32 expected).take 4) ++
    ", got " ++ debugBytes ((bigEndian 32 got).take 4)

def teeObjection : TeeOutcome → Option String
  | .success => none
  | .rejected =>
    if platform.sgx then some "TEE precompile rejected attestation"
    else if registry.requiresCryptographicVerification then
      some "TEE precompile rejected attestation in fail-closed mode"
    else none
  | .error text =>
    if platform.sgx then some s!"TEE precompile error: {text}"
    else if registry.requiresCryptographicVerification then
      some s!"TEE precompile error in fail-closed mode: {text}"
    else none
  | .panicked =>
    if platform.sgx then some "TEE precompile panicked during verification"
    else if registry.requiresCryptographicVerification then
      some "TEE precompile panicked during verification in fail-closed mode"
    else none

def verifyTeeAttestation (attestation : TeeAttestation) (job : JobState) : Call Bool := do
  let registry ← read
  ensure (attestation.attestation ≠ []) (.TeeVerificationFailed "Empty attestation")
  ensure (attestation.measurement ≠ 0) (.TeeVerificationFailed "Invalid measurement (all zeros)")
  ensure (attestation.measurement = job.modelHash)
    (.TeeVerificationFailed (measurementMismatch job.modelHash attestation.measurement))
  ensure (job.submittedAt ≤ attestation.timestamp ∧ attestation.timestamp ≤ job.sla.deadline)
    (.TeeVerificationFailed "Attestation timestamp outside SLA window")
  ensure (64 ≤ attestation.attestation.length) (.TeeVerificationFailed
    s!"Attestation too short: {attestation.attestation.length} bytes (minimum 64)")
  let attestationHash := platform.sha256 attestation.attestation
  ensure (attestationHash ∉ registry.seenAttestationHashes)
    (.TeeVerificationFailed "attestation replay detected")
  ensure (¬(registry.enterpriseMode ∧ attestation.attestation.head? = some 0xFF))
    (.TeeVerificationFailed "Enterprise mode rejects simulated TEE attestations")
  let outcome := platform.teePrecompile registry.enterpriseMode
    (attestation.teeType.platformByte :: attestation.attestation)
  match teeObjection platform registry outcome with
  | some reason => fail (.TeeVerificationFailed reason)
  | none =>
    modify fun registry => { registry with
      seenAttestationHashes := attestationHash :: registry.seenAttestationHashes }
    return true

def flattenPublicInputs (publicInputs : List Hash) : List UInt8 :=
  publicInputs.flatMap fun input => bigEndian 32 input

def lengthField (width length : Nat) (reason : String) : Except SystemContractError (List UInt8) :=
  if length < 256 ^ width then .ok (littleEndian width length)
  else .error (.ZkVerificationFailed reason)

/-- The bytes cut or padded with zeros to a length. -/
def padded (length : Nat) (bytes : List UInt8) : List UInt8 :=
  bytes.take length ++ List.replicate (length - bytes.length) 0

variable (zkProof : ZkProof) (job : JobState)

def encodeUnifiedZkpInput : Except SystemContractError (List UInt8) := do
  let inputs := flattenPublicInputs zkProof.publicInputs
  let vkHash := bigEndian 32 zkProof.vkHash
  match zkProof.system with
  | .Plonk =>
    let length ← lengthField 4 zkProof.proof.length
      "PLONK proof exceeds 4 GiB precompile envelope"
    let count ← lengthField 4 zkProof.publicInputs.length
      "too many PLONK public inputs for precompile envelope"
    return [0x02] ++ length ++ vkHash ++ count ++ inputs ++ zkProof.proof
  | .Ezkl =>
    let count ← lengthField 2 zkProof.publicInputs.length
      "too many EZKL public inputs for precompile envelope"
    let length ← lengthField 4 zkProof.proof.length
      "EZKL proof exceeds 4 GiB precompile envelope"
    return [0x03, 1, 0] ++ bigEndian 32 job.modelHash ++ vkHash ++ count ++ length ++
      inputs ++ zkProof.proof
  | .Halo2 => return [0x04] ++ vkHash ++ inputs ++ zkProof.proof
  | .Groth16 => return [0x01] ++ padded 544 vkHash ++ padded 192 zkProof.proof ++ inputs
  | .Stark =>
    let count ← lengthField 4 zkProof.publicInputs.length
      "too many STARK public inputs for precompile envelope"
    return [0x05] ++ vkHash ++ count ++ inputs ++ zkProof.proof

def verifyZkProofViaPrecompile : Except SystemContractError Bool := do
  let input ← encodeUnifiedZkpInput zkProof job
  let valid ← (platform.zkpPrecompile input).mapError fun text =>
    .ZkVerificationFailed s!"0x0300 precompile execution failed: {text}"
  if registry.enterpriseZkmlConfig.enabled && !valid then
    throw (.ZkVerificationFailed
      "Enterprise mode: 0x0300 precompile reported an invalid proof (hard-fail)")
  if registry.config.requireCryptographicVerification && !valid then
    throw (.ZkVerificationFailed
      "0x0300 precompile reported an invalid proof in fail-closed mode")
  if platform.zkp && !valid then
    throw (.ZkVerificationFailed "0x0300 precompile reported an invalid proof")
  return true

def checkDomainBinding : Except SystemContractError Unit :=
  match job.outputHash with
  | none => .error (.ZkVerificationFailed
      "Enterprise mode: job output_hash is required for domain binding but is None")
  | some outputHash =>
    match zkProof.publicInputs[2]? with
    | none => .error (.ZkVerificationFailed
        "Enterprise mode: domain binding requires >= 3 public inputs (model, input, output)")
    | some third =>
      if third ≠ outputHash then .error (.ZkVerificationFailed
        "Enterprise mode: public_input[2] (output commitment) does not match job output_hash")
      else .ok ()

def verifyZkProof : Except SystemContractError Bool := do
  let enterprise := registry.enterpriseZkmlConfig
  if zkProof.proof = [] then throw (.ZkVerificationFailed "Empty proof")
  match zkProof.publicInputs with
  | first :: second :: _ =>
    if first ≠ job.modelHash then
      throw (.ZkVerificationFailed "Public input[0] (model hash) does not match job")
    if second ≠ job.inputHash then
      throw (.ZkVerificationFailed "Public input[1] (input hash) does not match job")
  | few => throw (.ZkVerificationFailed
      s!"Insufficient public inputs: expected >= 2, got {few.length}")
  if zkProof.vkHash = 0 then throw (.ZkVerificationFailed "Zero verification key hash")
  if enterprise.enabled && enterprise.requireRegisteredCircuit &&
      !registry.registeredCircuits.contains zkProof.vkHash then
    throw (.ZkVerificationFailed "Enterprise mode: circuit vk_hash is not registered")
  if enterprise.enabled && enterprise.requireDomainBinding then
    checkDomainBinding zkProof job
  if zkProof.proof.length < 128 then
    throw (.ZkVerificationFailed
      s!"Proof too short: {zkProof.proof.length} bytes (minimum 128)")
  verifyZkProofViaPrecompile platform registry zkProof job

def consult {α : Type} (check : JobRegistry → Except SystemContractError α) : Call α :=
  fun registry => (check registry, registry)

def verifyProof (proof : Proof) (job : JobState) : Call Bool :=
  match proof.method with
  | .TeeAttestation => do
      let attestation ← okOr proof.teeAttestation
        (.InvalidProof "TEE attestation required but not provided")
      verifyTeeAttestation platform attestation job
  | .ZkProof => do
      let zkProof ← okOr proof.zkProof (.InvalidProof "ZK proof required but not provided")
      consult fun registry => verifyZkProof platform registry zkProof job
  | .Hybrid => do
      let attestation ← okOr proof.teeAttestation
        (.InvalidProof "TEE attestation required for hybrid verification")
      let zkProof ← okOr proof.zkProof
        (.InvalidProof "ZK proof required for hybrid verification")
      let teeValid ← verifyTeeAttestation platform attestation job
      let zkValid ← consult fun registry => verifyZkProof platform registry zkProof job
      return teeValid && zkValid
  | .ReExecution => pure (decide (proof.outputHash ≠ 0))

end JobRegistry

end Vm
