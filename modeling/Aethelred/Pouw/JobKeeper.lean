import Aethelred.Go.Time
import Aethelred.Pouw.AttestationRegistry

/- The life of a compute job, and the statistics kept about a validator. -/
namespace Aethelred.Pouw

open Go

theorem length_padded (data : Bytes) : ((data ++ List.replicate 32 0).take 32).length = 32 := by
  rw [List.length_take, List.length_append, List.length_replicate]
  omega

structure Crypto where
  sha256 : Bytes → Bytes
  sha256_length : ∀ data, (sha256 data).length = 32
  /-- The public key of the key pair of a seed. -/
  ed25519Public : Bytes → Bytes
  /-- A message signed with the key pair of a seed. -/
  ed25519Sign : Bytes → Bytes → Bytes
  ed25519Verify : Bytes → Bytes → Bytes → Bool

def utf8 (text : String) : Bytes := text.toUTF8.data.toList

/-- 24 hours at six seconds a block. -/
def defaultJobExpiryBlocks : Int := 14400

inductive JobError where
  | emptyID
  | modelHashLength
  | inputHashLength
  | requesterAddress
  | proofType (given : ProofType)
  | emptyPurpose
  | invalidTransition (current target : JobStatus)
deriving DecidableEq

/-- The allowed transitions; a status outside the table has none. -/
def validTransitions : JobStatus → Option (List JobStatus)
  | .pending => some [.processing, .expired, .failed]
  | .processing => some [.completed, .failed, .pending]
  | .completed => some []
  | .failed => some []
  | .expired => some []
  | .unspecified => none
  | .unknown _ => none

/-- The job is over. -/
def JobStatus.terminal (status : JobStatus) : Prop :=
  status = .completed ∨ status = .failed ∨ status = .expired

instance : DecidablePred JobStatus.terminal := fun status =>
  inferInstanceAs (Decidable (status = .completed ∨ _ ∨ _))

namespace ComputeJob

def validate (codec : AddressCodec) (j : ComputeJob) : Except JobError Unit := do
  if j.id = "" then throw .emptyID
  if j.modelHash.length ≠ 32 then throw .modelHashLength
  if j.inputHash.length ≠ 32 then throw .inputHashLength
  if codec.accAddressFromBech32 j.requestedBy = none then throw .requesterAddress
  if j.proofType ≠ .tee ∧ j.proofType ≠ .zkml ∧ j.proofType ≠ .hybrid then
    throw (.proofType j.proofType)
  if j.purpose = "" then throw .emptyPurpose

def generateID (crypto : Crypto) (j : ComputeJob) (createdAt : Instant) : String :=
  String.ofList ((Hex.encodeToString (crypto.sha256 (j.modelHash ++ j.inputHash ++
    utf8 j.requestedBy ++ utf8 ("height:" ++ Strconv.formatInt j.blockHeight) ++
    utf8 createdAt.string))).toList.take 16)

def newComputeJobWithBlockTime (crypto : Crypto) (modelHash inputHash : Bytes)
    (requestedBy : String) (proofType : ProofType) (purpose : String) (blockHeight : Int)
    (blockTime : Instant) : ComputeJob :=
  let job : ComputeJob := { id := "", modelHash, inputHash, requestedBy, proofType, purpose,
                            status := .pending, priority := 0, blockHeight }
  { job with id := job.generateID crypto blockTime }

variable (j : ComputeJob)

def canTransitionTo (target : JobStatus) : Bool :=
  match validTransitions j.status with
  | some allowed => target ∈ allowed
  | none => false

def transitionTo (target : JobStatus) : Except JobError ComputeJob :=
  if j.canTransitionTo target then .ok { j with status := target }
  else .error (.invalidTransition j.status target)

def markProcessing : Except JobError ComputeJob := j.transitionTo .processing

def markCompleted (outputHash : Bytes) (sealID : String) (now : Int) :
    Except JobError ComputeJob := do
  let completed ← j.transitionTo .completed
  return { completed with outputHash := outputHash, sealId := sealID, completedAt := some now }

def markFailed : Except JobError ComputeJob := j.transitionTo .failed

def markExpired : Except JobError ComputeJob := j.transitionTo .expired

def requeueForRetry : Except JobError ComputeJob := j.transitionTo .pending

/-- `_ = job.Mark…()`: the job stays as it is where the transition is refused. -/
def attempt (outcome : Except JobError ComputeJob) : ComputeJob :=
  match outcome with
  | .ok moved => moved
  | .error _ => j

def isExpiredAtHeight (currentHeight : Int) : Bool :=
  defaultJobExpiryBlocks < Int64.wrap (currentHeight - j.blockHeight)

end ComputeJob

namespace ValidatorStats

def newValidatorStats (validatorAddr : String) : ValidatorStats where
  validatorAddress := validatorAddr
  totalJobsProcessed := 0
  successfulJobs := 0
  failedJobs := 0
  averageExecutionTimeMs := 0
  reputationScore := 50
  slashingEvents := 0

variable (vs : ValidatorStats)

def recordSuccess (executionTimeMs : Int) : Option ValidatorStats :=
  let processed := Int64.wrap (vs.totalJobsProcessed + 1)
  if processed = 0 then none
  else
    let total := Int64.wrap (vs.averageExecutionTimeMs * Int64.wrap (processed - 1))
    some { vs with
      totalJobsProcessed := processed
      successfulJobs := Int64.wrap (vs.successfulJobs + 1)
      averageExecutionTimeMs := Int64.wrap ((Int64.wrap (total + executionTimeMs)).tdiv processed)
      reputationScore :=
        if vs.reputationScore < 100 then Int64.wrap (vs.reputationScore + 1)
        else vs.reputationScore }

def recordFailure : ValidatorStats :=
  { vs with
    totalJobsProcessed := Int64.wrap (vs.totalJobsProcessed + 1)
    failedJobs := Int64.wrap (vs.failedJobs + 1)
    reputationScore :=
      if vs.reputationScore > 0 then Int64.wrap (vs.reputationScore - 5) else vs.reputationScore }

def recordSlashing : ValidatorStats :=
  { vs with
    slashingEvents := Int64.wrap (vs.slashingEvents + 1)
    reputationScore := vs.reputationScore.tdiv 2 }

end ValidatorStats

/- The keeper's job store, its message handlers and its statistics. -/

/-- What a call reads off the block it runs in, and the machine's own clock. -/
structure SDKContext where
  blockHeight : I64
  blockTime : Instant
  chainID : String := ""
  headerHash : Bytes := []
  validators : List StakingValidator
  now : Int := 0

def SDKContext.block (ctx : SDKContext) : BlockContext := ⟨ctx.blockHeight.val, ctx.validators⟩

inductive DigitalSealError where
  | emptyID
  | modelCommitmentLength
  | inputCommitmentLength
  | outputCommitmentLength
  | blockHeight
  | requesterAddress
  | alreadyExists (id : String)
deriving DecidableEq

inductive KeeperError where
  | invalidJob (reason : JobError)
  | modelNotRegistered (modelHash : Bytes)
  | modelAlreadyRegistered (modelHash : Bytes)
  | jobNotFound (id : String)
  | createSeal (reason : DigitalSealError)
  | invalidTransition (reason : JobError)
  | reservedMetadata (key : String)
  | unauthorized
  | jobNotPending (status : JobStatus)
  | cancelFailed (reason : JobError)
  | maxConcurrentJobs
  | capability (reason : RegistryError)
  | divisionByZero
deriving DecidableEq

/-- The key of a model: `%x` of its hash. -/
def modelHashKey (modelHash : Bytes) : String := Hex.encodeToString modelHash

/-- Big-endian, eight bytes. -/
def bigEndian64 (x : Int) : Bytes :=
  (List.range 8).map fun i => UInt8.ofNat ((x % 2 ^ 64).toNat / 2 ^ (56 - 8 * i) % 256)

namespace DigitalSeal

def generateID (crypto : Crypto) (s : DigitalSeal) (timestamp : Int) : String :=
  Hex.encodeToString (crypto.sha256 (utf8 "aethelred_seal_id_v2:" ++ s.modelCommitment ++
    s.inputCommitment ++ s.outputCommitment ++ bigEndian64 s.blockHeight ++ utf8 s.requestedBy ++
    bigEndian64 timestamp ++ utf8 s.purpose))

def newDigitalSeal (crypto : Crypto) (modelCommitment inputCommitment outputCommitment : Bytes)
    (blockHeight : Int) (requestedBy purpose : String) (now : Int) : DigitalSeal :=
  let s : DigitalSeal := { id := "", modelCommitment, inputCommitment, outputCommitment,
                           blockHeight, requestedBy, purpose, status := .pending }
  { s with id := s.generateID crypto now }

def addAttestation (s : DigitalSeal) (attestation : TEEAttestation) : DigitalSeal :=
  { s with
    teeAttestations := s.teeAttestations ++ [attestation]
    validatorSet := s.validatorSet ++ [attestation.validatorAddress] }

def activate (s : DigitalSeal) : DigitalSeal := { s with status := .active }

def validate (codec : AddressCodec) (s : DigitalSeal) : Except DigitalSealError Unit := do
  if s.id = "" then throw .emptyID
  if s.modelCommitment.length ≠ 32 then throw .modelCommitmentLength
  if s.inputCommitment.length ≠ 32 then throw .inputCommitmentLength
  if s.outputCommitment.length ≠ 32 then throw .outputCommitmentLength
  if s.blockHeight ≤ 0 then throw .blockHeight
  if codec.accAddressFromBech32 s.requestedBy = none then throw .requesterAddress

end DigitalSeal

namespace UsefulWork

def parsePositiveUint (raw : String) : Option Nat := do
  let parsed ← Strconv.parseUint (Strings.trimSpace raw)
  if parsed = 0 then none else some parsed

variable (job : ComputeJob)

def resolveVerifiedTokenOutput (outputHash : Bytes) : Nat :=
  match parsePositiveUint (job.metadata.get "work.vto" "") with
  | some vto => vto
  | none => if outputHash.length > 0 then outputHash.length else 1

def resolveModelParameterSize (model : Option RegisteredModel) : Nat :=
  let fallback := (parsePositiveUint (job.metadata.get "work.model_parameter_size" "")).getD 1
  match model with
  | some model => if model.baseUwuValue > 0 then model.baseUwuValue else fallback
  | none => fallback

def saturatingMul (a b : Nat) : Nat := min (a * b) (2 ^ 64 - 1)

def recordOn (model : Option RegisteredModel) (outputHash : Bytes) : Nat × ComputeJob :=
  let vto := resolveVerifiedTokenOutput job outputHash
  let modelParamSize := resolveModelParameterSize job model
  let totalUWU := saturatingMul vto modelParamSize
  if totalUWU > 0 then
    (totalUWU, { job with
      usefulWorkUnits := totalUWU
      metadata := ((job.metadata.insert "work.formula" "vto_x_model_parameter_size").insert
        "work.vto" (Strconv.formatUint vto)).insert
        "work.model_parameter_size" (Strconv.formatUint modelParamSize) })
  else (totalUWU, job)

/-- The successful verifiers share the work; the first ones take what does not divide. -/
def share (perVerifier : Nat) : Nat → List VerificationResult → List VerificationResult
  | _, [] => []
  | remainder, result :: rest =>
    if result.success then
      { result with uwuContribution := perVerifier + if remainder > 0 then 1 else 0 } ::
        share perVerifier (remainder - 1) rest
    else result :: share perVerifier remainder rest

def distribute (totalUWU : Nat) (results : List VerificationResult) : List VerificationResult :=
  let successful := (results.filter (·.success)).length
  if successful > 0 ∧ totalUWU > 0 then
    share (totalUWU / successful) (totalUWU % successful) results
  else results

end UsefulWork

namespace Keeper

variable (k : Keeper)

def isModelRegistered (modelHash : Bytes) : Bool :=
  (k.registeredModels.lookup (modelHashKey modelHash)).isSome

def getJob (id : String) : Except KeeperError ComputeJob :=
  match k.jobs.lookup id with
  | some job => .ok job
  | none => .error (.jobNotFound id)

variable (job : ComputeJob)

def addJob : Keeper :=
  { k with
    jobs := k.jobs.insert job.id job
    pendingJobs := k.pendingJobs.insert job.id job
    jobCount := some ((k.jobCount.getD 0 + 1) % 2 ^ 64) }

def submitJob (codec : AddressCodec) (ctx : SDKContext) (k : Keeper) (job : ComputeJob) :
    Except KeeperError Keeper := do
  match job.validate codec with
  | .error reason => throw (.invalidJob reason)
  | .ok () =>
    if !k.isModelRegistered job.modelHash then throw (.modelNotRegistered job.modelHash)
    return k.addJob { job with blockHeight := ctx.blockHeight.val }

def walkOrder (keys : List String) : List String := keys.insertionSort (· ≤ ·)

def getPendingJobs (ctx : SDKContext) : List ComputeJob :=
  (walkOrder k.pendingJobs.keys).filterMap fun id =>
    match k.pendingJobs.lookup id with
    | some job => if job.isExpiredAtHeight ctx.blockHeight.val then none else some job
    | none => none

def setJob : Keeper :=
  { k with
    jobs := k.jobs.insert job.id job
    pendingJobs :=
      if job.status = .pending ∨ job.status = .processing then k.pendingJobs.insert job.id job
      else k.pendingJobs.erase job.id }

def updateJob : Except KeeperError Keeper :=
  if (k.jobs.lookup job.id).isSome then .ok (k.setJob job) else .error (.jobNotFound job.id)

def createSeal (codec : AddressCodec) (k : Keeper) (s : DigitalSeal) :
    Except DigitalSealError Keeper := do
  s.validate codec
  if (k.seals.lookup s.id).isSome then throw (.alreadyExists s.id)
  return { k with
    seals := k.seals.insert s.id s
    sealCount := some ((k.sealCount.getD 0 + 1) % 2 ^ 64) }

def setValidatorStats (stats : ValidatorStats) : Keeper :=
  { k with validatorStats := k.validatorStats.insert stats.validatorAddress stats }

def statsOf (validatorAddr : String) : ValidatorStats :=
  (k.validatorStats.lookup validatorAddr).getD (.newValidatorStats validatorAddr)

def recordResult (result : VerificationResult) : Option Keeper :=
  let stats := k.statsOf result.validatorAddress
  if result.success then (stats.recordSuccess result.executionTimeMs).map k.setValidatorStats
  else some (k.setValidatorStats stats.recordFailure)

def sealFor (crypto : Crypto) (ctx : SDKContext) (job : ComputeJob) (outputHash : Bytes)
    (results : List VerificationResult) : DigitalSeal :=
  let s := DigitalSeal.newDigitalSeal crypto job.modelHash job.inputHash outputHash
    ctx.blockHeight.val job.requestedBy job.purpose ctx.now
  (results.foldl (fun s result =>
    if result.success ∧ result.attestationType = "tee" then
      s.addAttestation ⟨result.validatorAddress, result.teePlatform, result.attestationData⟩
    else s) s).activate

def completeJob (crypto : Crypto) (codec : AddressCodec) (ctx : SDKContext) (k : Keeper)
    (jobID : String) (outputHash : Bytes) (results : List VerificationResult) :
    Except KeeperError Unit × Keeper :=
  match k.getJob jobID with
  | .error reason => (.error reason, k)
  | .ok job =>
    let model := k.registeredModels.lookup (modelHashKey job.modelHash)
    let (totalUWU, job) := UsefulWork.recordOn job model outputHash
    let results := UsefulWork.distribute totalUWU results
    let job := { job with verificationResults := job.verificationResults ++ results }
    let s := sealFor crypto ctx job outputHash results
    match k.createSeal codec s with
    | .error reason => (.error (.createSeal reason), k)
    | .ok k =>
      match job.markCompleted outputHash s.id ctx.now with
      | .error reason => (.error (.invalidTransition reason), k)
      | .ok job =>
        match k.updateJob job with
        | .error reason => (.error reason, k)
        | .ok k =>
          match results.foldlM recordResult k with
          | none => (.error .divisionByZero, k)
          | some k => (.ok (), k)

def registerModel (model : RegisteredModel) : Except KeeperError Keeper :=
  if k.isModelRegistered model.modelHash then .error (.modelAlreadyRegistered model.modelHash)
  else .ok { k with
    registeredModels := k.registeredModels.insert (modelHashKey model.modelHash) model }

end Keeper

def reservedMetadataPrefix : String := "scheduler."

structure MsgSubmitJob where
  creator : String
  modelHash : Bytes
  inputHash : Bytes
  proofType : ProofType
  purpose : String
  priority : Int := 0
  metadata : Map String String := ∅

structure MsgRegisterValidatorCapability where
  creator : String
  teePlatforms : List String
  zkmlSystems : List String
  maxConcurrentJobs : Int
  isOnline : Bool

namespace MsgServer

def jobOf (crypto : Crypto) (ctx : SDKContext) (msg : MsgSubmitJob) : ComputeJob :=
  { ComputeJob.newComputeJobWithBlockTime crypto msg.modelHash msg.inputHash msg.creator
      msg.proofType msg.purpose ctx.blockHeight.val ctx.blockTime with
    priority := msg.priority
    metadata := msg.metadata }

def submitJob (crypto : Crypto) (codec : AddressCodec) (ctx : SDKContext)
    (order : RangeOrder String) (k : Keeper) (msg : MsgSubmitJob) : Except KeeperError Keeper := do
  match (order.order msg.metadata.keys).find? (Strings.hasPrefix · reservedMetadataPrefix) with
  | some key => throw (.reservedMetadata key)
  | none => k.submitJob codec ctx (jobOf crypto ctx msg)

def cancelJob (ctx : SDKContext) (k : Keeper) (creator jobID : String) :
    Except KeeperError Keeper := do
  let job ← k.getJob jobID
  if job.requestedBy ≠ creator then throw .unauthorized
  if job.status ≠ .pending then throw (.jobNotPending job.status)
  match job.markFailed with
  | .error reason => throw (.cancelFailed reason)
  | .ok job =>
    k.updateJob { job with
      metadata := (job.metadata.insert "cancelled_by" creator).insert "cancelled_at"
        ctx.blockTime.rfc3339Seconds }

def capabilityOf (k : Keeper) (msg : MsgRegisterValidatorCapability) : ValidatorCapability :=
  let existing := k.validatorCapabilities.lookup msg.creator
  { address := msg.creator
    teePlatforms := msg.teePlatforms
    zkmlSystems := msg.zkmlSystems
    maxConcurrentJobs := msg.maxConcurrentJobs
    currentJobs := (existing.map (·.currentJobs)).getD 0
    isOnline := msg.isOnline
    reputationScore := (existing.map (·.reputationScore)).getD 50 }

def registerValidatorCapability (codec : AddressCodec) (ctx : SDKContext) (k : Keeper)
    (msg : MsgRegisterValidatorCapability) : Except KeeperError Keeper := do
  if msg.maxConcurrentJobs > 2 ^ 63 - 1 then throw .maxConcurrentJobs
  match k.registerValidatorCapability codec ctx.block (capabilityOf k msg) with
  | .error reason => throw (.capability reason)
  | .ok k => return k

end MsgServer

namespace Keeper

def slashUntrustedAttestationValidator (k : Keeper) (validatorAddr : String) : Keeper :=
  k.setValidatorStats (k.statsOf validatorAddr).recordFailure.recordSlashing

/-- One point of reputation for each percent of stake, and none below zero. -/
def recordSlashingEvent (k : Keeper) (validatorAddr : String) (slashBps : Int) : Keeper :=
  let stats := (k.validatorStats.lookup validatorAddr).getD
    { validatorAddress := validatorAddr, totalJobsProcessed := 0, successfulJobs := 0,
      failedJobs := 0, averageExecutionTimeMs := 0, reputationScore := 0, slashingEvents := 0 }
  let reduced := Int64.wrap (stats.reputationScore - slashBps.tdiv 100)
  k.setValidatorStats { stats with
    reputationScore := if reduced < 0 then 0 else reduced
    slashingEvents := Int64.wrap (stats.slashingEvents + 1) }

end Keeper

end Aethelred.Pouw
