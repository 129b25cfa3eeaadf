import Aethelred.Vm.JobProof
import Aethelred.Vm.Staking

/- The job registry of the system contracts (`job_registry.rs`): submission, assignment, proof and
settlement, cancellation and expiry of jobs. -/
namespace Vm

open Go Attempt Bytes

/-- A `u64` as the nearest `f64`, the even one of two. -/
def asF64 (n : Nat) : Nat :=
  if n < 2 ^ 53 then n
  else
    let unit := 2 ^ (Nat.log2 n - 52)
    let digits := n / unit
    let rest := n % unit
    (if 2 * rest > unit ∨ 2 * rest = unit ∧ digits % 2 = 1 then digits + 1 else digits) * unit

/-- A timeout times `sla_multiplier`, which is a power of two, as a `u64` again. -/
def JobPriority.scaled (timeout : Nat) : JobPriority → Nat
  | .Low => min (2 * asF64 timeout) MAX_U64
  | .Normal => min (asF64 timeout) MAX_U64
  | .High => asF64 timeout / 2
  | .Urgent => asF64 timeout / 4

namespace SlaPolicy

/-- `clamp` panics if its limits are the wrong way round. -/
def baseTimeout (config : JobConfig) (customTimeout : Nat) : Option Nat :=
  if customTimeout > 0 then
    if config.minSlaTimeout ≤ config.maxSlaTimeout then
      some (max config.minSlaTimeout (min customTimeout config.maxSlaTimeout))
    else none
  else some config.defaultSlaTimeout

def new (config : JobConfig) (priority : JobPriority) (submittedAt customTimeout : Nat) :
    Option SlaPolicy :=
  (baseTimeout config customTimeout).map fun timeout =>
    let deadline := addU64 submittedAt (priority.scaled timeout)
    ⟨deadline, addU64 deadline config.lateGracePeriod, config.latePenaltyBps⟩

variable (sla : SlaPolicy)

def isExpired (currentTime : Nat) : Bool := currentTime > sla.graceEnd

def isLate (currentTime : Nat) : Bool :=
  currentTime > sla.deadline && currentTime ≤ sla.graceEnd

def latePenalty (amount : Nat) : Nat := mulU128 amount sla.latePenaltyBps / 10000

end SlaPolicy

structure SubmitJobParams where
  requester : Address
  modelHash : Hash
  inputHash : Hash
  bidAmount : Nat
  verificationMethod : VerificationMethod
  priority : JobPriority
  slaTimeout : Nat

structure SubmitProofParams where
  jobId : JobId
  prover : Address
  proof : Proof
  result : List UInt8

structure JobSubmitResult where
  jobId : JobId
  escrowed : Nat
  slaDeadline : Nat

structure ProofSubmitResult where
  jobId : JobId
  verified : Bool
  proverReward : Nat
  validatorReward : Nat
  burned : Nat
  deriving DecidableEq

structure JobCancelResult where
  jobId : JobId
  refunded : Nat
  cancellationFee : Nat

def JobState.new (jobId : JobId) (params : SubmitJobParams) (config : JobConfig)
    (submittedAt : Nat) : Option JobState :=
  (SlaPolicy.new config params.priority submittedAt params.slaTimeout).map fun sla =>
    { jobId
      requester := params.requester
      bidAmount := params.bidAmount
      modelHash := params.modelHash
      inputHash := params.inputHash
      verificationMethod := params.verificationMethod
      sla
      submittedAt }

namespace JobStatus

/-- The edges of `can_transition_to`. -/
def canTransitionTo : JobStatus → JobStatus → Bool
  | Submitted, Assigned => true
  | Submitted, Cancelled => true
  | Assigned, Proving => true
  | Assigned, Cancelled => true
  | Assigned, Expired => true
  | Proving, Verifying => true
  | Proving, Expired => true
  | Verifying, Verified => true
  | Verifying, Failed => true
  | Verified, Settled => true
  | _, _ => false

end JobStatus

/-- `aethelred-job-v1:` and the fields, in fixed widths. -/
def jobPreimage (requester : Address) (modelHash inputHash : Hash) (nonce : Nat) : List UInt8 :=
  "aethelred-job-v1:".toUTF8.toList ++ bigEndian 32 requester ++
    bigEndian 32 modelHash ++ bigEndian 32 inputHash ++ littleEndian 8 nonce

def generateJobId (platform : Platform) (requester : Address) (modelHash inputHash : Hash)
    (nonce : Nat) : JobId :=
  platform.sha256 (jobPreimage requester modelHash inputHash nonce)

namespace JobRegistry

def new (config : JobConfig) : JobRegistry where
  config

variable (registry : JobRegistry)

def nonce (requester : Address) : Nat := registry.jobNonces.get requester 0

def putJob (id : JobId) (job : JobState) : JobRegistry :=
  { registry with jobs := registry.jobs.insert id job }

def release : JobRegistry :=
  { registry with activeJobs := saturatingSub registry.activeJobs 1 }

def index (id : JobId) (job : JobState) : JobRegistry :=
  { registry.putJob id job with
    jobsByRequester := registry.jobsByRequester.update job.requester [] (· ++ [id])
    jobsByDeadline := registry.jobsByDeadline.update job.sla.deadline [] (· ++ [id])
    activeJobs := addU64 registry.activeJobs 1
    totalJobs := addU64 registry.totalJobs 1 }

def indexProver (prover : Address) (id : JobId) : JobRegistry :=
  { registry with jobsByProver := registry.jobsByProver.update prover [] (· ++ [id]) }

def assignJob (jobId : JobId) (prover : Address) (ctx : BlockContext) : Call Unit := do
  let registry ← read
  let job ← okOr (registry.jobs.lookup jobId) (.JobNotFound jobId)
  ensure (job.status.canTransitionTo .Assigned) (.InvalidJobStatus "Submitted" job.status.text)
  ensure (job.assignedProver = none) (.JobAlreadyAssigned jobId (job.assignedProver.getD 0))
  ensure (job.sla.isExpired ctx.timestamp = false)
    (.SlaViolation jobId job.sla.deadline ctx.timestamp)
  modify fun registry => (registry.putJob jobId { job with
    assignedProver := some prover
    assignedAt := some ctx.timestamp
    status := .Assigned }).indexProver prover jobId

variable (currentTime : Nat)

def expire (registry : JobRegistry) (id : JobId) : JobRegistry :=
  match registry.jobs.lookup id with
  | some job =>
    if job.status.isActive ∧ job.sla.isExpired currentTime then
      (registry.putJob id { job with status := .Expired }).release
    else registry
  | none => registry

def expiredDeadlines : List Nat :=
  (registry.jobsByDeadline.keys.filter (· ≤ currentTime)).mergeSort

def expireDeadline (registry : JobRegistry) (deadline : Nat) : JobRegistry :=
  match registry.jobsByDeadline.lookup deadline with
  | some ids => ids.foldl (expire currentTime)
      { registry with jobsByDeadline := registry.jobsByDeadline.erase deadline }
  | none => registry

def processExpiredJobs : JobRegistry :=
  (registry.expiredDeadlines currentTime).foldl (expireDeadline currentTime) registry

end JobRegistry

/-- The registry with the contracts it calls. -/
structure World where
  registry : JobRegistry
  staking : StakingManager
  /-- The bank of the staking manager, unless the caller holds the lock on it. -/
  stakingBank : Option Bank
  bank : Bank

namespace World

abbrev Call := Attempt World SystemContractError

variable (platform : Platform)

def onBank {α : Type} (call : Bank.Call α) : Call α :=
  within World.bank (fun world bank => { world with bank }) call

def onRegistry {α : Type} (call : JobRegistry.Call α) : Call α :=
  within World.registry (fun world registry => { world with registry }) call

variable (params : SubmitJobParams)

def acceptParams : Call Unit := do
  let registry := (← read).registry
  let config := registry.config
  ensure (config.minBid ≤ params.bidAmount) (.InsufficientBid config.minBid params.bidAmount)
  ensure (params.bidAmount ≤ config.maxBid) (.InsufficientBid config.maxBid params.bidAmount)
  ensure ((registry.jobsByRequester.get params.requester []).length < config.maxJobsPerRequester)
    (.InvalidAmount s!"Max jobs per requester ({config.maxJobsPerRequester}) exceeded")
  ensure (registry.activeJobs < config.maxActiveJobs)
    (.InvalidAmount "Maximum active jobs in system reached")

def escrow : Call Unit := do
  modify fun world => { world with registry := { world.registry with
    jobNonces := world.registry.jobNonces.insert params.requester
      (addU64 (world.registry.nonce params.requester) 1) } }
  onBank (Bank.lock params.requester params.bidAmount)

/-- No result if the call panics. -/
def submitJob (ctx : BlockContext) (world : World) :
    Option (Except SystemContractError JobSubmitResult × World) :=
  let jobId := generateJobId platform params.requester params.modelHash params.inputHash
    (world.registry.nonce params.requester)
  match (acceptParams params >>= fun _ => escrow params) world with
  | (.error reason, world) => some (.error reason, world)
  | (.ok (), world) =>
    (JobState.new jobId params world.registry.config ctx.timestamp).map fun job =>
      (.ok ⟨jobId, params.bidAmount, job.sla.deadline⟩,
        { world with registry := world.registry.index jobId job })

/-- A slash of the prover. It waits for the staking manager's lock on its bank, and forever if the
caller holds it. -/
def punish (offense : Economy.Offense) (prover : Address) (world : World) :
    Option (Except SystemContractError Nat × World) :=
  match world.staking.stakers.lookup prover, world.stakingBank with
  | none, _ => some (.error (.StakerNotFound prover), world)
  | some _, none => none
  | some _, some bank =>
    let slashed := Economy.slashFor offense prover ⟨world.staking, bank⟩
    some (slashed.1, { world with
      staking := slashed.2.staking
      stakingBank := some slashed.2.bank })

def reject (offense : Economy.Offense) (prover : Address) (jobId : JobId) (job : JobState)
    (reason : SystemContractError) (world : World) :
    Option (Except SystemContractError ProofSubmitResult × World) :=
  (punish offense prover world).map fun
    | (.error other, world) => (.error other, world)
    | (.ok _, world) => (.error reason, { world with
        registry := (world.registry.putJob jobId job).release })

/-- `{:?}`. -/
def methodText : VerificationMethod → String
  | .TeeAttestation => "TeeAttestation"
  | .ZkProof => "ZkProof"
  | .Hybrid => "Hybrid"
  | .ReExecution => "ReExecution"

def allowProof (config : JobConfig) (proof : Proof) (job : JobState) :
    Except SystemContractError Unit :=
  if proof.method ≠ job.verificationMethod then
    .error (.ProofMethodMismatch job.verificationMethod proof.method)
  else if config.enterpriseMode ∧ proof.method ≠ .Hybrid then
    .error (.SettlementFailed
      s!"Enterprise mode requires Hybrid verification, got {methodText proof.method}")
  else if config.enterpriseMode ∧ proof.isEnterpriseCompliant = false then
    .error (.SettlementFailed "Enterprise mode requires both TEE attestation and ZK proof")
  else .ok ()

variable (params : SubmitProofParams) (ctx : BlockContext) (job : JobState)

def verifiedJob : JobState :=
  { job with
    outputHash := some params.proof.outputHash
    proofSubmittedAt := some ctx.timestamp
    verifiedAt := some ctx.timestamp
    result := some params.result
    status := .Verified }

def chargeFee : Call Nat :=
  if job.sla.isLate ctx.timestamp then do
    let penalty := job.sla.latePenalty job.bidAmount
    onBank (Bank.burn job.requester penalty)
    return saturatingSub job.bidAmount penalty
  else pure job.bidAmount

def distribute (prover : Address) (job : JobState) (split : Nat × Nat × Nat) : Call Unit := do
  onBank (Bank.unlock job.requester job.bidAmount)
  onBank (Bank.transfer job.requester prover split.1)
  onBank (Bank.transfer job.requester ctx.proposer split.2.1)
  onBank (Bank.burn job.requester split.2.2)

def settle : Call ProofSubmitResult := do
  let job := verifiedJob params ctx job
  modify fun world => { world with registry := world.registry.putJob params.jobId job }
  let fee ← chargeFee ctx job
  let split := (← read).staking.calculateFeeSplit fee
  distribute ctx params.prover job split
  modify fun world => { world with
    registry := (world.registry.putJob params.jobId { job with
      settledAt := some ctx.timestamp
      status := .Settled }).release }
  return ⟨params.jobId, true, split.1, split.2.1, split.2.2⟩

def submitProof (world : World) : Option (Except SystemContractError ProofSubmitResult × World) :=
  match world.registry.jobs.lookup params.jobId with
  | none => some (.error (.JobNotFound params.jobId), world)
  | some job =>
    if job.assignedProver ≠ some params.prover then
      some (.error (.UnauthorizedProver (job.assignedProver.getD 0) params.prover), world)
    else if job.sla.isExpired ctx.timestamp then
      reject .slaViolation params.prover params.jobId { job with status := .Expired }
        (.SlaViolation params.jobId job.sla.deadline ctx.timestamp) world
    else
      match allowProof world.registry.config params.proof job with
      | .error reason => some (.error reason, world)
      | .ok () =>
        match onRegistry (JobRegistry.verifyProof platform params.proof job) world with
        | (.error reason, world) => some (.error reason, world)
        | (.ok false, world) =>
          reject .invalidProof params.prover params.jobId { job with status := .Failed }
            (.InvalidProof "Verification failed") world
        | (.ok true, world) => some (settle params ctx job world)

def cancelJob (jobId : JobId) (requester : Address) : Call JobCancelResult := do
  let registry := (← read).registry
  let job ← okOr (registry.jobs.lookup jobId) (.JobNotFound jobId)
  ensure (job.requester = requester) (.OnlyRequesterCanCancel job.requester requester)
  ensure job.status.canCancel (.CannotCancelJob jobId job.status)
  let cancellationFee := mulU128 job.bidAmount registry.config.cancellationFeeBps / 10000
  onBank (Bank.unlock requester job.bidAmount)
  if cancellationFee > 0 then onBank (Bank.burn requester cancellationFee)
  modify fun world => { world with
    registry := (world.registry.putJob jobId { job with status := .Cancelled }).release }
  return ⟨jobId, saturatingSub job.bidAmount cancellationFee, cancellationFee⟩

end World

end Vm
