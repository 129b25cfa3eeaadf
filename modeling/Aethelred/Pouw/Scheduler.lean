import Aethelred.Pouw.Entropy
import Aethelred.Go.Json
import Aethelred.Lib.Run

/- The job scheduler: a queue of jobs in memory over the keeper's store. -/
namespace Aethelred.Pouw

open Go Json

structure ScheduledJob where
  job : ComputeJob
  effectivePriority : Int
  submittedBlock : Int
  retryCount : Int := 0
  lastAttemptBlock : Int := 0
  assignedTo : List String := []
  executionLane : ExecutionLane := .unset
  assignedWorkers : List String := []
  vrfEntropy : String := ""
  vrfAssignments : List VRFAssignmentRecord := []
  beaconSource : String := ""
  beaconVersion : String := ""
  beaconRound : Nat := 0
  beaconRandomness : String := ""
  beaconSigHash : String := ""

abbrev JobIndex := Map String ScheduledJob

/-- The heap of scheduled jobs, each by its id. The `index` field of the entries is kept in a
column of its own. -/
structure JobPriorityQueue where
  entries : List String := []
  index : Map String Int := ∅

namespace JobPriorityQueue

variable (jobs : JobIndex)

def priorityOf (id : String) : Int :=
  ((jobs.lookup id).map (·.effectivePriority)).getD 0

def submittedOf (id : String) : Int :=
  ((jobs.lookup id).map (·.submittedBlock)).getD 0

def before (left right : String) : Bool :=
  if priorityOf jobs left ≠ priorityOf jobs right then
    priorityOf jobs left > priorityOf jobs right
  else submittedOf jobs left < submittedOf jobs right

variable (pq : JobPriorityQueue)

def less (i j : Nat) : Bool :=
  before jobs (pq.entries.getD i "") (pq.entries.getD j "")

def swap (i j : Nat) : JobPriorityQueue :=
  match pq.entries[i]?, pq.entries[j]? with
  | some left, some right =>
    { entries := (pq.entries.set i right).set j left
      index := (pq.index.insert right i).insert left j }
  | _, _ => pq

def push (id : String) : JobPriorityQueue where
  entries := pq.entries ++ [id]
  index := pq.index.insert id pq.entries.length

def pop : Option (String × JobPriorityQueue) :=
  pq.entries.getLast?.map fun last => (last, ⟨pq.entries.dropLast, pq.index.insert last (-1)⟩)

def interface : Heap.Interface JobPriorityQueue String where
  len pq := pq.entries.length
  less := less jobs
  swap := swap
  push := push
  pop := pop

/-- `heap.Remove` at the entry's own index, where that lies in the queue. -/
def removeEntry (id : String) : JobPriorityQueue :=
  let i := pq.index.get id 0
  if 0 ≤ i ∧ i < pq.entries.length then
    match Heap.remove (interface jobs) pq i.toNat with
    | some (_, rest) => rest
    | none => pq
  else pq

/-- `heap.Fix` at the entry's own index; an entry outside the queue has index -1. -/
def fixEntry (id : String) : JobPriorityQueue :=
  let i := pq.index.get id 0
  if 0 ≤ i then Heap.fix (interface jobs) pq i.toNat else pq

end JobPriorityQueue

namespace SchedulingMetadata

def retryCountKey : String := "scheduler.retry_count"
def lastAttemptBlockKey : String := "scheduler.last_attempt_block"
def assignedToKey : String := "scheduler.assigned_to"
def submittedBlockKey : String := "scheduler.submitted_block"
def vrfVersionKey : String := "scheduler.vrf_version"
def vrfEntropyKey : String := "scheduler.vrf_entropy"
def vrfAssignmentsKey : String := "scheduler.vrf_assignments"
def beaconSourceKey : String := "scheduler.beacon_source"
def beaconVersionKey : String := "scheduler.beacon_version"
def beaconRoundKey : String := "scheduler.beacon_round"
def beaconRandomnessKey : String := "scheduler.beacon_randomness"
def beaconSigHashKey : String := "scheduler.beacon_signature_hash"
def executionLaneKey : String := "scheduler.execution_lane"
def assignedWorkersKey : String := "scheduler.execution_workers"

def marshalStrings (items : List String) : String :=
  String.ofList (render (.arr (items.map .str)))

def marshalRecords (records : List VRFAssignmentRecord) : String :=
  String.ofList (render (.arr (records.map fun r => .obj [
    ("validator_address", .str r.validatorAddress), ("public_key", .str r.publicKey),
    ("alpha", .str r.alpha), ("output_hash", .str r.outputHash),
    ("proof_gamma", .str r.proofGamma), ("proof_challenge", .str r.proofChallenge),
    ("proof_response", .str r.proofResponse), ("verified", .bool r.verified)])))

def decodeBool : Json → Option Bool
  | .bool value => some value
  | _ => none

def decodeRecordFields (fields : List (String × Json)) : Option VRFAssignmentRecord := do
  let validatorAddress ← field fields "validator_address" "" decodeString
  let publicKey ← field fields "public_key" "" decodeString
  let alpha ← field fields "alpha" "" decodeString
  let outputHash ← field fields "output_hash" "" decodeString
  let proofGamma ← field fields "proof_gamma" "" decodeString
  let proofChallenge ← field fields "proof_challenge" "" decodeString
  let proofResponse ← field fields "proof_response" "" decodeString
  let verified ← field fields "verified" false decodeBool
  return { validatorAddress, publicKey, alpha, outputHash, proofGamma, proofChallenge,
           proofResponse, verified }

def unmarshal {α : Type} (decode : Json → Option (List α)) (raw : String) : List α :=
  if raw = "" then [] else ((parse raw).bind decode).getD []

def unmarshalStrings : String → List String := unmarshal (decodeList "" decodeString)

def unmarshalRecords : String → List VRFAssignmentRecord :=
  let zero : VRFAssignmentRecord := ⟨"", "", "", "", "", "", "", false⟩
  unmarshal (decodeList zero (decodeRecord zero decodeRecordFields))

def getMetaInt (metadata : Map String String) (key : String) (fallback : Int) : Int :=
  (Strconv.parseInt (metadata.get key "")).getD fallback

def write (metadata : Map String String) (key : String) (present : Bool) (value : String) :
    Map String String :=
  if present then metadata.insert key value else metadata.erase key

def record (sj : ScheduledJob) : Map String String :=
  let m := sj.job.metadata.insert retryCountKey (Strconv.formatInt sj.retryCount)
  let m := m.insert lastAttemptBlockKey (Strconv.formatInt sj.lastAttemptBlock)
  let m := if sj.submittedBlock > 0 then
      m.insert submittedBlockKey (Strconv.formatInt sj.submittedBlock) else m
  let m := write m assignedToKey (sj.assignedTo ≠ []) (marshalStrings sj.assignedTo)
  let m := write m executionLaneKey (sj.executionLane.text ≠ "") sj.executionLane.text
  let m := write m assignedWorkersKey (sj.assignedWorkers ≠ []) (marshalStrings sj.assignedWorkers)
  let m := write m vrfVersionKey (sj.vrfEntropy ≠ "") vrfAssignmentVersion
  let m := write m vrfEntropyKey (sj.vrfEntropy ≠ "") sj.vrfEntropy
  let m := write m vrfAssignmentsKey (sj.vrfAssignments ≠ []) (marshalRecords sj.vrfAssignments)
  let m := write m beaconSourceKey (sj.beaconSource ≠ "") sj.beaconSource
  let m := write m beaconVersionKey (sj.beaconVersion ≠ "") sj.beaconVersion
  let m := write m beaconRoundKey (sj.beaconRound > 0) (Strconv.formatUint sj.beaconRound)
  let m := write m beaconRandomnessKey (sj.beaconRandomness ≠ "") sj.beaconRandomness
  write m beaconSigHashKey (sj.beaconSigHash ≠ "") sj.beaconSigHash

def loadLane (raw : String) : ExecutionLane :=
  let raw := Strings.trimSpace raw
  if raw = "" then .unset
  else match parseExecutionLane raw with
    | .ok lane => lane
    | .error _ => .unset

def load (job : ComputeJob) : ScheduledJob :=
  let m := job.metadata
  let inProcess := job.status = .processing
  { job := job
    effectivePriority := job.priority
    submittedBlock := getMetaInt m submittedBlockKey job.blockHeight
    retryCount := getMetaInt m retryCountKey 0
    lastAttemptBlock := getMetaInt m lastAttemptBlockKey 0
    assignedTo := if inProcess then unmarshalStrings (m.get assignedToKey "") else []
    executionLane := loadLane (m.get executionLaneKey "")
    assignedWorkers := if inProcess then unmarshalStrings (m.get assignedWorkersKey "") else []
    vrfEntropy := m.get vrfEntropyKey ""
    vrfAssignments := unmarshalRecords (m.get vrfAssignmentsKey "")
    beaconSource := m.get beaconSourceKey ""
    beaconVersion := m.get beaconVersionKey ""
    beaconRound := (Strconv.parseUint (m.get beaconRoundKey "")).getD 0
    beaconRandomness := m.get beaconRandomnessKey ""
    beaconSigHash := m.get beaconSigHashKey "" }

end SchedulingMetadata

structure JobScheduler where
  keeper : Keeper
  jobQueue : JobPriorityQueue := {}
  jobIndex : JobIndex := ∅
  validatorCapabilities : Capabilities := ∅
  executionWorkers : ExecutionWorkers := ∅
  config : SchedulerConfig

namespace JobScheduler

def newJobScheduler (keeper : Keeper) (config : SchedulerConfig) : JobScheduler :=
  { keeper, config }

/-- Writes the scheduling state into the job and the job into the store. Without an SDK context
nothing is written; an error of the store is logged and dropped. -/
def persistSchedulingMetadata (k : Keeper) (sdk : Bool) (sj : ScheduledJob) :
    ScheduledJob × Keeper :=
  if sdk then
    let recorded := { sj with job := { sj.job with metadata := SchedulingMetadata.record sj } }
    match k.updateJob recorded.job with
    | .ok stored => (recorded, stored)
    | .error _ => (recorded, k)
  else (sj, k)

inductive EnqueueError where
  | notHybrid (proofType : ProofType)
  | alreadyScheduled (id : String)
  | executionLane (raw : String)
deriving DecidableEq

variable (s : JobScheduler)

def push (sj : ScheduledJob) : JobScheduler :=
  let jobIndex := s.jobIndex.insert sj.job.id sj
  { s with
    jobIndex
    jobQueue := Heap.push (JobPriorityQueue.interface jobIndex) s.jobQueue sj.job.id }

def enqueueJob (ctx : SDKContext) (job : ComputeJob) :
    Except EnqueueError JobScheduler := do
  if s.config.enterpriseMode ∧ job.proofType ≠ .hybrid then throw (.notHybrid job.proofType)
  if (s.jobIndex.lookup job.id).isSome then throw (.alreadyScheduled job.id)
  match resolveExecutionLane job with
  | .error unknown => throw (.executionLane unknown.raw)
  | .ok executionLane =>
    let sj : ScheduledJob :=
      { job, effectivePriority := job.priority, submittedBlock := ctx.blockHeight.val,
        executionLane }
    let s := s.push sj
    let (sj, keeper) := persistSchedulingMetadata s.keeper true sj
    return { s with jobIndex := s.jobIndex.insert job.id sj, keeper }

def refreshValidatorCapabilities (codec : AddressCodec) (s : JobScheduler) (ctx : SDKContext) :
    JobScheduler :=
  let caps := (Keeper.walkOrder s.keeper.validatorCapabilities.keys).filterMap
    s.keeper.validatorCapabilities.lookup
  let staked := caps.filter fun cap => hasMinimumValidatorStake codec ctx.validators cap.address
  { s with
    validatorCapabilities := staked.foldl (fun updated cap =>
      updated.insert cap.address { cap with
        currentJobs := match s.validatorCapabilities.lookup cap.address with
          | some existing => existing.currentJobs
          | none => cap.currentJobs }) ∅ }

def boosted (config : SchedulerConfig) (currentBlock : Int) (sj : ScheduledJob) : ScheduledJob :=
  let waitBlocks := Int64.wrap (currentBlock - sj.submittedBlock)
  { sj with effectivePriority :=
      Int64.wrap (sj.job.priority + Int64.wrap (waitBlocks * config.priorityBoostPerBlock)) }

def updatePriorities (currentBlock : Int) : JobScheduler :=
  let jobIndex := s.jobQueue.entries.foldl (fun (jobs : JobIndex) id =>
    match jobs.lookup id with
    | some sj => jobs.insert id (boosted s.config currentBlock sj)
    | none => jobs) s.jobIndex
  { s with jobIndex, jobQueue := Heap.init (JobPriorityQueue.interface jobIndex) s.jobQueue }

def timedOut (config : SchedulerConfig) (currentBlock : Int) (sj : ScheduledJob) : Bool :=
  config.jobTimeoutBlocks < Int64.wrap (currentBlock - sj.submittedBlock)

/-- The entry leaves the queue and the index. The queue compares entries only, so the order of
the two does not matter. -/
def drop (id : String) : JobScheduler :=
  { s with
    jobQueue := s.jobQueue.removeEntry s.jobIndex id
    jobIndex := s.jobIndex.erase id }

def expire (id : String) : JobScheduler :=
  match s.jobIndex.lookup id with
  | none => s
  | some sj =>
    let s := s.drop id
    let sj := { sj with job := sj.job.attempt sj.job.markExpired }
    { s with keeper := (persistSchedulingMetadata s.keeper true sj).2 }

def removeExpiredJobs (currentBlock : Int) (order : RangeOrder String) : JobScheduler :=
  let expiredIDs := ((s.jobIndex.entries order).filter fun entry =>
    timedOut s.config currentBlock entry.2).map (·.1)
  expiredIDs.foldl expire s

structure RangeOrders where
  expired : RangeOrder String := .asGiven
  validators : RangeOrder String := .asGiven
  /-- One for each assignment the call makes. -/
  workers : Nat → RangeOrder String := fun _ => .asGiven

def selected (sj : ScheduledJob) (processing : ComputeJob) (assignment : ValidatorPool.Assignment)
    (workers : List String) (blockHeight : Int) (entropy : Bytes × EntropyMeta) : ScheduledJob :=
  { sj with
    job := processing
    assignedTo := assignment.addresses
    assignedWorkers := workers
    lastAttemptBlock := blockHeight
    vrfEntropy := Hex.encodeToString entropy.1
    vrfAssignments := assignment.records
    beaconSource := entropy.2.source
    beaconVersion := entropy.2.beaconVersion
    beaconRound := entropy.2.beaconRound
    beaconRandomness := entropy.2.beaconRandomness
    beaconSigHash := entropy.2.beaconSigHash }

/-- The loop's state: what it has popped and what it has selected. -/
structure Selection where
  scheduler : JobScheduler
  pool : ValidatorPool
  popped : List String := []
  chosen : List String := []

def tryAssign (crypto : Crypto) (blockHeight : Int) (entropy : Bytes × EntropyMeta)
    (order : RangeOrder String) (sel : Selection) (id : String) (sj : ScheduledJob) : Selection :=
  let s := sel.scheduler
  let assignment := sel.pool.assign crypto s.validatorCapabilities sj.job
    s.config.requiredValidators entropy.1
  if assignment.addresses.length < s.config.requiredValidators then
    { sel with pool := assignment.pool }
  else
    let (workers, executionWorkers) := s.executionWorkers.assign order sj.job sj.executionLane
      s.config.requiredWorkers
    if s.config.requiredWorkers > 0 ∧ workers.length < s.config.requiredWorkers then
      { sel with
        pool := assignment.pool
        scheduler := { s with
          validatorCapabilities :=
            assignment.addresses.foldl Capabilities.releaseTakenSlot assignment.caps } }
    else match sj.job.markProcessing with
      | .error _ =>
        { sel with
          pool := assignment.pool
          scheduler := { s with
            executionWorkers
            validatorCapabilities :=
              assignment.addresses.foldl Capabilities.releaseSlot assignment.caps } }
      | .ok processing =>
        let sj := selected sj processing assignment workers blockHeight entropy
        let (sj, keeper) := persistSchedulingMetadata s.keeper true sj
        { sel with
          pool := assignment.pool
          chosen := sel.chosen ++ [id]
          scheduler := { s with
            keeper
            executionWorkers
            validatorCapabilities := assignment.caps
            jobIndex := s.jobIndex.insert id sj } }

def eligible (config : SchedulerConfig) (sj : ScheduledJob) : Bool :=
  sj.job.status = .pending && !(config.enterpriseMode && sj.job.proofType ≠ .hybrid)

def consider (crypto : Crypto) (blockHeight : Int) (entropy : Bytes × EntropyMeta)
    (order : RangeOrder String) (sel : Selection) (id : String) : Selection :=
  let popped := { sel with popped := sel.popped ++ [id] }
  match sel.scheduler.jobIndex.lookup id with
  | none => popped
  | some sj =>
    if eligible sel.scheduler.config sj then
      tryAssign crypto blockHeight entropy order popped id sj
    else popped

def selectJobs (crypto : Crypto) (blockHeight : Int) (entropy : Bytes × EntropyMeta)
    (orders : RangeOrders) : Nat → Selection → Selection
  | 0, sel => sel
  | fuel + 1, sel =>
    if sel.chosen.length < sel.scheduler.config.maxJobsPerBlock then
      match Heap.pop (JobPriorityQueue.interface sel.scheduler.jobIndex)
          sel.scheduler.jobQueue with
      | none => sel
      | some (id, jobQueue) =>
        let sel := { sel with scheduler := { sel.scheduler with jobQueue } }
        selectJobs crypto blockHeight entropy orders fuel
          (consider crypto blockHeight entropy (orders.workers sel.popped.length) sel id)
    else sel

def putBack (sel : Selection) : JobScheduler :=
  sel.popped.foldl (fun s id => { s with
    jobQueue := Heap.push (JobPriorityQueue.interface s.jobIndex) s.jobQueue id }) sel.scheduler

def usableEntropy (crypto : Crypto) (s : JobScheduler) (ctx : SchedulingContext)
    (blockHeight : Int) : Option (Bytes × EntropyMeta) :=
  match assignmentEntropyFromContext crypto ctx blockHeight s.config with
  | .error _ => none
  | .ok entropy =>
    if entropy.2.source = legacySource ∧ !s.keeper.getParams.allowSimulated then none
    else some entropy

def prepare (codec : AddressCodec) (s : JobScheduler) (ctx : SchedulingContext)
    (blockHeight : Int) (orders : RangeOrders) : JobScheduler :=
  ((s.refreshValidatorCapabilities codec ctx.sdk).updatePriorities blockHeight).removeExpiredJobs
    blockHeight orders.expired

def getNextJobs (crypto : Crypto) (codec : AddressCodec) (s : JobScheduler)
    (ctx : SchedulingContext) (blockHeight : Int) (orders : RangeOrders) :
    List ComputeJob × JobScheduler :=
  let s := s.prepare codec ctx blockHeight orders
  let pool := ValidatorPool.newValidatorPool s.validatorCapabilities orders.validators
  if pool.totalAvailable < s.config.minValidatorsRequired then ([], s)
  else if s.config.requiredWorkers > 0 ∧
      s.executionWorkers.availableCount < s.config.requiredWorkers then ([], s)
  else match s.usableEntropy crypto ctx blockHeight with
    | none => ([], s)
    | some entropy =>
      let sel := selectJobs crypto blockHeight entropy orders s.jobQueue.entries.length ⟨s, pool, [], []⟩
      let s := putBack sel
      (sel.chosen.filterMap fun id => (s.jobIndex.lookup id).map (·.job), s)

def releaseSlots (sj : ScheduledJob) : JobScheduler :=
  { s with
    validatorCapabilities := sj.assignedTo.foldl Capabilities.releaseSlot s.validatorCapabilities
    executionWorkers := sj.assignedWorkers.foldl ExecutionWorkers.releaseSlot s.executionWorkers }

def markJobComplete (jobID : String) : JobScheduler :=
  match s.jobIndex.lookup jobID with
  | none => s
  | some sj => (s.drop jobID).releaseSlots sj

def markJobFailed (sdk : Bool) (jobID : String) : JobScheduler :=
  match s.jobIndex.lookup jobID with
  | none => s
  | some sj =>
    let s := s.releaseSlots sj
    let sj := { sj with
      retryCount := Int64.wrap (sj.retryCount + 1), assignedTo := [], assignedWorkers := [] }
    if sj.retryCount ≥ s.config.maxRetries then
      let s := s.drop jobID
      let sj := { sj with job := sj.job.attempt sj.job.markFailed }
      { s with keeper := (persistSchedulingMetadata s.keeper sdk sj).2 }
    else
      let sj := { sj with
        job := sj.job.attempt sj.job.requeueForRetry
        effectivePriority := Int64.wrap (sj.effectivePriority + 10) }
      let jobIndex := s.jobIndex.insert jobID sj
      let jobQueue := s.jobQueue.fixEntry jobIndex jobID
      let (sj, keeper) := persistSchedulingMetadata s.keeper sdk sj
      { s with keeper, jobQueue, jobIndex := jobIndex.insert jobID sj }

def registerValidator (capability : ValidatorCapability) : JobScheduler :=
  { s with
    validatorCapabilities := s.validatorCapabilities.insert capability.address capability }

def registerExecutionWorker (worker : ExecutionWorkerCapability) : JobScheduler :=
  if worker.id = "" then s
  else { s with executionWorkers := s.executionWorkers.insert worker.id worker }

def syncFromChain (ctx : SDKContext) : JobScheduler :=
  (s.keeper.getPendingJobs ctx).foldl (fun s job =>
    if (s.jobIndex.lookup job.id).isSome then s else s.push (SchedulingMetadata.load job)) s

end JobScheduler

/- Runs of the module: the message handlers, the statistics, and the scheduler's calls. -/

structure Environment where
  crypto : Crypto
  codec : AddressCodec

inductive KeeperOp where
  | submitJob (ctx : SDKContext) (order : RangeOrder String) (msg : MsgSubmitJob)
  | cancelJob (ctx : SDKContext) (creator jobID : String)
  | registerModel (model : RegisteredModel)
  | registerValidatorCapability (ctx : SDKContext) (msg : MsgRegisterValidatorCapability)
  | completeJob (ctx : SDKContext) (jobID : String) (outputHash : Bytes)
      (results : List VerificationResult)
  | slashUntrustedAttestation (validatorAddr : String)
  | recordSlashingEvent (validatorAddr : String) (slashBps : Int)

def orElse {ε : Type} (outcome : Except ε Keeper) (k : Keeper) : Keeper :=
  match outcome with
  | .ok next => next
  | .error _ => k

/-- What a message does to the keeper; a failed one does nothing. -/
def Keeper.step (env : Environment) (k : Keeper) : KeeperOp → Keeper
  | .submitJob ctx order msg => orElse (MsgServer.submitJob env.crypto env.codec ctx order k msg) k
  | .cancelJob ctx creator jobID => orElse (MsgServer.cancelJob ctx k creator jobID) k
  | .registerModel model => orElse (k.registerModel model) k
  | .registerValidatorCapability ctx msg =>
    orElse (MsgServer.registerValidatorCapability env.codec ctx k msg) k
  | .completeJob ctx jobID outputHash results =>
    (k.completeJob env.crypto env.codec ctx jobID outputHash results).2
  | .slashUntrustedAttestation validatorAddr => k.slashUntrustedAttestationValidator validatorAddr
  | .recordSlashingEvent validatorAddr slashBps => k.recordSlashingEvent validatorAddr slashBps

inductive SchedulerOp where
  | keeper (op : KeeperOp)
  | registerValidator (capability : ValidatorCapability)
  | registerExecutionWorker (worker : ExecutionWorkerCapability)
  | enqueueJob (ctx : SDKContext) (job : ComputeJob)
  | getNextJobs (ctx : SchedulingContext) (blockHeight : Int) (orders : JobScheduler.RangeOrders)
  | markJobComplete (jobID : String)
  /-- With or without an SDK context. -/
  | markJobFailed (sdk : Bool) (jobID : String)
  | syncFromChain (ctx : SDKContext)
  /-- A seal transaction: the job is completed and, if that worked, leaves the scheduler. -/
  | processSealTransaction (ctx : SDKContext) (jobID : String) (outputHash : Bytes)
      (results : List VerificationResult)

namespace JobScheduler

variable (env : Environment) (s : JobScheduler)

def processSealTransaction (ctx : SDKContext)
    (jobID : String) (outputHash : Bytes) (results : List VerificationResult) : JobScheduler :=
  let (outcome, keeper) := s.keeper.completeJob env.crypto env.codec ctx jobID outputHash results
  let s := { s with keeper }
  match outcome with
  | .ok () => s.markJobComplete jobID
  | .error _ => s

def step : SchedulerOp → JobScheduler
  | .keeper op => { s with keeper := s.keeper.step env op }
  | .registerValidator capability => s.registerValidator capability
  | .registerExecutionWorker worker => s.registerExecutionWorker worker
  | .enqueueJob ctx job =>
    match s.enqueueJob ctx job with
    | .ok next => next
    | .error _ => s
  | .getNextJobs ctx blockHeight orders =>
    (s.getNextJobs env.crypto env.codec ctx blockHeight orders).2
  | .markJobComplete jobID => s.markJobComplete jobID
  | .markJobFailed sdk jobID => s.markJobFailed sdk jobID
  | .syncFromChain ctx => s.syncFromChain ctx
  | .processSealTransaction ctx jobID outputHash results =>
    s.processSealTransaction env ctx jobID outputHash results

def run (ops : List SchedulerOp) : JobScheduler :=
  Run.exec (step env) s ops

end JobScheduler

end Aethelred.Pouw
