import Aethelred.Pouw.JobKeeper
import Aethelred.Go.Heap

/- Validator pools by proof type, and the assignment of validators to a job. -/
namespace Aethelred.Pouw

open Go

abbrev Capabilities := Map String ValidatorCapability

structure VRFAssignmentRecord where
  validatorAddress : String
  publicKey : String
  alpha : String
  outputHash : String
  proofGamma : String
  proofChallenge : String
  proofResponse : String
  verified : Bool

def vrfAssignmentVersion : String := "pouw-vrf-v1"

def ProofType.string : ProofType → String
  | .unspecified => "PROOF_TYPE_UNSPECIFIED"
  | .tee => "PROOF_TYPE_TEE"
  | .zkml => "PROOF_TYPE_ZKML"
  | .hybrid => "PROOF_TYPE_HYBRID"
  | .reexecution => "PROOF_TYPE_REEXECUTION"
  | .aiProof => "PROOF_TYPE_AI_PROOF"
  | .unknown code => Strconv.formatInt code

def buildAssignmentAlphaRoot (crypto : Crypto) (job : ComputeJob) (entropy : Bytes) : Bytes :=
  crypto.sha256 (utf8 vrfAssignmentVersion ++ utf8 job.id ++ utf8 job.proofType.string ++
    job.modelHash ++ job.inputHash ++ entropy)

structure ScoredCandidate where
  address : String
  score : Bytes
  record : VRFAssignmentRecord

def scoreCandidateWithVRF (crypto : Crypto) (alphaRoot : Bytes) (address : String) :
    Option ScoredCandidate :=
  if address = "" then none
  else
    let seedInput := crypto.sha256 (alphaRoot ++ utf8 address)
    let publicKey := crypto.ed25519Public seedInput
    let alpha := crypto.sha256 (alphaRoot ++ utf8 ("|" ++ address))
    let proofSignature := crypto.ed25519Sign seedInput alpha
    if crypto.ed25519Verify publicKey alpha proofSignature then
      let outputHash := crypto.sha256 proofSignature
      some {
        address := address
        score := outputHash
        record := {
          validatorAddress := address
          publicKey := Hex.encodeToString publicKey
          alpha := Hex.encodeToString alpha
          outputHash := Hex.encodeToString outputHash
          proofGamma := Hex.encodeToString (proofSignature.take 32)
          proofChallenge := Hex.encodeToString ((proofSignature.drop 32).take 32)
          proofResponse := Hex.encodeToString proofSignature
          verified := true } }
    else none

def bytesLess : Bytes → Bytes → Bool
  | a :: as, b :: bs => if a = b then bytesLess as bs else a < b
  | [], b => b ≠ []
  | _ :: _, [] => false

/-- By score, then by address. -/
def scoreOrder (left right : ScoredCandidate) : Prop :=
  if left.score ≠ right.score then bytesLess left.score right.score = true
  else left.address ≤ right.address

instance : DecidableRel scoreOrder := fun left right =>
  inferInstanceAs (Decidable (if left.score ≠ right.score then _ else _))

namespace Capabilities

def free (cap : ValidatorCapability) : Bool :=
  cap.isOnline && cap.currentJobs < cap.maxConcurrentJobs

variable (caps : Capabilities) (address : String)

def freeAt : Bool :=
  match caps.lookup address with
  | some cap => free cap
  | none => false

/-- Changes the counter of a tracked validator. A counter is raised below its limit only, so it
stays within its type. -/
def count (change : Int → Int) : Capabilities :=
  match caps.lookup address with
  | some cap => caps.insert address { cap with currentJobs := change cap.currentJobs }
  | none => caps

def takeSlot : Capabilities :=
  caps.count address fun current => current + 1

def releaseSlot : Capabilities :=
  caps.count address fun current => current - 1

def releaseTakenSlot : Capabilities :=
  caps.count address fun current => if current > 0 then current - 1 else current

end Capabilities

abbrev ValidatorHeap := List String

namespace ValidatorHeap

def reputation (caps : Capabilities) (address : String) : Int :=
  ((caps.lookup address).map (·.reputationScore)).getD 0

def less (caps : Capabilities) (h : ValidatorHeap) (i j : Nat) : Bool :=
  let left := h.getD i ""
  let right := h.getD j ""
  if reputation caps left ≠ reputation caps right then
    reputation caps left > reputation caps right
  else left < right

def swap (h : ValidatorHeap) (i j : Nat) : ValidatorHeap :=
  match h[i]?, h[j]? with
  | some left, some right => (h.set i right).set j left
  | _, _ => h

def pop (h : ValidatorHeap) : Option (String × ValidatorHeap) :=
  h.getLast?.map fun last => (last, h.dropLast)

def interface (caps : Capabilities) : Heap.Interface ValidatorHeap String where
  len := List.length
  less := less caps
  swap := swap
  push h address := h ++ [address]
  pop := pop

/-- `for h.Len() > 0`: everything, in the order it is popped. -/
def popAll (caps : Capabilities) : Nat → ValidatorHeap → List String
  | 0, _ => []
  | fuel + 1, h =>
    match Heap.pop (interface caps) h with
    | some (address, rest) => address :: popAll caps fuel rest
    | none => []

def reinsertAvailable (caps : Capabilities) (h : ValidatorHeap) (candidates : List String) :
    ValidatorHeap :=
  candidates.foldl (fun h address =>
    if caps.freeAt address then Heap.push (interface caps) h address else h) h

end ValidatorHeap

structure ValidatorPool where
  totalAvailable : Nat
  tee : ValidatorHeap
  zkml : ValidatorHeap
  hybrid : ValidatorHeap

namespace ValidatorPool

def newValidatorPool (caps : Capabilities) (order : RangeOrder String) : ValidatorPool :=
  let candidates := ((caps.entries order).map (·.2)).filter fun cap =>
    cap.address ≠ "" && Capabilities.free cap
  let heapOf (supports : ValidatorCapability → Bool) : ValidatorHeap :=
    Heap.init (ValidatorHeap.interface caps) ((candidates.filter supports).map (·.address))
  { totalAvailable := candidates.length
    tee := heapOf fun cap => cap.teePlatforms ≠ []
    zkml := heapOf fun cap => cap.zkmlSystems ≠ []
    hybrid := heapOf fun cap => cap.teePlatforms ≠ [] && cap.zkmlSystems ≠ [] }

def heapForProofType (p : ValidatorPool) : ProofType → Option ValidatorHeap
  | .tee => some p.tee
  | .zkml => some p.zkml
  | .hybrid => some p.hybrid
  | _ => none

def setHeap (p : ValidatorPool) (proofType : ProofType) (h : ValidatorHeap) : ValidatorPool :=
  match proofType with
  | .tee => { p with tee := h }
  | .zkml => { p with zkml := h }
  | .hybrid => { p with hybrid := h }
  | _ => p

def scored (crypto : Crypto) (caps : Capabilities) (job : ComputeJob) (entropy : Bytes)
    (popped : List String) : List ScoredCandidate :=
  (popped.filter caps.freeAt).filterMap
    (scoreCandidateWithVRF crypto (buildAssignmentAlphaRoot crypto job entropy))

structure Assignment where
  addresses : List String
  records : List VRFAssignmentRecord
  pool : ValidatorPool
  caps : Capabilities

/-- The `required` best scores of the job's pool, if it has that many. -/
def assign (crypto : Crypto) (p : ValidatorPool) (caps : Capabilities) (job : ComputeJob)
    (required : Int) (entropy : Bytes) : Assignment :=
  let unassigned : Assignment := ⟨[], [], p, caps⟩
  if required ≤ 0 then unassigned
  else match p.heapForProofType job.proofType with
    | none => unassigned
    | some h =>
      if h.length = 0 then unassigned
      else
        let popped := ValidatorHeap.popAll caps h.length h
        let candidates := scored crypto caps job entropy popped
        if (popped.filter caps.freeAt).length < required ∨ candidates.length < required then
          { unassigned with
            pool := p.setHeap job.proofType (ValidatorHeap.reinsertAvailable caps [] popped) }
        else
          let selected := (candidates.insertionSort scoreOrder).take required.toNat
          let addresses := selected.map (·.address)
          let taken := addresses.foldl Capabilities.takeSlot caps
          { addresses := addresses
            records := selected.map (·.record)
            pool := p.setHeap job.proofType (ValidatorHeap.reinsertAvailable taken [] popped)
            caps := taken }

end ValidatorPool

end Aethelred.Pouw

/- Execution lanes, and the pool of attested workers that serve them. -/
namespace Aethelred.Pouw

open Go Go.Strings

inductive ExecutionLane where
  | unset
  | fastSmallModel
  | mediumEnterprise
  | heavyProofLargeModel
  /-- A lane a worker may name but no job has. -/
  | other (name : String)
deriving DecidableEq

def ExecutionLane.text : ExecutionLane → String
  | .unset => ""
  | .fastSmallModel => "fast-small-model"
  | .mediumEnterprise => "medium-enterprise-scoring"
  | .heavyProofLargeModel => "heavy-proof-large-model"
  | .other name => name

structure UnknownLane where
  raw : String

def parseExecutionLane (raw : String) : Except UnknownLane ExecutionLane :=
  let lane := trimSpace raw
  if lane = ExecutionLane.text .fastSmallModel then .ok .fastSmallModel
  else if lane = ExecutionLane.text .mediumEnterprise then .ok .mediumEnterprise
  else if lane = ExecutionLane.text .heavyProofLargeModel then .ok .heavyProofLargeModel
  else .error ⟨raw⟩

def joinJobMetadata (job : ComputeJob) : String :=
  " ".intercalate ((job.metadata.keys.insertionSort (· ≤ ·)).map fun key =>
    key ++ "=" ++ job.metadata.get key "")

def containsAny (text : String) (needles : List String) : Bool := needles.any (contains text ·)

def heavyProofHints : List String :=
  ["recursive", "heavy-proof", "large-model", "proof-heavy", "batch-proof", "genomics",
    "radiology", "foundation-model"]

def enterpriseHints : List String :=
  ["credit", "scoring", "score", "risk", "fraud", "underwriting", "compliance", "classification",
    "claims", "decisioning"]

def laneKeys : List String :=
  ["scheduler.execution_lane", "execution_lane", "workload.pack_lane", "workload_lane"]

def resolveExecutionLane (job : ComputeJob) : Except UnknownLane ExecutionLane :=
  match laneKeys.find? fun key => trimSpace (job.metadata.get key "") ≠ "" with
  | some key => parseExecutionLane (trimSpace (job.metadata.get key ""))
  | none =>
    let text := toLower (trimSpace job.purpose ++ " " ++ joinJobMetadata job)
    if containsAny text heavyProofHints then .ok .heavyProofLargeModel
    else if containsAny text enterpriseHints then .ok .mediumEnterprise
    else .ok .fastSmallModel

structure ExecutionWorkerCapability where
  id : String
  lane : ExecutionLane
  teePlatforms : List String
  zkmlSystems : List String
  maxConcurrentJobs : Int
  currentJobs : Int
  isOnline : Bool
  attested : Bool

def ExecutionWorkerCapability.canServe (w : ExecutionWorkerCapability) (job : ComputeJob)
    (lane : ExecutionLane) : Bool :=
  w.isOnline && w.attested && 0 < w.maxConcurrentJobs && w.currentJobs < w.maxConcurrentJobs &&
    w.lane = lane &&
    match job.proofType with
    | .tee => w.teePlatforms ≠ []
    | .zkml => w.zkmlSystems ≠ []
    | .hybrid => w.teePlatforms ≠ [] && w.zkmlSystems ≠ []
    | _ => false

/-- By load, then by id. -/
def workerOrder (left right : ExecutionWorkerCapability) : Prop :=
  if left.currentJobs ≠ right.currentJobs then left.currentJobs < right.currentJobs
  else left.id ≤ right.id

instance : DecidableRel workerOrder := fun left right =>
  inferInstanceAs (Decidable (if left.currentJobs ≠ right.currentJobs then _ else _))

abbrev ExecutionWorkers := Map String ExecutionWorkerCapability

namespace ExecutionWorkers

def available (w : ExecutionWorkerCapability) : Bool :=
  w.isOnline && w.attested && w.currentJobs < w.maxConcurrentJobs

variable (workers : ExecutionWorkers)

def availableCount : Nat :=
  (workers.entries .asGiven).countP fun entry => available entry.2

variable (id : String)

def count (change : Int → Int) : ExecutionWorkers :=
  match workers.lookup id with
  | some worker => workers.insert id { worker with currentJobs := change worker.currentJobs }
  | none => workers

def takeSlot : ExecutionWorkers :=
  workers.count id fun current => current + 1

def releaseSlot : ExecutionWorkers :=
  workers.count id fun current => if current > 0 then current - 1 else current

def assign (order : RangeOrder String) (job : ComputeJob)
    (lane : ExecutionLane) (required : Int) : List String × ExecutionWorkers :=
  if required ≤ 0 then ([], workers)
  else
    let candidates := ((workers.entries order).map (·.2)).filter (·.canServe job lane)
    if candidates.length < required then ([], workers)
    else
      let assigned := ((candidates.insertionSort workerOrder).take required.toNat).map (·.id)
      (assigned, assigned.foldl takeSlot workers)

end ExecutionWorkers

end Aethelred.Pouw
