import Aethelred.Pouw.JobKeeper

/- Block misses, votes that contradict each other, and the slashing of both. -/
namespace Aethelred.Pouw

open Go

structure BlockMissConfig where
  participationWindow : Int
  maxMissedBlocks : Int
  jailThreshold : Int

def BlockMissConfig.default : BlockMissConfig where
  participationWindow := 10000
  maxMissedBlocks := 500
  jailThreshold := 1000

inductive DowntimeAction where
  | none
  | slash
  | jail
deriving DecidableEq

structure DowntimePenalty where
  validatorAddress : String
  missedBlocks : Int
  action : DowntimeAction
  blockHeight : Int

/-- The heights each validator missed, in the order they were recorded. -/
structure BlockMissTracker where
  missedBlocks : Map String (List Int) := ∅

namespace BlockMissTracker

variable (config : BlockMissConfig)

def cutoff (currentHeight : Int) : Int := Int64.wrap (currentHeight - config.participationWindow)

variable (t : BlockMissTracker) (validatorAddr : String)

def pruneOldMisses (currentHeight : Int) : BlockMissTracker :=
  let misses := t.missedBlocks.get validatorAddr []
  if misses.length = 0 then t
  else
    let newMisses := misses.filter fun h => cutoff config currentHeight < h
    { missedBlocks := t.missedBlocks.insert validatorAddr newMisses }

variable (blockHeight : Int)

def recordMiss : BlockMissTracker :=
  let appended : BlockMissTracker :=
    { missedBlocks := t.missedBlocks.update validatorAddr [] (· ++ [blockHeight]) }
  appended.pruneOldMisses config validatorAddr blockHeight

def recordParticipation : BlockMissTracker :=
  t.pruneOldMisses config validatorAddr blockHeight

def penaltyFor (validatorAddr : String) (misses : List Int) : Option DowntimePenalty :=
  let missCount : Int := misses.length
  if config.jailThreshold ≤ missCount then some ⟨validatorAddr, missCount, .jail, blockHeight⟩
  else if config.maxMissedBlocks ≤ missCount then
    some ⟨validatorAddr, missCount, .slash, blockHeight⟩
  else none

def checkAndApplyDowntimePenalties (order : RangeOrder String) : List DowntimePenalty :=
  (order.order t.missedBlocks.keys).filterMap fun validatorAddr =>
    penaltyFor config blockHeight validatorAddr (t.missedBlocks.get validatorAddr [])

end BlockMissTracker

structure VoteRecord where
  voteHash : Bytes
  extensionHash : Bytes
  jobIDs : List String
  outputHashes : Map String Bytes

structure EquivocationEvidence where
  validatorAddress : String
  blockHeight : Int
  vote1 : VoteRecord
  vote2 : VoteRecord
  evidenceHash : Bytes

/-- The votes kept for each validator and height, and the evidence that is not processed yet. -/
structure DoubleVotingDetector where
  voteHistory : Map String (Map Int (List VoteRecord)) := ∅
  detectedEquivocations : List EquivocationEvidence := []

def sortedJobIDs (jobOutputs : Map String Bytes) : List String :=
  jobOutputs.keys.insertionSort (· ≤ ·)

def computeVoteHash (crypto : Crypto) (jobOutputs : Map String Bytes) : Bytes :=
  crypto.sha256 (utf8 "aethelred_vote_hash_v1:" ++ (sortedJobIDs jobOutputs).flatMap fun jobID =>
    utf8 jobID ++ jobOutputs.get jobID (List.replicate 32 0))

def computeEvidenceHash (crypto : Crypto) (validatorAddress : String) (blockHeight : Int)
    (vote1 vote2 : VoteRecord) : Bytes :=
  crypto.sha256 (utf8 "aethelred_equivocation_v1:" ++ utf8 validatorAddress ++
    bigEndian64 blockHeight ++ vote1.voteHash ++ vote2.voteHash)

namespace DoubleVotingDetector

variable (d : DoubleVotingDetector)

def votesAt (validatorAddr : String) (blockHeight : Int) : List VoteRecord :=
  (d.voteHistory.get validatorAddr ∅).get blockHeight []

variable (crypto : Crypto)

def newVote (extensionHash : Bytes) (jobOutputs : Map String Bytes) : VoteRecord where
  voteHash := computeVoteHash crypto jobOutputs
  extensionHash := extensionHash
  jobIDs := sortedJobIDs jobOutputs
  outputHashes := jobOutputs

def evidenceOf (validatorAddr : String) (blockHeight : Int)
    (vote1 vote2 : VoteRecord) : EquivocationEvidence where
  validatorAddress := validatorAddr
  blockHeight := blockHeight
  vote1 := vote1
  vote2 := vote2
  evidenceHash := computeEvidenceHash crypto validatorAddr blockHeight vote1 vote2

def recordVote (d : DoubleVotingDetector) (validatorAddr : String)
    (blockHeight : Int) (extensionHash : Bytes) (jobOutputs : Map String Bytes) :
    Option EquivocationEvidence × DoubleVotingDetector :=
  let vote := newVote crypto extensionHash jobOutputs
  let existingVotes := d.votesAt validatorAddr blockHeight
  match existingVotes.find? fun existingVote => existingVote.voteHash ≠ vote.voteHash with
  | some existingVote =>
    let evidence := evidenceOf crypto validatorAddr blockHeight existingVote vote
    (some evidence,
      { d with detectedEquivocations := d.detectedEquivocations ++ [evidence] })
  | none =>
    (none, { d with
      voteHistory := d.voteHistory.update validatorAddr ∅ fun heights =>
        heights.insert blockHeight (existingVotes ++ [vote]) })

def getPendingEquivocations : List EquivocationEvidence :=
  d.detectedEquivocations

def clearProcessedEquivocations (evidenceHashes : List Bytes) : DoubleVotingDetector :=
  { d with detectedEquivocations := d.detectedEquivocations.filter fun evidence =>
      evidence.evidenceHash ∉ evidenceHashes }

def pruneHeights (cutoffHeight : Int) (heights : Map Int (List VoteRecord)) :
    Map Int (List VoteRecord) :=
  heights.keys.foldl (fun kept height =>
    if height < cutoffHeight then kept.erase height else kept) heights

def pruneOldHistory (cutoffHeight : Int) : DoubleVotingDetector :=
  { d with voteHistory := d.voteHistory.keys.foldl (fun history validatorAddr =>
      let kept := pruneHeights cutoffHeight (history.get validatorAddr ∅)
      if kept.keys.length = 0 then history.erase validatorAddr
      else history.insert validatorAddr kept) d.voteHistory }

end DoubleVotingDetector

/-- Penalties in basis points, jail times in nanoseconds. -/
structure EvidenceSlashingConfig where
  doubleSignSlashBps : Int
  downtimeSlashBps : Int
  doubleSignJailDuration : Int
  downtimeJailDuration : Int

def EvidenceSlashingConfig.default : EvidenceSlashingConfig where
  doubleSignSlashBps := 5000
  downtimeSlashBps := 500
  doubleSignJailDuration := 30 * 24 * 3600 * 10 ^ 9
  downtimeJailDuration := 24 * 3600 * 10 ^ 9

inductive SlashReason where
  | doubleSign
  | invalidOutput
  | downtime
  | collusion
  | fakeAttestation
deriving DecidableEq

structure SlashResult where
  validatorAddress : String
  slashedAmount : Int
  slashBps : Int
  reason : SlashReason
  jailed : Bool
  jailDuration : Int
  blockHeight : Int
  evidenceHash : Bytes

def Keeper.getValidatorStake (k : Keeper) (validatorAddr : String) : Int :=
  match k.validatorStats.lookup validatorAddr with
  | none => 1000000
  | some stats => Int64.wrap (stats.reputationScore * 10000)

namespace SlashingIntegration

variable (crypto : Crypto) (config : EvidenceSlashingConfig) (blockHeight : Int)

def processDoubleSignEvidence (k : Keeper) (evidence : EquivocationEvidence) :
    SlashResult × Keeper :=
  let stake := k.getValidatorStake evidence.validatorAddress
  let result : SlashResult := {
    validatorAddress := evidence.validatorAddress
    slashedAmount := (stake * config.doubleSignSlashBps).tdiv 10000
    slashBps := config.doubleSignSlashBps
    reason := .doubleSign
    jailed := true
    jailDuration := config.doubleSignJailDuration
    blockHeight := blockHeight
    evidenceHash := evidence.evidenceHash }
  (result, k.recordSlashingEvent result.validatorAddress result.slashBps)

def processDowntimeEvidence (k : Keeper) (penalty : DowntimePenalty) : SlashResult × Keeper :=
  let stake := k.getValidatorStake penalty.validatorAddress
  let result : SlashResult := {
    validatorAddress := penalty.validatorAddress
    slashedAmount := (stake * config.downtimeSlashBps).tdiv 10000
    slashBps := config.downtimeSlashBps
    reason := .downtime
    jailed := penalty.action = .jail
    jailDuration := config.downtimeJailDuration
    blockHeight := blockHeight
    evidenceHash := crypto.sha256 (utf8 ("downtime:" ++ penalty.validatorAddress ++ ":" ++
      Strconv.formatInt penalty.blockHeight)) }
  (result, k.recordSlashingEvent result.validatorAddress result.slashBps)

end SlashingIntegration

structure EvidenceProcessor where
  blockMissTracker : BlockMissTracker := {}
  doubleVotingDetector : DoubleVotingDetector := {}

/-- What the processing of a block's evidence did; each slash for an equivocation stands beside its
evidence. -/
structure EvidenceProcessingResult where
  blockHeight : Int
  downtimePenalties : List SlashResult := []
  equivocationSlashes : List (EquivocationEvidence × SlashResult) := []

namespace EvidenceProcessor

variable (crypto : Crypto) (blockMissConfig : BlockMissConfig)
  (slashingConfig : EvidenceSlashingConfig) (blockHeight : Int)

def slashDowntime (state : List SlashResult × Keeper) (penalty : DowntimePenalty) :
    List SlashResult × Keeper :=
  let (result, k) := SlashingIntegration.processDowntimeEvidence crypto slashingConfig blockHeight
    state.2 penalty
  (state.1 ++ [result], k)

def slashEquivocation (state : List (EquivocationEvidence × SlashResult) × Keeper)
    (evidence : EquivocationEvidence) : List (EquivocationEvidence × SlashResult) × Keeper :=
  let (result, k) := SlashingIntegration.processDoubleSignEvidence slashingConfig blockHeight
    state.2 evidence
  (state.1 ++ [(evidence, result)], k)

def processEndBlockEvidence (ep : EvidenceProcessor) (k : Keeper) (order : RangeOrder String) :
    EvidenceProcessingResult × EvidenceProcessor × Keeper :=
  let penalties :=
    ep.blockMissTracker.checkAndApplyDowntimePenalties blockMissConfig blockHeight order
  let (downtimePenalties, k) := penalties.foldl
    (slashDowntime crypto slashingConfig blockHeight) ([], k)
  let (equivocationSlashes, k) := ep.doubleVotingDetector.getPendingEquivocations.foldl
    (slashEquivocation slashingConfig blockHeight) ([], k)
  let processedHashes := equivocationSlashes.map fun slash => slash.1.evidenceHash
  let detector := if 0 < processedHashes.length
    then ep.doubleVotingDetector.clearProcessedEquivocations processedHashes
    else ep.doubleVotingDetector
  let detector := detector.pruneOldHistory (Int64.wrap (blockHeight - 1000))
  (⟨blockHeight, downtimePenalties, equivocationSlashes⟩,
    { ep with doubleVotingDetector := detector }, k)

def recordValidatorParticipation (ep : EvidenceProcessor) (validatorAddr : String)
    (extensionHash : Bytes) (jobOutputs : Map String Bytes) :
    Option EquivocationEvidence × EvidenceProcessor :=
  let tracker := ep.blockMissTracker.recordParticipation blockMissConfig validatorAddr blockHeight
  let (evidence, detector) := ep.doubleVotingDetector.recordVote crypto validatorAddr blockHeight
    extensionHash jobOutputs
  (evidence, { blockMissTracker := tracker, doubleVotingDetector := detector })

theorem foldl_slashDowntime (penalties : List DowntimePenalty) (done : List SlashResult)
    (k : Keeper) :
    ((penalties.foldl (slashDowntime crypto slashingConfig blockHeight) (done, k)).1.map
        SlashResult.validatorAddress) =
      done.map SlashResult.validatorAddress ++ penalties.map DowntimePenalty.validatorAddress := by
  induction penalties generalizing done k with
  | nil => simp
  | cons penalty rest ih =>
    rw [List.foldl_cons, slashDowntime]
    dsimp only
    rw [ih]
    simp [SlashingIntegration.processDowntimeEvidence]

theorem foldl_slashEquivocation (pending : List EquivocationEvidence)
    (done : List (EquivocationEvidence × SlashResult)) (k : Keeper) :
    (pending.foldl (slashEquivocation slashingConfig blockHeight) (done, k)).1.map Prod.fst =
      done.map Prod.fst ++ pending := by
  induction pending generalizing done k with
  | nil => simp
  | cons evidence rest ih =>
    rw [List.foldl_cons, slashEquivocation]
    dsimp only
    rw [ih]
    simp

end EvidenceProcessor

end Aethelred.Pouw
