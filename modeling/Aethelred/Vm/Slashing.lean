import Aethelred.Lib.Bytes
import Aethelred.Vm.BankRun
import Mathlib.Data.Rat.Floor

/- The slashing manager (`slashing.rs`): slashes, and challenges that a committee decides. -/
namespace Vm

open Go Attempt Bytes

inductive OffenseSeverity
  | Performance | Malicious | Critical
  deriving DecidableEq

namespace OffenseSeverity

/-- In seconds. -/
def banDuration : OffenseSeverity → Nat
  | Performance => 24 * 60 * 60
  | Malicious => 30 * 24 * 60 * 60
  | Critical => 100 * 365 * 24 * 60 * 60

def isTombstone (severity : OffenseSeverity) : Bool := severity = Critical

end OffenseSeverity

inductive OffenseType
  | InvalidZkProof | ForgedTeeSignature | HardwareSpoofing | FabricatedResult
  | CommitteeManipulation
  | DoubleSign | Equivocation | VoteTampering | CollusionDetected | ResultPlagiarism
  | SlaTimeout | LateDelivery | IncompleteResult | AttestationChallengeFailure | JobAbandonment
  | LowReliability
  deriving DecidableEq

namespace OffenseType

def severity : OffenseType → OffenseSeverity
  | InvalidZkProof | ForgedTeeSignature | HardwareSpoofing | FabricatedResult
  | CommitteeManipulation => .Critical
  | DoubleSign | Equivocation | VoteTampering | CollusionDetected | ResultPlagiarism => .Malicious
  | SlaTimeout | LateDelivery | IncompleteResult | AttestationChallengeFailure | JobAbandonment
  | LowReliability => .Performance

end OffenseType

structure SlashingCondition where
  offender : Address
  offenseType : OffenseType
  blockHeight : Nat
  timestamp : Nat
  reporter : Option Address
  jobId : Option JobId

inductive ChallengeState
  | Pending | InProgress | Voting | ResolvedProverFault | ResolvedChallengerFault | Expired
  deriving DecidableEq

structure ChallengeVote where
  voter : Address
  agreesWithChallenge : Bool
  computedResultHash : Hash
  voteTime : Nat
  signature : List UInt8

structure Challenge where
  id : Hash
  jobId : JobId
  prover : Address
  challenger : Address
  originalResultHash : Hash
  createdAt : Nat
  expiresAt : Nat
  state : ChallengeState := .Pending
  committee : List Address
  committeeVotes : Map Address ChallengeVote := ∅
  challengerStakeLocked : Nat

structure BanRecord where
  address : Address
  bannedAt : Nat
  bannedUntil : Nat
  offense : OffenseType
  offenseCount : Nat
  tombstoned : Bool

structure SlashingConfig where
  enabled : Bool := true
  tier1SlashPercent : UInt8 := 100
  tier2SlashPercent : UInt8 := 50
  tier3SlashPercent : UInt8 := 5
  challengerRewardPercent : UInt8 := 50
  spamPenaltyPercent : UInt8 := 20
  challengeWindowSecs : Nat := 10 * 60
  committeeSize : Nat := 3
  committeeThreshold : ℚ := 67 / 100

namespace SlashingConfig

def slashPercentForSeverity (config : SlashingConfig) : OffenseSeverity → UInt8
  | .Critical => config.tier1SlashPercent
  | .Malicious => config.tier2SlashPercent
  | .Performance => config.tier3SlashPercent

end SlashingConfig

structure SlashingResult where
  slashedAddress : Address
  burnAmount : Nat
  reporterReward : Nat
  banUntil : Nat
  tombstoned : Bool

structure SlashingManager where
  config : SlashingConfig
  bank : Bank
  challenges : Map Hash Challenge := ∅
  bans : Map Address BanRecord := ∅
  tombstones : List Address := []
  offenseHistory : Map Address (List SlashingCondition) := ∅
  totalSlashed : Nat := 0
  totalBurned : Nat := 0

def percentOf (amount : Nat) (percent : UInt8) : Nat := mulU128 amount percent.toNat / 100

namespace Challenge

variable (challenge : Challenge)

def votesForChallenge : Nat :=
  challenge.committeeVotes.countP (·.agreesWithChallenge)

def totalVotes : Nat := challenge.committeeVotes.keys.length

/-- The share of the votes cast so far. Of no votes it is no number, and not above any threshold. -/
def Succeeds (threshold : ℚ) : Prop :=
  challenge.totalVotes ≠ 0 ∧
    (challenge.votesForChallenge : ℚ) / challenge.totalVotes ≥ threshold

instance (threshold : ℚ) : Decidable (challenge.Succeeds threshold) :=
  inferInstanceAs (Decidable (_ ∧ _))

def fault (currentTime : Nat) : SlashingCondition where
  offender := challenge.prover
  offenseType := .FabricatedResult
  blockHeight := 0
  timestamp := currentTime
  reporter := some challenge.challenger
  jobId := some challenge.jobId

def spamPenalty (config : SlashingConfig) : Nat :=
  percentOf challenge.challengerStakeLocked config.spamPenaltyPercent

def record (vote : ChallengeVote) : Challenge :=
  let votes := challenge.committeeVotes.insert vote.voter vote
  { challenge with
    committeeVotes := votes
    state := if votes.keys.length ≥ challenge.committee.length then .Voting else challenge.state }

end Challenge

namespace SlashingManager

def new (config : SlashingConfig) (bank : Bank) : SlashingManager where
  config
  bank

abbrev Call := Attempt SlashingManager SystemContractError

def onBank {α : Type} (call : Bank.Call α) : Call α :=
  within (·.bank) (fun manager bank => { manager with bank }) call

variable (manager : SlashingManager)

def getStake (address : Address) : Nat :=
  manager.bank.getLockedBalance address

def recordBan (address : Address) (bannedAt bannedUntil : Nat)
    (offense : OffenseType) (tombstoned : Bool) : SlashingManager :=
  { manager with
    tombstones := if tombstoned then manager.tombstones.insert address else manager.tombstones
    bans := manager.bans.insert address
      { address, bannedAt, bannedUntil, offense, tombstoned
        offenseCount :=
          match manager.bans.lookup address with
          | some ban => (ban.offenseCount + 1) % 2 ^ 32
          | none => 1 } }

def banUntil (severity : OffenseSeverity) (currentTime : Nat) : Nat :=
  if severity.isTombstone then MAX_U64 else addU64 currentTime severity.banDuration

variable (condition : SlashingCondition)

def recordSlash (slashAmount burnAmount : Nat) : SlashingManager :=
  let severity := condition.offenseType.severity
  let manager := { manager with
    totalSlashed := addU128 manager.totalSlashed slashAmount
    totalBurned := addU128 manager.totalBurned burnAmount }
  let manager := manager.recordBan condition.offender condition.timestamp
    (banUntil severity condition.timestamp) condition.offenseType severity.isTombstone
  { manager with
    offenseHistory := manager.offenseHistory.insert condition.offender
      (manager.offenseHistory.get condition.offender [] ++ [condition]) }

def payReporter (reward : Nat) : Call Nat :=
  match condition.reporter with
  | some reporter => do
      onBank (Bank.transfer condition.offender reporter reward)
      return reward
  | none => return 0

def executeSlash : Call SlashingResult := do
  let manager ← read
  ensure (manager.config.enabled = true) (.Slashing "Slashing is disabled")
  ensure (condition.offender ∉ manager.tombstones) (.Slashing "Address is already tombstoned")
  let severity := condition.offenseType.severity
  let stake := manager.getStake condition.offender
  ensure (stake ≠ 0) (.Slashing "Offender has no stake")
  let slashAmount := percentOf stake (manager.config.slashPercentForSeverity severity)
  let reporterReward ← payReporter condition
    (percentOf slashAmount manager.config.challengerRewardPercent)
  let burnAmount := subU128 slashAmount reporterReward
  onBank (Bank.burn condition.offender burnAmount)
  modify fun manager => manager.recordSlash condition slashAmount burnAmount
  return {
    slashedAddress := condition.offender
    burnAmount, reporterReward
    banUntil := banUntil severity condition.timestamp
    tombstoned := severity.isTombstone }

section Committee

variable (sha256 : List UInt8 → Hash)

def generateChallengeId (jobId : JobId) (challenger : Address) (timestamp : Nat) : Hash :=
  sha256 (bigEndian 32 jobId ++ bigEndian 32 challenger ++
    littleEndian 8 timestamp)

/-- The first eight bytes of a hash as a `u64`, lowest byte first. -/
def leadingU64 (hash : Hash) : Nat :=
  ((bigEndian 32 hash).take 8).foldr (fun byte rest => byte.toNat + 256 * rest) 0

def freeIndex (used : List Nat) (size : Nat) : (fuel index : Nat) → Nat
  | 0, index => index
  | fuel + 1, index =>
    if index ∈ used then freeIndex used size fuel ((index + 1) % size) else index

def nextIndex (size : Nat) (challengeId : Hash) (used : List Nat) (i : Nat) : Nat :=
  freeIndex used size size
    (leadingU64 (sha256 (bigEndian 32 challengeId ++ littleEndian 4 (i % 2 ^ 32))) %
      size)

def committeeIndices (size : Nat) (challengeId : Hash) : Nat → List Nat
  | 0 => []
  | count + 1 =>
    let used := committeeIndices size challengeId count
    used ++ [nextIndex sha256 size challengeId used count]

def randomIndices (size : Nat) (randomness : List UInt8) : Nat → List Nat
  | 0 => []
  | count + 1 =>
    let used := randomIndices size randomness count
    used ++ [freeIndex used size size
      (leadingU64 (sha256 (randomness ++ littleEndian 4 (count % 2 ^ 32))) % size)]

def selectRandomNodes (available : List Address) (count : Nat) (randomness : List UInt8) :
    List Address :=
  if available.length ≤ count then available
  else (randomIndices sha256 available.length randomness count).map fun index =>
    available.getD index 0

def notEnoughNodes (need have_ : Nat) : String :=
  s!"Not enough nodes for committee (need {need}, have {have_})"

def selectCommittee (config : SlashingConfig) (available : List Address) (challengeId : Hash) :
    Except SystemContractError (List Address) :=
  if available.length < config.committeeSize then
    .error (.Slashing (notEnoughNodes config.committeeSize available.length))
  else
    .ok ((committeeIndices sha256 available.length challengeId config.committeeSize).map
      fun index => available.getD index 0)

def submitChallenge (challenger : Address) (jobId : JobId) (prover : Address)
    (originalResultHash : Hash) (challengerStake currentTime : Nat)
    (availableCommittee : List Address) : Call Hash := do
  let manager ← read
  ensure (challengerStake ≤ manager.getStake challenger)
    (.Slashing "Challenger has insufficient stake")
  onBank (Bank.lock challenger challengerStake)
  let challengeId := generateChallengeId sha256 jobId challenger currentTime
  let committee ← ofExcept (selectCommittee sha256 manager.config availableCommittee challengeId)
  modify fun manager => { manager with
    challenges := manager.challenges.insert challengeId
      { id := challengeId
        jobId, prover, challenger, originalResultHash, committee
        createdAt := currentTime
        expiresAt := addU64 currentTime manager.config.challengeWindowSecs
        challengerStakeLocked := challengerStake } }
  return challengeId

def submitCommitteeVote (challengeId : Hash) (vote : ChallengeVote) : Call Unit := do
  let manager ← read
  let challenge ← okOr (manager.challenges.lookup challengeId) (.Slashing "Challenge not found")
  ensure (vote.voter ∈ challenge.committee) (.Slashing "Voter is not in committee")
  ensure (challenge.committeeVotes.lookup vote.voter = none) (.Slashing "Voter has already voted")
  modify fun manager => { manager with
    challenges := manager.challenges.insert challengeId (challenge.record vote) }

def settle (challenge : Challenge) (currentTime : Nat) : Call SlashingResult := do
  let manager ← read
  if currentTime > challenge.expiresAt then
    onBank (Bank.unlock challenge.challenger challenge.challengerStakeLocked)
    fail (.Slashing "Challenge expired")
  else if challenge.Succeeds manager.config.committeeThreshold then
    onBank (Bank.unlock challenge.challenger challenge.challengerStakeLocked)
    executeSlash (challenge.fault currentTime)
  else
    let spamPenalty := challenge.spamPenalty manager.config
    onBank (Bank.unlock challenge.challenger challenge.challengerStakeLocked)
    onBank (Bank.burn challenge.challenger spamPenalty)
    return {
      slashedAddress := challenge.challenger
      burnAmount := spamPenalty
      reporterReward := 0
      banUntil := 0
      tombstoned := false }

def finalizeChallenge (challengeId : Hash) (currentTime : Nat) : Call SlashingResult := do
  let manager ← read
  let challenge ← okOr (manager.challenges.lookup challengeId) (.Slashing "Challenge not found")
  modify fun manager => { manager with challenges := manager.challenges.erase challengeId }
  settle challenge currentTime

end Committee

end SlashingManager

end Vm
