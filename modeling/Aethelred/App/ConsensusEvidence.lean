import Aethelred.Pouw.Seal
import Mathlib.Data.Rat.Floor
import Aethelred.Lib.Quorum

/- A node's cache of verified vote extensions. -/
namespace Aethelred.App

open Go Aethelred.Pouw List Json

abbrev CommitInfo := List AbciValidator

structure VoteExtensionCache where
  byHeight : Map Int (Map String RawExtension) := ∅
  maxHeights : Nat
  chainID : String

namespace VoteExtensionCache

def new (maxHeights : Int) (chainID : String) : VoteExtensionCache where
  maxHeights := if maxHeights ≤ 0 then 4 else maxHeights.toNat
  chainID := chainID

variable (c : VoteExtensionCache)

def cacheKey (validatorAddr : Bytes) : String :=
  c.chainID ++ ":" ++ Hex.encodeToString validatorAddr

def prune : VoteExtensionCache :=
  if c.byHeight.keys.length ≤ c.maxHeights then c
  else
    let heights := c.byHeight.keys.insertionSort (· ≤ ·)
    { c with
      byHeight := (heights.take (heights.length - c.maxHeights)).foldl (fun m h => m.erase h)
        c.byHeight }

variable (height : Int)

def store (validatorAddr : Bytes) (extension : RawExtension) : VoteExtensionCache :=
  if height ≤ 0 ∨ validatorAddr = [] then c
  else
    let atHeight := c.byHeight.get height ∅
    prune { c with
      byHeight := c.byHeight.insert height (atHeight.insert (c.cacheKey validatorAddr) extension) }

def cached (validatorAddr : Bytes) : Option RawExtension :=
  if validatorAddr = [] then none
  else (c.byHeight.lookup height).bind fun byValidator => byValidator.lookup (c.cacheKey validatorAddr)

def buildExtendedVotes (votes : CommitInfo) : List ExtendedVoteInfo × Nat :=
  votes.foldl (fun built validator =>
    match c.cached height validator.address with
    | some extension => (built.1 ++ [⟨validator, extension⟩], built.2 + 1)
    | none => (built.1 ++ [⟨validator, .empty⟩], built.2)) ([], 0)

def rebuilt (validator : AbciValidator) : ExtendedVoteInfo :=
  ⟨validator, (c.cached height validator.address).getD .empty⟩

/-- The cache is asked once for each vote, and the hits are counted. -/
theorem buildExtendedVotes_eq (votes : CommitInfo) :
    c.buildExtendedVotes height votes =
      (votes.map (c.rebuilt height),
        votes.countP fun validator => (c.cached height validator.address).isSome) := by
  have built : ∀ start : List ExtendedVoteInfo × Nat,
      votes.foldl (fun built validator =>
        match c.cached height validator.address with
        | some extension => (built.1 ++ [⟨validator, extension⟩], built.2 + 1)
        | none => (built.1 ++ [⟨validator, .empty⟩], built.2)) start =
      (start.1 ++ votes.map (c.rebuilt height),
        start.2 + votes.countP fun validator => (c.cached height validator.address).isSome) := by
    induction votes with
    | nil => simp
    | cons validator rest ih =>
      intro start
      rw [foldl_cons, ih]
      cases found : c.cached height validator.address with
      | none => simp [found, rebuilt]
      | some extension =>
        simp only [found, rebuilt, Option.getD_some, map_cons, append_assoc,
          cons_append, nil_append, Option.isSome_some, countP_cons,
          ↓reduceIte, Prod.mk.injEq, true_and]
        omega
  have whole := built ([], 0)
  simp only [nil_append, Nat.zero_add] at whole
  exact whole

/-- The node rebuilds these very votes. -/
def Holds (votes : List ExtendedVoteInfo) : Prop :=
  ∀ vote ∈ votes, (c.cached height vote.validator.address).getD .empty = vote.voteExtension

theorem Holds.rebuilds {c : VoteExtensionCache} {height : Int} {votes : List ExtendedVoteInfo}
    (holds : c.Holds height votes) :
    (c.buildExtendedVotes height (votes.map ExtendedVoteInfo.validator)).1 = votes := by
  rw [buildExtendedVotes_eq, map_map]
  refine (map_congr_left fun vote member => ?_).trans (map_id votes)
  simp only [Function.comp_apply, rebuilt, holds vote member]
  rfl

end VoteExtensionCache

/- The evidence a proposed block carries, checked against the last commit. -/

/-- A transaction's bytes: the document they are, if any, and how many there are. -/
structure RawTx where
  doc : Option Json
  size : Nat

structure InjectedVoteExtensionTx where
  jobID : String
  outputHash : Bytes
  validatorCount : I64
  totalVotes : I64
  agreementPower : I64
  totalPower : I64
  blockHeight : I64
  type : String

variable (fields : List (String × Json))

def checkTEEAttestation : Option Unit := do
  let _ ← field fields "platform" "" decodeString
  let _ ← field fields "enclave_id" "" decodeString
  let _ ← field fields "measurement" [] decodeBytes
  let _ ← field fields "quote" [] decodeBytes
  let _ ← field fields "user_data" [] decodeBytes
  let _ ← field fields "certificate_chain" [] (decodeList [] decodeBytes)
  let _ ← field fields "timestamp" Time.zero decodeTime
  let _ ← field fields "nonce" [] decodeBytes
  let _ ← field fields "block_height" ⟨0, .zero⟩ decodeInt64
  let _ ← field fields "chain_id" "" decodeString
  return ()

def checkZKProof : Option Unit := do
  let _ ← field fields "proof_system" "" decodeString
  let _ ← field fields "proof" [] decodeBytes
  let _ ← field fields "public_inputs" [] decodeBytes
  let _ ← field fields "verifying_key_hash" [] decodeBytes
  let _ ← field fields "circuit_hash" [] decodeBytes
  let _ ← field fields "proof_size" ⟨0, .zero⟩ decodeInt64
  return ()

def checkAttestation : Option Unit := do
  let _ ← field fields "ValidatorAddress" [] decodeBytes
  let _ ← field fields "OutputHash" [] decodeBytes
  let _ ← field fields "AttestationType" "" decodeString
  let _ ← field fields "TEEAttestation" () (decodeRecord () checkTEEAttestation)
  let _ ← field fields "ZKProof" () (decodeRecord () checkZKProof)
  let _ ← field fields "ExecutionTimeMs" ⟨0, .zero⟩ decodeInt64
  let _ ← field fields "Timestamp" Time.zero decodeTime
  return ()

namespace InjectedVoteExtensionTx

def zero : InjectedVoteExtensionTx :=
  ⟨"", [], ⟨0, .zero⟩, ⟨0, .zero⟩, ⟨0, .zero⟩, ⟨0, .zero⟩, ⟨0, .zero⟩, ""⟩

def decodeFields (fields : List (String × Json)) : Option InjectedVoteExtensionTx := do
  let jobID ← field fields "job_id" "" decodeString
  let outputHash ← field fields "output_hash" [] decodeBytes
  let validatorCount ← field fields "validator_count" ⟨0, .zero⟩ decodeInt64
  let totalVotes ← field fields "total_votes" ⟨0, .zero⟩ decodeInt64
  let agreementPower ← field fields "agreement_power" ⟨0, .zero⟩ decodeInt64
  let totalPower ← field fields "total_power" ⟨0, .zero⟩ decodeInt64
  let _ ← field fields "attestations" []
    (decodeList () (decodeRecord () checkAttestation))
  let blockHeight ← field fields "block_height" ⟨0, .zero⟩ decodeInt64
  let type ← field fields "type" "" decodeString
  return { jobID, outputHash, validatorCount, totalVotes, agreementPower, totalPower, blockHeight,
           type }

def decode : Json → Option InjectedVoteExtensionTx := decodeRecord zero decodeFields

end InjectedVoteExtensionTx

variable (tx : RawTx)

def unmarshalInjectedVoteExtensionTx : Option InjectedVoteExtensionTx :=
  tx.doc.bind InjectedVoteExtensionTx.decode

def isInjectedVoteExtensionTx : Bool :=
  tx.doc.bind (decodeRecord "" fun fields => field fields "type" "" decodeString) =
    some sealTxType

inductive InjectedTxError where
  | unmarshal
  | unexpectedType (type : String)
  | missingJobID
  | invalidOutputHashLength
  | negativeEvidence
  | countExceedsVotes (count votes : Int)
  | totalVotesMismatch (tx commit : Int)
  | totalPowerMismatch (tx commit : Int)
  | powerBelowThreshold (got need : Int)
deriving DecidableEq

def validateInjectedConsensusTxFormat (tx : InjectedVoteExtensionTx) : Except InjectedTxError Unit :=
  if tx.type ≠ sealTxType then .error (.unexpectedType tx.type)
  else if tx.jobID = "" then .error .missingJobID
  else if tx.outputHash.length ≠ 32 then .error .invalidOutputHashLength
  else if tx.validatorCount.val < 0 ∨ tx.totalVotes.val < 0 ∨ tx.agreementPower.val < 0 ∨
      tx.totalPower.val < 0 then .error .negativeEvidence
  else if tx.validatorCount.val > tx.totalVotes.val then
    .error (.countExceedsVotes tx.validatorCount.val tx.totalVotes.val)
  else .ok ()

def parseInjectedConsensusTx : Except InjectedTxError InjectedVoteExtensionTx :=
  match unmarshalInjectedVoteExtensionTx tx with
  | none => .error .unmarshal
  | some injected =>
    match validateInjectedConsensusTxFormat injected with
    | .error reason => .error reason
    | .ok () => .ok injected

/-- ⌊total · threshold / 100⌋ + 1 in 64-bit arithmetic, the threshold at least 67. -/
def requiredConsensusPower (totalPower consensusThreshold : Int) : Int :=
  let threshold := if consensusThreshold < 67 then 67 else consensusThreshold
  if totalPower ≤ 0 then 0
  else Int64.wrap ((Int64.wrap (totalPower * threshold)).tdiv 100 + 1)

variable (commit : CommitInfo)

def commitVoteTotals : I64 × Int :=
  (len commit, commit.foldl (fun total v => Int64.wrap (total + v.power)) 0)

def validateInjectedConsensusEvidenceAgainstCommit
    (consensusThreshold : Int) : Except InjectedTxError Unit :=
  match parseInjectedConsensusTx tx with
  | .error reason => .error reason
  | .ok injected =>
    let totals := commitVoteTotals commit
    if injected.totalVotes ≠ totals.1 then
      .error (.totalVotesMismatch injected.totalVotes.val totals.1.val)
    else if injected.totalPower.val ≠ totals.2 then
      .error (.totalPowerMismatch injected.totalPower.val totals.2)
    else
      let requiredPower := requiredConsensusPower injected.totalPower.val consensusThreshold
      if injected.totalPower.val ≤ 0 ∨ injected.agreementPower.val < requiredPower then
        .error (.powerBelowThreshold injected.agreementPower.val requiredPower)
      else .ok ()

inductive ProposalConsensusIssue where
  | invalidInjectedTx (txIndex : Nat) (reason : InjectedTxError)
  | duplicateJobConsensusTx (txIndex : Nat) (jobID : String) (firstIndex : Nat)
  | commitEvidenceMismatch (txIndex : Nat) (jobID : String) (reason : InjectedTxError)
deriving DecidableEq

/-- The issues found so far and where each job was first seen. -/
structure AuditState where
  issues : List ProposalConsensusIssue := []
  seenJobs : Map String Nat := ∅

def auditTx (consensusThreshold : Int) (state : AuditState) (entry : RawTx × Nat) : AuditState :=
  let (tx, index) := entry
  if !isInjectedVoteExtensionTx tx then state
  else match parseInjectedConsensusTx tx with
    | .error reason => { state with issues := state.issues ++ [.invalidInjectedTx index reason] }
    | .ok injected =>
      let seen := match state.seenJobs.lookup injected.jobID with
        | some first => { state with
            issues := state.issues ++ [.duplicateJobConsensusTx index injected.jobID first] }
        | none => { state with seenJobs := state.seenJobs.insert injected.jobID index }
      match validateInjectedConsensusEvidenceAgainstCommit tx commit consensusThreshold with
      | .ok () => seen
      | .error reason => { seen with
          issues := seen.issues ++ [.commitEvidenceMismatch index injected.jobID reason] }

def auditProposalConsensusEvidence (txs : List RawTx) (commit : CommitInfo)
    (consensusThreshold : Int) : List ProposalConsensusIssue :=
  (txs.zipIdx.foldl (auditTx commit consensusThreshold) {}).issues

/- The power that a decision needs, as the two sides of the chain compute it, against the share
of the whole without a bound on the numbers. -/

def maxTotalVotingPower : Int := (2 ^ 63 - 1) / 8

variable (total threshold : Int)

/-- The exact share of the power, a rational number. -/
def powerShare : ℚ := (total * threshold : Int) / 100

theorem ceil_powerShare : ⌈powerShare total threshold⌉ = (total * threshold + 99) / 100 := by
  apply Int.ceil_eq_iff.mpr
  unfold powerShare
  constructor
  · rw [lt_div_iff₀ (by norm_num)]
    exact_mod_cast (by omega : ((total * threshold + 99) / 100 - 1) * 100 < total * threshold)
  · rw [div_le_iff₀ (by norm_num)]
    exact_mod_cast (by omega : total * threshold ≤ (total * threshold + 99) / 100 * 100)

theorem floor_powerShare : ⌊powerShare total threshold⌋ = total * threshold / 100 := by
  unfold powerShare
  exact_mod_cast Rat.floor_intCast_div_natCast (total * threshold) 100

/-- No two groups of validators without a common member have the power `required` each. -/
def QuorumsMeet (total required : Int) : Prop :=
  ∀ (validators first second : Finset Bytes) (power : Bytes → Int),
    (∀ address ∈ validators, 0 ≤ power address) → ∑ address ∈ validators, power address = total →
      first ⊆ validators → second ⊆ validators → Disjoint first second →
        ¬(required ≤ ∑ address ∈ first, power address ∧
          required ≤ ∑ address ∈ second, power address)

theorem quorumsMeet_of_lt {total required : Int} (most : total < 2 * required) :
    QuorumsMeet total required := by
  intro validators first second power nonnegative whole inside inside' apart
  apply Quorum.not_both_reach nonnegative inside inside' apart
  rwa [whole]

/-- Both requirements are the exact ones, and two thirds of the power meet. -/
structure ExactRequirement (total threshold : Int) : Prop where
  count : requiredThresholdCount total threshold = ⌈powerShare total threshold⌉
  power : requiredConsensusPower total threshold = ⌊powerShare total threshold⌋ + 1
  meet : threshold = 67 → QuorumsMeet total (requiredThresholdCount total threshold) ∧
    QuorumsMeet total (requiredConsensusPower total threshold)

/-- A chain without power needs no power, and the most power a chain may have wraps around. -/
theorem requirement_not_exact :
    ¬ExactRequirement 0 67 ∧ ¬ExactRequirement maxTotalVotingPower 67 := by
  constructor
  · intro exact
    have power := exact.power
    rw [floor_powerShare] at power
    exact absurd power (by decide)
  · intro exact
    have power := exact.power
    rw [floor_powerShare] at power
    exact absurd power (by decide)

variable {total threshold : Int}

/-- The count is the share rounded up as long as the product stays within 64 bits, and for the
whole power always. -/
theorem requiredThresholdCount_eq_ceil (nonnegative : 0 ≤ total) (least : 67 ≤ threshold)
    (greatest : threshold ≤ 100) (fits : threshold = 100 ∨ total * threshold + 99 < 2 ^ 63) :
    requiredThresholdCount total threshold = ⌈powerShare total threshold⌉ := by
  rw [ceil_powerShare]
  by_cases whole : threshold = 100
  · subst whole
    unfold requiredThresholdCount
    split
    · omega
    · show total = (total * 100 + 99) / 100
      omega
  · have small := fits.resolve_left whole
    have product : 0 ≤ total * threshold := Int.mul_nonneg nonnegative (by omega)
    rw [requiredThresholdCount_exact nonnegative (by omega) ⟨by omega, small⟩, exactThreshold,
      if_neg (by omega)]

theorem requiredConsensusPower_eq_floor (nonnegative : 0 ≤ total)
    (least : 67 ≤ threshold) (fits : total * threshold < 2 ^ 63) :
    requiredConsensusPower total threshold =
      if total = 0 then 0 else ⌊powerShare total threshold⌋ + 1 := by
  have product : 0 ≤ total * threshold := Int.mul_nonneg nonnegative (by omega)
  unfold requiredConsensusPower
  dsimp only
  rw [floor_powerShare, if_neg (by omega : ¬threshold < 67)]
  by_cases none : total = 0
  · rw [if_pos (by omega), if_pos none]
  · rw [if_neg (by omega), if_neg none, Int64.wrap_of_fits ⟨by omega, fits⟩,
      Int.tdiv_eq_ediv_of_nonneg product, Int64.wrap_of_fits ⟨by omega, by omega⟩]

/-- What the two requirements are for every power and threshold whose product is within 64 bits,
and that two thirds of a power that is there meet. -/
theorem required_power_exact {total threshold : Int} (nonnegative : 0 ≤ total)
    (least : 67 ≤ threshold) (greatest : threshold ≤ 100) :
    (threshold = 100 ∨ total * threshold + 99 < 2 ^ 63 →
      requiredThresholdCount total threshold = ⌈powerShare total threshold⌉) ∧
    (total * threshold < 2 ^ 63 →
      requiredConsensusPower total threshold =
        if total = 0 then 0 else ⌊powerShare total threshold⌋ + 1) ∧
    (threshold = 67 → 0 < total → total * threshold + 99 < 2 ^ 63 →
      QuorumsMeet total (requiredThresholdCount total threshold) ∧
        QuorumsMeet total (requiredConsensusPower total threshold)) := by
  refine ⟨requiredThresholdCount_eq_ceil nonnegative least greatest,
    requiredConsensusPower_eq_floor nonnegative least, ?_⟩
  intro twoThirds positive fits
  subst twoThirds
  constructor
  · apply quorumsMeet_of_lt
    rw [requiredThresholdCount_eq_ceil nonnegative least greatest (.inr fits), ceil_powerShare]
    omega
  · apply quorumsMeet_of_lt
    rw [requiredConsensusPower_eq_floor nonnegative least (by omega), floor_powerShare,
      if_neg (by omega)]
    omega

/-- Of a hundred, a count must reach 67 and a power 68. -/
theorem required_power_exact_of_hundred :
    requiredThresholdCount 100 67 = 67 ∧ requiredConsensusPower 100 67 = 68 ∧
      QuorumsMeet 100 67 ∧ QuorumsMeet 100 68 := by
  obtain ⟨count, power, meet⟩ := required_power_exact (show 0 ≤ (100 : Int) by decide)
    (show 67 ≤ (67 : Int) by decide) (by decide)
  have counted := count (.inr (by decide))
  have powered := power (by decide)
  have met := meet rfl (by decide) (by decide)
  rw [ceil_powerShare] at counted
  rw [floor_powerShare, if_neg (by decide)] at powered
  have sixtySeven : requiredThresholdCount 100 67 = 67 := counted.trans (by decide)
  have sixtyEight : requiredConsensusPower 100 67 = 68 := powered.trans (by decide)
  rw [sixtySeven, sixtyEight] at met
  exact ⟨sixtySeven, sixtyEight, met⟩

end Aethelred.App
