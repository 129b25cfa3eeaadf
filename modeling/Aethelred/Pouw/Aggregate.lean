import Aethelred.Pouw.VoteExtension

/- Aggregation of vote extensions: the collection loop and the decision loop. -/
namespace Aethelred.Pouw

open Go List Hex

structure Tally where
  aggregated : Map String AggregatedResult := ∅
  outputVotes : Map String (Map String (List ValidatorResult)) := ∅
  outputPower : Map String (Map String Int) := ∅

structure VoteTotals where
  totalVotes : Nat
  totalPower : Int
  useFallbackPower : Bool
deriving DecidableEq

def VoteTotals.powerOf (totals : VoteTotals) (validator : AbciValidator) : Int :=
  if totals.useFallbackPower then 1 else validator.power

def VoteTotals.votePower (totals : VoteTotals) (vote : ExtendedVoteInfo) : Int :=
  totals.powerOf vote.validator

def validatorResult (extension : VoteExtensionWire) (v : VerificationWire) : ValidatorResult where
  validatorAddress := extractValidatorAddress extension
  outputHash := v.outputHash
  attestationType := v.attestationType
  executionTimeMs := v.executionTimeMs
  timestamp := extension.timestamp
  blsSignature := extension.blsSignature
  blsPubKey := extension.blsPubKey

def initialResult (totals : VoteTotals) (v : VerificationWire) : AggregatedResult where
  jobID := v.jobID
  modelHash := v.modelHash
  inputHash := v.inputHash
  totalVotes := totals.totalVotes
  totalPower := totals.totalPower

def Tally.add (totals : VoteTotals) (votePower : Int) (extension : VoteExtensionWire) (t : Tally)
    (v : VerificationWire) : Tally :=
  let outputHashHex := encodeToString v.outputHash
  { t with
    outputVotes := t.outputVotes.update v.jobID ∅ fun outputs =>
      outputs.update outputHashHex [] fun results => results ++ [validatorResult extension v]
    outputPower := t.outputPower.update v.jobID ∅ fun powers =>
      powers.update outputHashHex 0 fun power => Int64.wrap (power + votePower)
    aggregated :=
      match t.aggregated.lookup v.jobID with
      | some _ => t.aggregated
      | none => t.aggregated.insert v.jobID (initialResult totals v) }

namespace ConsensusHandler

variable (ch : ConsensusHandler)

def collectVerification (totals : VoteTotals) (votePower : Int)
    (extension : VoteExtensionWire) (t : Tally) (v : VerificationWire) : Tally :=
  if !v.success then t
  else match ch.checkAttestation (extractValidatorAddress extension) v with
    | .skipped => t
    | .untrusted => t
    | .counted => t.add totals votePower extension v

def untrustedAttestations (votes : List ExtendedVoteInfo) : List (String × String) :=
  (votes.filterMap ch.acceptedExtension).flatMap fun extension =>
    (extension.verifications.filter fun v => v.success ∧
      ch.checkAttestation (extractValidatorAddress extension) v = .untrusted).map fun v =>
        (extractValidatorAddress extension, v.jobID)

def collectVote (totals : VoteTotals) (t : Tally) (vote : ExtendedVoteInfo) : Tally :=
  match ch.acceptedExtension vote with
  | none => t
  | some extension =>
    extension.verifications.foldl (ch.collectVerification totals (totals.votePower vote) extension) t

/-- The sum of all powers; `none` when it is zero outside simulated mode. -/
def voteTotals (votes : List ExtendedVoteInfo) : Option VoteTotals :=
  let totalPower := votes.foldl (fun total vote => Int64.wrap (total + vote.validator.power)) 0
  if totalPower = 0 ∧ 0 < votes.length then
    if ch.simulatedVerificationEnabled then some ⟨votes.length, Int64.wrap votes.length, true⟩ else none
  else some ⟨votes.length, totalPower, false⟩

end ConsensusHandler

/-- The first output in the visiting order with enough power decides the job; `none` when its
text is shorter than the sixteen digits that are logged. -/
def decideJob (requiredPower : Int) (outputs : Map String (List ValidatorResult))
    (power : Map String Int) (agg : AggregatedResult) : List String → Option AggregatedResult
  | [] => some agg
  | outputHashHex :: rest =>
    if requiredPower ≤ power.get outputHashHex 0 then
      match decodeString outputHashHex with
      | none => decideJob requiredPower outputs power agg rest
      | some outputHash =>
        if outputHashHex.length < 16 then none
        else some { agg with
          outputHash := outputHash
          validatorResults := outputs.get outputHashHex []
          agreementCount := (outputs.get outputHashHex []).length
          agreementPower := power.get outputHashHex 0
          hasConsensus := true }
    else decideJob requiredPower outputs power agg rest

structure DecisionOrders where
  jobs : RangeOrder String
  outputs : String → RangeOrder String

def DecisionOrders.asGiven : DecisionOrders := ⟨.asGiven, fun _ => .asGiven⟩

def Tally.decide (requiredPower : Int) (t : Tally) (orders : DecisionOrders) :
    Option (Map String AggregatedResult) :=
  (orders.jobs.order t.outputVotes.keys).foldlM (fun aggregated jobID => do
    let agg ← aggregated.lookup jobID
    let outputs := t.outputVotes.get jobID ∅
    let decided ← decideJob requiredPower outputs (t.outputPower.get jobID ∅) agg
      ((orders.outputs jobID).order outputs.keys)
    return aggregated.insert jobID decided) t.aggregated

structure AggregationOutcome where
  results : Map String AggregatedResult
  evidence : List SlashingEvidenceRecord := []
  untrusted : List (String × String) := []

structure AggregationOrders where
  decision : DecisionOrders
  evidence : EvidenceOrders

def AggregationOrders.asGiven : AggregationOrders := ⟨.asGiven, .asGiven⟩

namespace ConsensusHandler

variable (ch : ConsensusHandler)

def collectVotes (totals : VoteTotals) (votes : List ExtendedVoteInfo) : Tally :=
  votes.foldl (ch.collectVote totals) {}

def requiredPower (totals : VoteTotals) : Int :=
  requiredThresholdCount totals.totalPower ch.getConsensusThreshold

/-- `none` when the aggregation panics. -/
def aggregateVoteExtensions (ctx : ConsensusContext)
    (votes : List ExtendedVoteInfo) (orders : AggregationOrders) : Option AggregationOutcome :=
  match ch.voteTotals votes with
  | none => some { results := ∅ }
  | some totals => do
      let tally := ch.collectVotes totals votes
      let results ← tally.decide (ch.requiredPower totals) orders.decision
      let allExtensions := votes.filterMap fun vote => vote.voteExtension.parse
      let evidence ← collectEvidenceFromConsensus ctx results allExtensions orders.evidence
      return { results, evidence, untrusted := ch.untrustedAttestations votes }

end ConsensusHandler

/- The counted verifications of all votes as one list, and the maps as functions of it. -/

/-- One counted verification, with the vote and the extension that carry it. -/
structure Listing where
  vote : ExtendedVoteInfo
  extension : VoteExtensionWire
  verification : VerificationWire

namespace Listing

variable (l : Listing)

def jobID : String := l.verification.jobID

def outputHash : Bytes := l.verification.outputHash

def result : ValidatorResult := validatorResult l.extension l.verification

/-- The listing is of this job with this output. -/
def Names (jobID : String) (outputHash : Bytes) : Prop :=
  l.jobID = jobID ∧ l.outputHash = outputHash

instance (jobID : String) (outputHash : Bytes) : Decidable (l.Names jobID outputHash) :=
  inferInstanceAs (Decidable (_ ∧ _))

end Listing

namespace ConsensusHandler

variable (ch : ConsensusHandler)

def counts (extension : VoteExtensionWire) (v : VerificationWire) : Bool :=
  v.success && ch.checkAttestation (extractValidatorAddress extension) v = .counted

def listingsOf (vote : ExtendedVoteInfo) : List Listing :=
  match ch.acceptedExtension vote with
  | none => []
  | some extension =>
    (extension.verifications.filter (ch.counts extension)).map fun v => ⟨vote, extension, v⟩

def listings (votes : List ExtendedVoteInfo) : List Listing := votes.flatMap ch.listingsOf

def listed (votes : List ExtendedVoteInfo) (jobID : String) (outputHash : Bytes) : List Listing :=
  (ch.listings votes).filter fun l => l.Names jobID outputHash

def talliedPower (totals : VoteTotals) (votes : List ExtendedVoteInfo) (jobID : String)
    (outputHash : Bytes) : Int :=
  Int64.wrap (((ch.listed votes jobID outputHash).map fun l => totals.votePower l.vote).sum)

/-- The output has enough tallied power for a decision. -/
def Reached (totals : VoteTotals) (votes : List ExtendedVoteInfo) (jobID : String)
    (outputHash : Bytes) : Prop :=
  ch.listed votes jobID outputHash ≠ [] ∧
    ch.requiredPower totals ≤ ch.talliedPower totals votes jobID outputHash

variable {ch}

theorem mem_listingsOf {vote : ExtendedVoteInfo} {l : Listing} :
    l ∈ ch.listingsOf vote ↔ l.vote = vote ∧ ch.acceptedExtension vote = some l.extension ∧
      l.verification ∈ l.extension.verifications ∧ ch.counts l.extension l.verification = true := by
  unfold listingsOf
  cases ch.acceptedExtension vote with
  | none => simp
  | some extension =>
    simp only [mem_map, mem_filter, Option.some.injEq]
    constructor
    · rintro ⟨v, ⟨listed, counts⟩, rfl⟩
      exact ⟨rfl, rfl, listed, counts⟩
    · rintro ⟨rfl, rfl, listed, counts⟩
      exact ⟨l.verification, ⟨listed, counts⟩, rfl⟩

theorem mem_listings {votes : List ExtendedVoteInfo} {l : Listing} :
    l ∈ ch.listings votes ↔ l.vote ∈ votes ∧ ch.acceptedExtension l.vote = some l.extension ∧
      l.verification ∈ l.extension.verifications ∧ ch.counts l.extension l.verification = true := by
  simp only [listings, mem_flatMap, mem_listingsOf]
  constructor
  · rintro ⟨vote, present, rfl, rest⟩
    exact ⟨present, rest⟩
  · rintro ⟨present, rest⟩
    exact ⟨l.vote, present, rfl, rest⟩

theorem mem_listed {votes : List ExtendedVoteInfo} {jobID : String} {outputHash : Bytes}
    {l : Listing} :
    l ∈ ch.listed votes jobID outputHash ↔ l ∈ ch.listings votes ∧ l.Names jobID outputHash := by
  simp [listed]

variable (ch)

section

variable (totals : VoteTotals)
include totals

theorem collectVerification_eq (votePower : Int)
    (extension : VoteExtensionWire) (t : Tally) (v : VerificationWire) :
    ch.collectVerification totals votePower extension t v =
      if ch.counts extension v then t.add totals votePower extension v else t := by
  unfold collectVerification counts
  cases success : v.success with
  | false => simp
  | true =>
    cases ch.checkAttestation (extractValidatorAddress extension) v <;> simp

theorem collectVotes_eq (votes : List ExtendedVoteInfo) :
    ch.collectVotes totals votes = (ch.listings votes).foldl
      (fun t l => t.add totals (totals.votePower l.vote) l.extension l.verification) {} := by
  unfold collectVotes
  generalize ({} : Tally) = start
  induction votes generalizing start with
  | nil => rfl
  | cons vote rest ih =>
    rw [foldl_cons, ih, listings, listings, flatMap_cons, foldl_append]
    congr 1
    unfold collectVote listingsOf
    cases ch.acceptedExtension vote with
    | none => rfl
    | some extension =>
      simp only [foldl_map]
      generalize start = current
      induction extension.verifications generalizing current with
      | nil => rfl
      | cons v others inner =>
        rw [foldl_cons, inner, collectVerification_eq, filter_cons]
        split <;> rfl

theorem foldl_add_outputVotes (items : List Listing) (start : Tally) :
    (items.foldl (fun t l => t.add totals (totals.votePower l.vote) l.extension l.verification)
      start).outputVotes =
    items.foldl (fun m l => m.update l.jobID ∅ fun outputs =>
      outputs.update (encodeToString l.outputHash) [] fun results => results ++ [l.result])
      start.outputVotes := by
  induction items generalizing start with
  | nil => rfl
  | cons item rest ih => rw [foldl_cons, ih]; rfl

theorem foldl_add_outputPower (items : List Listing) (start : Tally) :
    (items.foldl (fun t l => t.add totals (totals.votePower l.vote) l.extension l.verification)
      start).outputPower =
    items.foldl (fun m l => m.update l.jobID ∅ fun powers =>
      powers.update (encodeToString l.outputHash) 0 fun power =>
        Int64.wrap (power + totals.votePower l.vote)) start.outputPower := by
  induction items generalizing start with
  | nil => rfl
  | cons item rest ih => rw [foldl_cons, ih]; rfl

end

theorem filter_names (votes : List ExtendedVoteInfo) (jobID : String) (outputHash : Bytes) :
    ((ch.listings votes).filter fun l => l.jobID = jobID).filter
        (fun l => encodeToString l.outputHash = encodeToString outputHash) =
      ch.listed votes jobID outputHash := by
  rw [listed, filter_filter]
  congr 1
  funext l
  rw [Bool.eq_iff_iff]
  simp only [encodeToString_inj, Bool.and_eq_true, decide_eq_true_eq]
  exact and_comm

section

variable (totals : VoteTotals)
include totals

section

variable (votes : List ExtendedVoteInfo) (jobID : String)
include votes jobID

theorem outputVotes_get
    (outputHash : Bytes) :
    ((ch.collectVotes totals votes).outputVotes.get jobID ∅).get (encodeToString outputHash) [] =
      (ch.listed votes jobID outputHash).map Listing.result := by
  rw [collectVotes_eq, foldl_add_outputVotes, Map.get_foldl_update, Map.get_empty,
    Map.get_foldl_update, Map.get_empty, filter_names]
  generalize ch.listed votes jobID outputHash = items
  have appended : ∀ start : List ValidatorResult,
      items.foldl (fun value l => value ++ [l.result]) start = start ++ items.map Listing.result := by
    induction items with
    | nil => simp
    | cons item rest ih => intro start; rw [foldl_cons, ih]; simp
  rw [appended, nil_append]

theorem outputPower_get (outputHash : Bytes) :
    ((ch.collectVotes totals votes).outputPower.get jobID ∅).get (encodeToString outputHash) 0 =
      ch.talliedPower totals votes jobID outputHash := by
  rw [collectVotes_eq, foldl_add_outputPower, Map.get_foldl_update, Map.get_empty,
    Map.get_foldl_update, Map.get_empty, filter_names, talliedPower]
  have summed := Int64.foldl_add_eq_wrap
    ((ch.listed votes jobID outputHash).map fun l => totals.votePower l.vote) 0
  rw [foldl_map, Int.zero_add] at summed
  exact summed

theorem mem_outputVotes_keys :
    jobID ∈ (ch.collectVotes totals votes).outputVotes.keys ↔
      ∃ l ∈ ch.listings votes, l.jobID = jobID := by
  rw [collectVotes_eq, foldl_add_outputVotes, Map.mem_keys_foldl_update]
  simp

theorem mem_outputs_keys (outputHashHex : String) :
    outputHashHex ∈ ((ch.collectVotes totals votes).outputVotes.get jobID ∅).keys ↔
      ∃ outputHash, outputHashHex = encodeToString outputHash ∧
        ch.listed votes jobID outputHash ≠ [] := by
  rw [collectVotes_eq, foldl_add_outputVotes, Map.get_foldl_update, Map.get_empty,
    Map.mem_keys_foldl_update]
  simp only [AList.keys_empty, not_mem_nil, mem_filter, decide_eq_true_eq, false_or]
  constructor
  · rintro ⟨l, ⟨listed, job⟩, rfl⟩
    exact ⟨l.outputHash, rfl, ne_nil_of_mem (mem_listed.mpr ⟨listed, job, rfl⟩)⟩
  · rintro ⟨outputHash, rfl, some⟩
    obtain ⟨l, member⟩ := exists_mem_of_ne_nil _ some
    obtain ⟨listed, job, output⟩ := mem_listed.mp member
    exact ⟨l, ⟨listed, job⟩, by rw [output]⟩

end

theorem add_aggregated_lookup (votePower : Int)
    (extension : VoteExtensionWire) (t : Tally) (v : VerificationWire) (jobID : String) :
    (t.add totals votePower extension v).aggregated.lookup jobID =
      (t.aggregated.lookup jobID).or
        (if v.jobID = jobID then some (initialResult totals v) else none) := by
  unfold Tally.add
  by_cases here : v.jobID = jobID
  · subst here
    cases found : t.aggregated.lookup v.jobID <;> simp [found]
  · rw [if_neg here, Option.or_none]
    cases found : t.aggregated.lookup v.jobID with
    | some result => rfl
    | none => exact AList.lookup_insert_ne (Ne.symm here)

theorem aggregated_lookup (votes : List ExtendedVoteInfo) (jobID : String) :
    (ch.collectVotes totals votes).aggregated.lookup jobID =
      ((ch.listings votes).find? fun l => l.jobID = jobID).map fun l =>
        initialResult totals l.verification := by
  rw [collectVotes_eq]
  have first : ∀ (items : List Listing) (start : Tally),
      (items.foldl (fun t l => t.add totals (totals.votePower l.vote) l.extension l.verification)
        start).aggregated.lookup jobID = (start.aggregated.lookup jobID).or
          ((items.find? fun l => l.jobID = jobID).map fun l =>
            initialResult totals l.verification) := by
    intro items
    induction items with
    | nil => simp
    | cons item rest ih =>
      intro start
      rw [foldl_cons, ih, add_aggregated_lookup, Option.or_assoc, find?_cons]
      congr 1
      by_cases here : item.verification.jobID = jobID <;> simp [Listing.jobID, here]
  rw [first]
  rfl

end

end ConsensusHandler

end Aethelred.Pouw
