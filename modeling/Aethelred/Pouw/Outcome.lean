import Aethelred.Pouw.Aggregate

/- What the decision loops settle, whatever order they visit jobs and outputs in. -/
namespace Aethelred.Pouw

open Go List Hex

def ConsensusHandler.decidedResult (ch : ConsensusHandler) (totals : VoteTotals)
    (votes : List ExtendedVoteInfo) (jobID : String) (agg : AggregatedResult) (outputHash : Bytes) :
    AggregatedResult :=
  { agg with
    outputHash := outputHash
    validatorResults := (ch.listed votes jobID outputHash).map Listing.result
    agreementCount := (ch.listed votes jobID outputHash).length
    agreementPower := ch.talliedPower totals votes jobID outputHash
    hasConsensus := true }

namespace ConsensusHandler

variable {ch : ConsensusHandler} {totals : VoteTotals} {votes : List ExtendedVoteInfo}

variable {jobID : String}

theorem decideJob_eq {agg : AggregatedResult} (outputs : List Bytes) :
    decideJob (ch.requiredPower totals) ((ch.collectVotes totals votes).outputVotes.get jobID ∅)
        ((ch.collectVotes totals votes).outputPower.get jobID ∅) agg
        (outputs.map encodeToString) =
      match outputs.find? fun outputHash =>
        ch.requiredPower totals ≤ ch.talliedPower totals votes jobID outputHash with
      | none => some agg
      | some outputHash =>
        if outputHash.length < 8 then none
        else some (ch.decidedResult totals votes jobID agg outputHash) := by
  induction outputs with
  | nil => rfl
  | cons outputHash rest ih =>
    rw [map_cons, decideJob, outputPower_get, find?_cons]
    by_cases enough : ch.requiredPower totals ≤ ch.talliedPower totals votes jobID outputHash
    · simp only [enough, ↓reduceIte, decodeString_encodeToString, decide_true,
        length_encodeToString, outputVotes_get, length_map, decidedResult]
      by_cases short : outputHash.length < 8
      · rw [if_pos (by omega), if_pos short]
      · rw [if_neg (by omega), if_neg short]
    · simp only [enough, ↓reduceIte, decide_false, ih]

variable (ch totals votes) in
theorem exists_visited (orders : DecisionOrders) (jobID : String) :
    ∃ outputs : List Bytes,
      (orders.outputs jobID).order
          ((ch.collectVotes totals votes).outputVotes.get jobID ∅).keys =
        outputs.map encodeToString ∧
      ∀ outputHash, outputHash ∈ outputs ↔ ch.listed votes jobID outputHash ≠ [] := by
  have encoded : ∀ text ∈ (orders.outputs jobID).order
      ((ch.collectVotes totals votes).outputVotes.get jobID ∅).keys,
      text ∈ Set.range encodeToString := by
    intro text member
    rw [RangeOrder.mem_order, mem_outputs_keys] at member
    obtain ⟨outputHash, same, -⟩ := member
    exact ⟨outputHash, same.symm⟩
  obtain ⟨outputs, same⟩ := (Set.range_list_map encodeToString).symm.subset encoded
  refine ⟨outputs, same.symm, fun outputHash => ?_⟩
  rw [← mem_map_of_injective encodeToString_injective, same, RangeOrder.mem_order,
    mem_outputs_keys]
  constructor
  · rintro ⟨other, equal, listed⟩
    rwa [encodeToString_inj.mp equal]
  · intro listed
    exact ⟨outputHash, rfl, listed⟩

variable (ch totals votes) in
def picked (orders : DecisionOrders) (jobID : String) : Option Bytes :=
  (((orders.outputs jobID).order
    ((ch.collectVotes totals votes).outputVotes.get jobID ∅).keys).filterMap decodeString).find?
      fun outputHash => ch.requiredPower totals ≤ ch.talliedPower totals votes jobID outputHash

variable {orders : DecisionOrders}

theorem picked_eq {outputs : List Bytes} (visited : (orders.outputs jobID).order
      ((ch.collectVotes totals votes).outputVotes.get jobID ∅).keys =
        outputs.map encodeToString) :
    ch.picked totals votes orders jobID = outputs.find? fun outputHash =>
      ch.requiredPower totals ≤ ch.talliedPower totals votes jobID outputHash := by
  have decoded : (outputs.map encodeToString).filterMap decodeString = outputs := by
    simp [filterMap_map]
  rw [picked, visited, decoded]

theorem reached_of_picked {outputHash : Bytes}
    (chosen : ch.picked totals votes orders jobID = some outputHash) :
    ch.Reached totals votes jobID outputHash := by
  obtain ⟨outputs, visited, members⟩ := exists_visited ch totals votes orders jobID
  rw [picked_eq visited] at chosen
  exact ⟨(members outputHash).mp (mem_of_find?_eq_some chosen),
    by simpa using find?_some chosen⟩

theorem not_reached_of_picked_none (nothing : ch.picked totals votes orders jobID = none)
    (outputHash : Bytes) : ¬ch.Reached totals votes jobID outputHash := by
  obtain ⟨outputs, visited, members⟩ := exists_visited ch totals votes orders jobID
  rw [picked_eq visited, find?_eq_none] at nothing
  rintro ⟨listed, enough⟩
  exact absurd enough (by simpa using nothing outputHash ((members outputHash).mpr listed))

theorem picked_startingWith {outputHash : Bytes}
    (reached : ch.Reached totals votes jobID outputHash)
    (first : orders.outputs jobID = RangeOrder.startingWith (encodeToString outputHash)) :
    ch.picked totals votes orders jobID = some outputHash := by
  have present : encodeToString outputHash ∈
      ((ch.collectVotes totals votes).outputVotes.get jobID ∅).keys := by
    rw [mem_outputs_keys]
    exact ⟨outputHash, rfl, reached.1⟩
  rw [picked, first, RangeOrder.startingWith_order present]
  simp [reached.2]

def settled (ch : ConsensusHandler) (totals : VoteTotals) (votes : List ExtendedVoteInfo)
    (jobID : String) (l : Listing) : Option Bytes → AggregatedResult
  | none => initialResult totals l.verification
  | some outputHash =>
    ch.decidedResult totals votes jobID (initialResult totals l.verification) outputHash

theorem decideJob_picked {agg : AggregatedResult} :
    decideJob (ch.requiredPower totals) ((ch.collectVotes totals votes).outputVotes.get jobID ∅)
        ((ch.collectVotes totals votes).outputPower.get jobID ∅) agg
        ((orders.outputs jobID).order
          ((ch.collectVotes totals votes).outputVotes.get jobID ∅).keys) =
      match ch.picked totals votes orders jobID with
      | none => some agg
      | some outputHash =>
        if outputHash.length < 8 then none
        else some (ch.decidedResult totals votes jobID agg outputHash) := by
  obtain ⟨outputs, visited, -⟩ := exists_visited ch totals votes orders jobID
  rw [visited, decideJob_eq, picked_eq visited]

theorem listed_job :
    (∃ l ∈ ch.listings votes, l.jobID = jobID) ↔
      ∃ l, ((ch.listings votes).find? fun l => l.jobID = jobID) = some l := by
  rw [← Option.isSome_iff_exists, find?_isSome]
  simp

/-- What the decision says of each job. -/
theorem decide_some {results : Map String AggregatedResult}
    (decided : (ch.collectVotes totals votes).decide (ch.requiredPower totals) orders =
      some results) (jobID : String) :
    results.lookup jobID = (((ch.listings votes).find? fun l => l.jobID = jobID).map fun l =>
        ch.settled totals votes jobID l (ch.picked totals votes orders jobID)) ∧
      ∀ outputHash, ch.picked totals votes orders jobID = some outputHash → 8 ≤ outputHash.length := by
  have visited : (orders.jobs.order (ch.collectVotes totals votes).outputVotes.keys).Nodup :=
    (RangeOrder.nodup_order _).mpr (AList.keys_nodup _)
  obtain ⟨replaced, kept⟩ := Map.foldlM_replace visited decided
  simp only [RangeOrder.mem_order, mem_outputVotes_keys, aggregated_lookup] at replaced kept
  cases found : (ch.listings votes).find? fun l => l.jobID = jobID with
  | none =>
    have absent : ¬∃ l ∈ ch.listings votes, l.jobID = jobID := by
      rw [listed_job, found]
      simp
    constructor
    · rw [kept jobID absent, found]
      rfl
    · intro outputHash chosen
      obtain ⟨l, member⟩ := exists_mem_of_ne_nil _ (reached_of_picked chosen).1
      obtain ⟨listed, job, -⟩ := mem_listed.mp member
      exact absurd ⟨l, listed, job⟩ absent
  | some l =>
    obtain ⟨old, new, before, changed, after⟩ := replaced jobID (listed_job.mpr ⟨l, found⟩)
    rw [found, Option.map_some, Option.some.injEq] at before
    subst before
    rw [decideJob_picked] at changed
    rw [after, Option.map_some, Option.some.injEq]
    cases chosen : ch.picked totals votes orders jobID with
    | none =>
      rw [chosen, Option.some.injEq] at changed
      exact ⟨changed.symm, by simp⟩
    | some outputHash =>
      rw [chosen] at changed
      dsimp only at changed
      split at changed
      · cases changed
      · rename_i long
        refine ⟨(Option.some.inj changed).symm, ?_⟩
        rintro other ⟨⟩
        omega

theorem decide_total
    (long : ∀ jobID outputHash, ch.picked totals votes orders jobID = some outputHash →
      8 ≤ outputHash.length) :
    ∃ results, (ch.collectVotes totals votes).decide (ch.requiredPower totals) orders =
      some results := by
  apply Map.foldlM_replace_total ((RangeOrder.nodup_order _).mpr (AList.keys_nodup _))
  intro jobID member
  rw [RangeOrder.mem_order, mem_outputVotes_keys, listed_job] at member
  obtain ⟨l, found⟩ := member
  refine ⟨initialResult totals l.verification, ?_⟩
  simp only [aggregated_lookup, found, Option.map_some, decideJob_picked, true_and]
  cases chosen : ch.picked totals votes orders jobID with
  | none => exact ⟨_, rfl⟩
  | some outputHash =>
    have enough := long jobID outputHash chosen
    exact ⟨ch.decidedResult totals votes jobID (initialResult totals l.verification) outputHash,
      if_neg (by omega)⟩

end ConsensusHandler

/- When an aggregation returns, and what it returns then. -/

variable {ch : ConsensusHandler} {ctx : ConsensusContext} {votes : List ExtendedVoteInfo}
  {totals : VoteTotals} {orders : AggregationOrders} {outcome : AggregationOutcome}

/-- Every output reported as successful has the bytes that are logged. -/
def LongOutputs (votes : List ExtendedVoteInfo) : Prop :=
  ∀ vote ∈ votes, ∀ ext ∈ vote.voteExtension.parse, ∀ v ∈ ext.verifications,
    v.success = true → 8 ≤ v.outputHash.length

variable {jobID : String}

theorem mem_successesFor {ext : VoteExtensionWire} {v : VerificationWire} :
    v ∈ successesFor jobID ext ↔ extractValidatorAddress ext ≠ "" ∧ v ∈ ext.verifications ∧
      v.jobID = jobID ∧ v.success = true := by
  unfold successesFor
  by_cases named : extractValidatorAddress ext = "" <;> simp [named]

theorem mem_wrongClusters_keys {jobID outputHex : String} {consensusOutput : Bytes}
    {allVotes : List VoteExtensionWire} :
    outputHex ∈ (wrongClusters jobID consensusOutput allVotes).keys ↔
      ∃ ext ∈ allVotes, ∃ v ∈ successesFor jobID ext, v.outputHash ≠ consensusOutput ∧
        outputHex = encodeToString v.outputHash := by
  unfold wrongClusters
  rw [Map.mem_keys_foldl_update]
  simp only [AList.keys_empty, not_mem_nil, mem_flatMap, mem_map, mem_filter,
    decide_not, Bool.not_eq_eq_eq_not, Bool.not_true, decide_eq_false_iff_not, false_or, ne_eq,
    encodeToString_inj]
  constructor
  · rintro ⟨entry, ⟨ext, present, v, ⟨reported, wrong⟩, rfl⟩, rfl⟩
    exact ⟨ext, present, v, reported, wrong, rfl⟩
  · rintro ⟨ext, present, v, reported, wrong, rfl⟩
    exact ⟨(ext, v), ⟨ext, present, v, ⟨reported, wrong⟩, rfl⟩, rfl⟩

theorem detectColludingValidators_total (ctx : ConsensusContext) (long : LongOutputs votes)
    (jobID : String) (consensusOutput : Bytes) (order : RangeOrder String) :
    ∃ collusion, detectColludingValidators ctx jobID consensusOutput
      (votes.filterMap fun vote => vote.voteExtension.parse) order = some collusion := by
  apply Option.foldlM_total
  intro found outputHex member
  rw [RangeOrder.mem_order, mem_wrongClusters_keys] at member
  obtain ⟨ext, present, v, reported, -, rfl⟩ := member
  obtain ⟨vote, voted, parsed⟩ := mem_filterMap.mp present
  obtain ⟨-, listed, -, success⟩ := mem_successesFor.mp reported
  have enough := long vote voted ext parsed v listed success
  simp only [decodeString_encodeToString, length_encodeToString]
  split
  · exact ⟨found, rfl⟩
  · rw [if_neg (by omega)]
    exact ⟨_, rfl⟩

theorem collectEvidence_total (ctx : ConsensusContext) (long : LongOutputs votes)
    (aggregated : Map String AggregatedResult) (orders : EvidenceOrders) :
    ∃ evidence, collectEvidenceFromConsensus ctx aggregated
      (votes.filterMap fun vote => vote.voteExtension.parse) orders = some evidence := by
  apply Option.foldlM_total
  intro evidence jobID _
  cases aggregated.lookup jobID with
  | none => exact ⟨evidence, rfl⟩
  | some result =>
    by_cases agreed : result.hasConsensus = true
    · obtain ⟨collusion, detected⟩ := detectColludingValidators_total ctx long jobID
        result.outputHash (orders.clusters jobID)
      simp only [agreed, Bool.not_true, Bool.false_eq_true, ↓reduceIte, detected,
        Option.bind_eq_bind, Option.bind_some]
      exact ⟨_, rfl⟩
    · simp only [agreed, Bool.not_false, ↓reduceIte]
      exact ⟨evidence, rfl⟩

theorem aggregate_some (counted : ch.voteTotals votes = some totals)
    (returned : ch.aggregateVoteExtensions ctx votes orders = some outcome) :
    (ch.collectVotes totals votes).decide (ch.requiredPower totals) orders.decision =
        some outcome.results ∧
      collectEvidenceFromConsensus ctx outcome.results
        (votes.filterMap fun vote => vote.voteExtension.parse) orders.evidence =
          some outcome.evidence := by
  simp only [ConsensusHandler.aggregateVoteExtensions, counted, Option.bind_eq_bind,
    Option.bind_eq_some_iff, Option.pure_def, Option.some.injEq] at returned
  obtain ⟨results, decided, evidence, collected, rfl⟩ := returned
  exact ⟨decided, collected⟩

theorem aggregate_none (uncounted : ch.voteTotals votes = none)
    (returned : ch.aggregateVoteExtensions ctx votes orders = some outcome) :
    outcome = { results := ∅ } := by
  simp only [ConsensusHandler.aggregateVoteExtensions, uncounted, Option.some.injEq] at returned
  exact returned.symm

theorem long_of_reached (long : LongOutputs votes) {outputHash : Bytes}
    (reached : ch.Reached totals votes jobID outputHash) : 8 ≤ outputHash.length := by
  obtain ⟨l, member⟩ := exists_mem_of_ne_nil _ reached.1
  obtain ⟨listed, -, rfl⟩ := ConsensusHandler.mem_listed.mp member
  obtain ⟨voted, accepted, reported, counts⟩ := ConsensusHandler.mem_listings.mp listed
  have parsed := (ConsensusHandler.acceptedExtension_eq_some.mp accepted).parsed
  have success : l.verification.success = true := by
    unfold ConsensusHandler.counts at counts
    grind
  exact long l.vote voted l.extension parsed l.verification reported success

theorem aggregate_total (ch : ConsensusHandler) (long : LongOutputs votes) (ctx : ConsensusContext)
    (orders : AggregationOrders) :
    ∃ outcome, ch.aggregateVoteExtensions ctx votes orders = some outcome := by
  unfold ConsensusHandler.aggregateVoteExtensions
  cases ch.voteTotals votes with
  | none => exact ⟨_, rfl⟩
  | some totals =>
    have picks : ∀ jobID outputHash,
        ch.picked totals votes orders.decision jobID = some outputHash → 8 ≤ outputHash.length :=
      fun jobID outputHash chosen =>
        long_of_reached long (ConsensusHandler.reached_of_picked chosen)
    obtain ⟨results, decided⟩ := ConsensusHandler.decide_total picks
    obtain ⟨evidence, collected⟩ := collectEvidence_total ctx long results orders.evidence
    simp only [decided, collected, Option.bind_eq_bind, Option.bind_some]
    exact ⟨_, rfl⟩

theorem jobID_of_first {l : Listing}
    (first : ((ch.listings votes).find? fun l => l.jobID = jobID) = some l) :
    l.verification.jobID = jobID := by
  have named := find?_some first
  exact of_decide_eq_true named

theorem decided_of_lookup (counted : ch.voteTotals votes = some totals)
    (returned : ch.aggregateVoteExtensions ctx votes orders = some outcome) {agg : AggregatedResult}
    (found : outcome.results.lookup jobID = some agg) (agreed : agg.hasConsensus = true) :
    ∃ l outputHash, ((ch.listings votes).find? fun l => l.jobID = jobID) = some l ∧
      ch.Reached totals votes jobID outputHash ∧
      ch.picked totals votes orders.decision jobID = some outputHash ∧
      agg = ch.decidedResult totals votes jobID (initialResult totals l.verification) outputHash := by
  obtain ⟨decided, -⟩ := aggregate_some counted returned
  obtain ⟨looked, -⟩ := ConsensusHandler.decide_some decided jobID
  rw [found, eq_comm, Option.map_eq_some_iff] at looked
  obtain ⟨l, first, settled⟩ := looked
  cases chosen : ch.picked totals votes orders.decision jobID with
  | none =>
    rw [chosen] at settled
    subst settled
    cases agreed
  | some outputHash =>
    rw [chosen] at settled
    exact ⟨l, outputHash, first, ConsensusHandler.reached_of_picked chosen, rfl, settled.symm⟩

theorem exists_deciding (long : LongOutputs votes) (ctx : ConsensusContext)
    (counted : ch.voteTotals votes = some totals) {outputHash : Bytes}
    (reached : ch.Reached totals votes jobID outputHash) :
    ∃ orders outcome l, ch.aggregateVoteExtensions ctx votes orders = some outcome ∧
      ((ch.listings votes).find? fun l => l.jobID = jobID) = some l ∧
      outcome.results.lookup jobID = some
        (ch.decidedResult totals votes jobID (initialResult totals l.verification) outputHash) := by
  obtain ⟨outcome, returned⟩ := aggregate_total ch long ctx
    ⟨⟨.asGiven, fun _ => .startingWith (encodeToString outputHash)⟩, .asGiven⟩
  obtain ⟨decided, -⟩ := aggregate_some counted returned
  obtain ⟨looked, -⟩ := ConsensusHandler.decide_some decided jobID
  rw [ConsensusHandler.picked_startingWith reached rfl] at looked
  obtain ⟨l, member⟩ := exists_mem_of_ne_nil _ reached.1
  obtain ⟨listed, job, -⟩ := ConsensusHandler.mem_listed.mp member
  obtain ⟨first, isFirst⟩ := ConsensusHandler.listed_job.mp ⟨l, listed, job⟩
  rw [isFirst] at looked
  exact ⟨_, outcome, first, returned, isFirst, looked⟩

end Aethelred.Pouw
