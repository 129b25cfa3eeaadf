import Aethelred.Pouw.Outcome

/- Which evidence records the three detectors produce. -/
namespace Aethelred.Pouw

open Go List Hex

variable {ctx : ConsensusContext} {jobID : String} {consensusOutput : Bytes}
  {allVotes : List VoteExtensionWire} {record : SlashingEvidenceRecord}

/-- The extension reports the output for the job, under its name. -/
def Reports (ext : VoteExtensionWire) (jobID : String) (outputHash : Bytes) : Prop :=
  ∃ v ∈ successesFor jobID ext, v.outputHash = outputHash

instance (ext : VoteExtensionWire) (jobID : String) (outputHash : Bytes) :
    Decidable (Reports ext jobID outputHash) :=
  inferInstanceAs (Decidable (∃ _ ∈ _, _))

theorem mem_detectInvalidOutputs :
    record ∈ detectInvalidOutputs ctx jobID consensusOutput allVotes ↔
      ∃ ext ∈ allVotes, ∃ v ∈ successesFor jobID ext, v.outputHash ≠ consensusOutput ∧
        record =
          { validatorAddress := extractValidatorAddress ext
            condition := .invalidOutput
            jobID := jobID
            blockHeight := ctx.blockHeight
            timestamp := ctx.blockTime
            expectedOutput := consensusOutput
            actualOutput := v.outputHash
            severity := .high } := by
  simp only [detectInvalidOutputs, mem_flatMap, mem_map, mem_filter,
    decide_eq_true_eq, and_assoc, @eq_comm _ record]

theorem validatorOutputs_get (jobID : String) (allVotes : List VoteExtensionWire) (name : String) :
    (validatorOutputs jobID allVotes).get name [] =
      ((allVotes.flatMap fun ext => (successesFor jobID ext).map fun v => (ext, v)).filter
        fun entry => extractValidatorAddress entry.1 = name).map fun entry =>
          ⟨entry.2.outputHash, entry.1.timestamp, entry.1.height⟩ := by
  unfold validatorOutputs
  rw [Map.get_foldl_update, Map.get_empty]
  generalize (allVotes.flatMap fun ext => (successesFor jobID ext).map fun v => (ext, v)).filter
    (fun entry => extractValidatorAddress entry.1 = name) = items
  have appended : ∀ start : List ConflictingOutput,
      items.foldl (fun reported entry =>
        reported ++ [⟨entry.2.outputHash, entry.1.timestamp, entry.1.height⟩]) start =
      start ++ items.map fun entry =>
        ⟨entry.2.outputHash, entry.1.timestamp, entry.1.height⟩ := by
    induction items with
    | nil => simp
    | cons item rest ih => intro start; rw [foldl_cons, ih]; simp
  rw [appended, nil_append]

variable {outputHash : Bytes}

theorem mem_validatorOutputs {name : String} :
    (∃ output ∈ (validatorOutputs jobID allVotes).get name [], output.outputHash = outputHash) ↔
      ∃ ext ∈ allVotes, extractValidatorAddress ext = name ∧ Reports ext jobID outputHash := by
  rw [validatorOutputs_get]
  constructor
  · rintro ⟨output, member, rfl⟩
    obtain ⟨⟨ext, v⟩, entry, rfl⟩ := mem_map.mp member
    obtain ⟨listed, named⟩ := mem_filter.mp entry
    obtain ⟨found, present, own⟩ := mem_flatMap.mp listed
    obtain ⟨verification, reported, same⟩ := mem_map.mp own
    cases same
    exact ⟨ext, present, by simpa using named, v, reported, rfl⟩
  · rintro ⟨ext, present, rfl, v, reported, rfl⟩
    refine ⟨_, mem_map.mpr ⟨(ext, v), mem_filter.mpr ⟨?_, by simp⟩, rfl⟩, rfl⟩
    exact mem_flatMap.mpr ⟨ext, present, mem_map.mpr ⟨v, reported, rfl⟩⟩

theorem two_le_dedup {α : Type} [DecidableEq α] {values : List α} :
    2 ≤ values.dedup.length ↔ ∃ first ∈ values, ∃ second ∈ values, first ≠ second := by
  constructor
  · intro two
    match same : values.dedup, two with
    | first :: second :: rest, _ =>
      have distinct := values.nodup_dedup
      rw [same] at distinct
      have member : ∀ value ∈ values.dedup, value ∈ values := fun value => mem_dedup.mp
      rw [same] at member
      refine ⟨first, member first (by simp), second, member second (by simp), ?_⟩
      rintro rfl
      simp at distinct
  · rintro ⟨first, one, second, other, differ⟩
    have sub : [first, second] ⊆ values.dedup := by
      intro value member
      rcases mem_pair.mp member with rfl | rfl
      · exact mem_dedup.mpr one
      · exact mem_dedup.mpr other
    exact (subperm_of_subset (by simpa using differ) sub).length_le

/-- A double-sign record names someone under whom two outputs are reported. -/
theorem mem_detectDoubleSigners {order : RangeOrder String} :
    record ∈ detectDoubleSigners ctx jobID allVotes order →
      record.condition = .doubleSign ∧ record.jobID = jobID ∧
        ∃ first second, first ≠ second ∧
          (∃ ext ∈ allVotes, extractValidatorAddress ext = record.validatorAddress ∧
            Reports ext jobID first) ∧
          ∃ ext ∈ allVotes, extractValidatorAddress ext = record.validatorAddress ∧
            Reports ext jobID second := by
  intro member
  obtain ⟨name, -, made⟩ := mem_filterMap.mp member
  dsimp only at made
  split at made
  · cases made
  · split at made
    · cases made
    · rename_i two
      obtain rfl := Option.some.inj made
      obtain ⟨firstHex, one, secondHex, other, differ⟩ := two_le_dedup.mp (not_lt.mp two)
      obtain ⟨first, firstMember, rfl⟩ := mem_map.mp one
      obtain ⟨second, secondMember, rfl⟩ := mem_map.mp other
      refine ⟨rfl, rfl, first.outputHash, second.outputHash,
        fun same => differ (by rw [same]), ?_, ?_⟩
      · exact mem_validatorOutputs.mp ⟨first, firstMember, rfl⟩
      · exact mem_validatorOutputs.mp ⟨second, secondMember, rfl⟩

/-- Two outputs under one name are on record. -/
theorem exists_doubleSign (ctx : ConsensusContext) (order : RangeOrder String) {name : String}
    {first second : Bytes} (differ : first ≠ second)
    (one : ∃ ext ∈ allVotes, extractValidatorAddress ext = name ∧ Reports ext jobID first)
    (other : ∃ ext ∈ allVotes, extractValidatorAddress ext = name ∧ Reports ext jobID second) :
    ∃ record ∈ detectDoubleSigners ctx jobID allVotes order,
      record.condition = .doubleSign ∧ record.jobID = jobID ∧ record.validatorAddress = name := by
  obtain ⟨firstOutput, firstMember, rfl⟩ := mem_validatorOutputs.mpr one
  obtain ⟨secondOutput, secondMember, rfl⟩ := mem_validatorOutputs.mpr other
  have two : 2 ≤ (((validatorOutputs jobID allVotes).get name []).map
      fun output => encodeToString output.outputHash).dedup.length := by
    refine two_le_dedup.mpr ⟨_, mem_map.mpr ⟨firstOutput, firstMember, rfl⟩, _,
      mem_map.mpr ⟨secondOutput, secondMember, rfl⟩, ?_⟩
    rwa [ne_eq, encodeToString_inj]
  have many : 2 ≤ ((validatorOutputs jobID allVotes).get name []).length := by
    have fewer := (dedup_sublist (((validatorOutputs jobID allVotes).get name []).map
      fun output => encodeToString output.outputHash)).length_le
    rw [length_map] at fewer
    omega
  have present : name ∈ (validatorOutputs jobID allVotes).keys := by
    by_contra absent
    have missing : (validatorOutputs jobID allVotes).lookup name = none :=
      AList.lookup_eq_none.mpr absent
    simp only [Map.get, missing, Option.getD_none, length_nil] at many
    omega
  exact ⟨_, mem_filterMap.mpr ⟨name, order.mem_order.mpr present,
    (if_neg (by omega)).trans (if_neg (by omega))⟩, rfl, rfl, rfl⟩

def reporters (jobID : String) (allVotes : List VoteExtensionWire) (outputHash : Bytes) :
    List VoteExtensionWire :=
  ((allVotes.flatMap fun ext => (successesFor jobID ext).map fun v => (ext, v)).filter
    fun entry => entry.2.outputHash = outputHash).map Prod.fst

theorem mem_reporters {ext : VoteExtensionWire} :
    ext ∈ reporters jobID allVotes outputHash ↔ ext ∈ allVotes ∧ Reports ext jobID outputHash := by
  simp only [reporters, mem_map, mem_filter, mem_flatMap, decide_eq_true_eq]
  constructor
  · rintro ⟨entry, ⟨⟨found, present, v, reported, rfl⟩, output⟩, rfl⟩
    exact ⟨present, v, reported, output⟩
  · rintro ⟨present, v, reported, output⟩
    exact ⟨(ext, v), ⟨⟨ext, present, v, reported, rfl⟩, output⟩, rfl⟩

/-- A cluster lists all who report its output. -/
theorem wrongClusters_get (wrong : outputHash ≠ consensusOutput) :
    (wrongClusters jobID consensusOutput allVotes).get (encodeToString outputHash) [] =
      (reporters jobID allVotes outputHash).map extractValidatorAddress := by
  unfold wrongClusters reporters
  rw [Map.get_foldl_update, Map.get_empty, map_map]
  have entries : (allVotes.flatMap fun ext => ((successesFor jobID ext).filter fun v =>
        encodeToString v.outputHash ≠ encodeToString consensusOutput).map fun v =>
          (ext, v)).filter
        (fun entry => encodeToString entry.2.outputHash = encodeToString outputHash) =
      (allVotes.flatMap fun ext => (successesFor jobID ext).map fun v => (ext, v)).filter
        fun entry => entry.2.outputHash = outputHash := by
    simp only [filter_flatMap, filter_map, filter_filter]
    congr 1
    funext ext
    congr 1
    apply filter_congr
    intro v _
    rw [Bool.eq_iff_iff]
    simp only [Function.comp_apply, encodeToString_inj, ne_eq, Bool.and_eq_true,
      decide_eq_true_eq]
    constructor
    · exact And.left
    · rintro rfl
      exact ⟨rfl, wrong⟩
  rw [entries]
  generalize (allVotes.flatMap fun ext => (successesFor jobID ext).map fun v => (ext, v)).filter
    (fun entry => entry.2.outputHash = outputHash) = items
  have appended : ∀ start : List String,
      items.foldl (fun members entry => members ++ [extractValidatorAddress entry.1]) start =
        start ++ items.map (extractValidatorAddress ∘ Prod.fst) := by
    induction items with
    | nil => simp
    | cons item rest ih => intro start; rw [foldl_cons, ih]; simp
  rw [appended, nil_append]

/-- Collusion records are those of outputs reported twice. -/
theorem mem_detectColludingValidators {order : RangeOrder String}
    {collusion : List SlashingEvidenceRecord}
    (detected : detectColludingValidators ctx jobID consensusOutput allVotes order =
      some collusion) :
    record ∈ collusion ↔ ∃ outputHash, outputHash ≠ consensusOutput ∧
      2 ≤ (reporters jobID allVotes outputHash).length ∧
      ∃ ext ∈ reporters jobID allVotes outputHash, record =
        { validatorAddress := extractValidatorAddress ext
          condition := .collusion
          jobID := jobID
          blockHeight := ctx.blockHeight
          timestamp := ctx.blockTime
          expectedOutput := consensusOutput
          actualOutput := outputHash
          severity := .critical } := by
  let made (outputHash : Bytes) (name : String) : SlashingEvidenceRecord :=
    { validatorAddress := name
      condition := .collusion
      jobID := jobID
      blockHeight := ctx.blockHeight
      timestamp := ctx.blockTime
      expectedOutput := consensusOutput
      actualOutput := outputHash
      severity := .critical }
  let clusters := wrongClusters jobID consensusOutput allVotes
  let yield (outputHex : String) : Option (List SlashingEvidenceRecord) :=
    if (clusters.get outputHex []).length < 2 then some []
    else (decodeString outputHex).elim (some []) fun outputHash =>
      if outputHex.length < 16 then none
      else some ((clusters.get outputHex []).map (made outputHash))
  have loop : (order.order clusters.keys).foldlM
      (fun acc outputHex => (yield outputHex).map (acc ++ ·)) [] = some collusion := by
    rw [← detected]
    unfold detectColludingValidators
    congr 1
    funext acc outputHex
    simp only [yield]
    split
    · simp [*]
    · cases decoded : decodeString outputHex with
      | none => simp [*]
      | some outputHash =>
        dsimp only
        split <;> simp [clusters, made, *]
  rw [Option.mem_foldlM_append loop]
  simp only [not_mem_nil, false_or, RangeOrder.mem_order]
  constructor
  · rintro ⟨outputHex, member, values, yielded, present⟩
    obtain ⟨ext, listed, v, reported, wrong, rfl⟩ := mem_wrongClusters_keys.mp member
    simp only [yield, clusters, wrongClusters_get wrong, length_map,
      decodeString_encodeToString, Option.elim_some] at yielded
    split at yielded
    · cases yielded
      cases present
    · rename_i two
      split at yielded
      · cases yielded
      · obtain rfl := Option.some.inj yielded
        obtain ⟨name, named, rfl⟩ := mem_map.mp present
        obtain ⟨reporter, behind, rfl⟩ := mem_map.mp named
        exact ⟨v.outputHash, wrong, not_lt.mp two, reporter, behind, rfl⟩
  · rintro ⟨outputHash, wrong, two, ext, behind, rfl⟩
    obtain ⟨listed, v, reported, rfl⟩ := mem_reporters.mp behind
    have key : encodeToString v.outputHash ∈ clusters.keys :=
      mem_wrongClusters_keys.mpr ⟨ext, listed, v, reported, wrong, rfl⟩
    obtain ⟨values, yielded⟩ := Option.isSome_iff_exists.mp
      (Option.foldlM_append_defined loop _ (order.mem_order.mpr key))
    refine ⟨_, key, values, yielded, ?_⟩
    simp only [yield, clusters, wrongClusters_get wrong, length_map,
      decodeString_encodeToString, Option.elim_some, if_neg (not_lt.mpr two)] at yielded
    split at yielded
    · cases yielded
    · obtain rfl := Option.some.inj yielded
      exact mem_map.mpr ⟨_, mem_map.mpr ⟨ext, behind, rfl⟩, rfl⟩

/-- Every record comes from a decided job and one of the three searches. -/
theorem mem_collectEvidence {aggregated : Map String AggregatedResult} {orders : EvidenceOrders}
    {evidence : List SlashingEvidenceRecord}
    (collected : collectEvidenceFromConsensus ctx aggregated allVotes orders = some evidence) :
    record ∈ evidence ↔ ∃ jobID result, aggregated.lookup jobID = some result ∧
      result.hasConsensus = true ∧ ∃ collusion,
        detectColludingValidators ctx jobID result.outputHash allVotes (orders.clusters jobID) =
          some collusion ∧
        (record ∈ detectInvalidOutputs ctx jobID result.outputHash allVotes ∨
          record ∈ detectDoubleSigners ctx jobID allVotes (orders.signers jobID) ∨
          record ∈ collusion) := by
  let yield (jobID : String) : Option (List SlashingEvidenceRecord) :=
    (aggregated.lookup jobID).elim (some []) fun result =>
      if !result.hasConsensus then some []
      else (detectColludingValidators ctx jobID result.outputHash allVotes
        (orders.clusters jobID)).map fun collusion =>
          detectInvalidOutputs ctx jobID result.outputHash allVotes ++
            (detectDoubleSigners ctx jobID allVotes (orders.signers jobID) ++ collusion)
  have loop : (orders.jobs.order aggregated.keys).foldlM
      (fun acc jobID => (yield jobID).map (acc ++ ·)) [] = some evidence := by
    rw [← collected]
    unfold collectEvidenceFromConsensus
    congr 1
    funext acc jobID
    simp only [yield]
    cases aggregated.lookup jobID with
    | none => simp
    | some result =>
      cases agreed : result.hasConsensus with
      | false => simp [agreed]
      | true =>
        cases detected : detectColludingValidators ctx jobID result.outputHash allVotes
          (orders.clusters jobID) <;> simp [agreed, detected]
  rw [Option.mem_foldlM_append loop]
  simp only [not_mem_nil, false_or, RangeOrder.mem_order]
  constructor
  · rintro ⟨jobID, -, values, yielded, present⟩
    cases found : aggregated.lookup jobID with
    | none =>
      simp only [yield, found, Option.elim_none] at yielded
      cases yielded
      cases present
    | some result =>
      cases agreed : result.hasConsensus with
      | false =>
        simp only [yield, found, agreed, Option.elim_some] at yielded
        cases yielded
        cases present
      | true =>
        simp only [yield, found, agreed, Option.elim_some, Bool.not_true, Bool.false_eq_true, ↓reduceIte,
          Option.map_eq_some_iff] at yielded
        obtain ⟨collusion, detected, rfl⟩ := yielded
        exact ⟨jobID, result, found, agreed, collusion, detected, by simpa using present⟩
  · rintro ⟨jobID, result, found, agreed, collusion, detected, present⟩
    refine ⟨jobID, Map.mem_keys_iff.mpr ⟨result, found⟩,
      detectInvalidOutputs ctx jobID result.outputHash allVotes ++
        (detectDoubleSigners ctx jobID allVotes (orders.signers jobID) ++ collusion), ?_,
      by simpa using present⟩
    simp [yield, found, agreed, detected]

end Aethelred.Pouw
