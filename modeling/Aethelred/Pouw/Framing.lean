import Aethelred.Pouw.EvidenceSpec
import Aethelred.Pouw.Quorum

/- Whether evidence against a validator always comes from its own vote. -/
namespace Aethelred.Pouw

open Go List Option ConsensusHandler

variable (ch : ConsensusHandler)

/-- The extension was not discarded, and it is of the validator whose vote carries it. -/
def ConsensusHandler.Own (vote : ExtendedVoteInfo) (ext : VoteExtensionWire) : Prop :=
  ch.acceptedExtension vote = some ext ∧ validatorAddressBytes ext = some vote.validator.address

/-- The extension is one a record was made of: it has the record's name and reports the job,
with the punished output where the record has one. -/
def Produces (ext : VoteExtensionWire) (record : SlashingEvidenceRecord) : Prop :=
  extractValidatorAddress ext = record.validatorAddress ∧
    ∃ v ∈ successesFor record.jobID ext,
      record.condition = .doubleSign ∨ v.outputHash = record.actualOutput

/-- Two validators report the output in votes of their own. -/
def ConsensusHandler.TwoVoters (votes : List ExtendedVoteInfo)
    (jobID : String) (outputHash : Bytes) : Prop :=
  ∃ u ∈ votes, ∃ w ∈ votes, u.validator.address ≠ w.validator.address ∧
    (∃ ext, ch.Own u ext ∧ Reports ext jobID outputHash) ∧
    ∃ ext, ch.Own w ext ∧ Reports ext jobID outputHash

/-- What no framing asks of the records and of the coins burned for them. -/
structure ConsensusHandler.Unframed (ch : ConsensusHandler) (votes : List ExtendedVoteInfo)
    (evidence : List SlashingEvidenceRecord) : Prop where
  own : ∀ record ∈ evidence, ∀ vote ∈ votes, ∀ ext ∈ vote.voteExtension.parse,
    Produces ext record → ch.Own vote ext
  colluders : ∀ record ∈ evidence, record.condition = .collusion →
    ch.TwoVoters votes record.jobID record.actualOutput
  coins : ∀ codec parseCoinNormalized balances account denom,
    applySlashingPenalties codec parseCoinNormalized ch.keeper.getParams balances evidence account
      denom ≠ balances account denom →
    ∃ vote ∈ votes, ∃ ext, ch.Own vote ext ∧
      codec.accAddressFromBech32 (extractValidatorAddress ext) = some account

/-- Every aggregation that returns punishes only for what validators voted themselves. -/
def NoFraming (ctx : ConsensusContext) (votes : List ExtendedVoteInfo) : Prop :=
  ∀ orders outcome, ch.aggregateVoteExtensions ctx votes orders = some outcome →
    ch.Unframed votes outcome.evidence

/-- A job that may be decided for an output leaves no room for framing. -/
structure ConsensusHandler.FrameProof (ch : ConsensusHandler) (votes : List ExtendedVoteInfo)
    (jobID : String) (outputHash : Bytes) : Prop where
  /-- A foreign extension that reports the job has a name under which only the decided output
  is reported. -/
  foreign : ∀ vote ∈ votes, ∀ ext ∈ vote.voteExtension.parse, ¬ch.Own vote ext →
    successesFor jobID ext ≠ [] → ∀ other ∈ votes, ∀ theirs ∈ other.voteExtension.parse,
      extractValidatorAddress theirs = extractValidatorAddress ext →
        ∀ v ∈ successesFor jobID theirs, v.outputHash = outputHash
  /-- Another output that is reported twice is reported by two validators. -/
  clusters : ∀ wrong, wrong ≠ outputHash →
    2 ≤ (reporters jobID (votes.filterMap fun vote => vote.voteExtension.parse) wrong).length →
      ch.TwoVoters votes jobID wrong

/-- Every job that may be decided is safe from framing. -/
def FrameProofVotes (votes : List ExtendedVoteInfo) : Prop :=
  ∀ totals, ch.voteTotals votes = some totals → ∀ jobID outputHash,
    ch.Reached totals votes jobID outputHash → ch.FrameProof votes jobID outputHash

section

variable {ch : ConsensusHandler} {ctx : ConsensusContext} {votes : List ExtendedVoteInfo}
  {record : SlashingEvidenceRecord} {totals : VoteTotals}

theorem mem_parsed {ext : VoteExtensionWire} :
    ext ∈ (votes.filterMap fun vote => vote.voteExtension.parse) ↔
      ∃ vote ∈ votes, vote.voteExtension.parse = some ext :=
  mem_filterMap

/-- Every record stands for a report of its own name that does not agree with the decision, or
for two that do not agree with each other. -/
structure Disagrees (allVotes : List VoteExtensionWire) (record : SlashingEvidenceRecord)
    (consensusOutput : Bytes) : Prop where
  differing : ∃ ext ∈ allVotes, extractValidatorAddress ext = record.validatorAddress ∧
    ∃ v ∈ successesFor record.jobID ext, v.outputHash ≠ consensusOutput
  produced : ∃ ext ∈ allVotes, Produces ext record

variable {allVotes : List VoteExtensionWire}

variable {jobID : String}

theorem disagrees_of_invalidOutput {consensusOutput : Bytes}
    (member : record ∈ detectInvalidOutputs ctx jobID consensusOutput allVotes) :
    record.jobID = jobID ∧ record.condition ≠ .collusion ∧
      Disagrees allVotes record consensusOutput := by
  obtain ⟨ext, present, v, reported, wrong, rfl⟩ := mem_detectInvalidOutputs.mp member
  exact ⟨rfl, by simp, ⟨ext, present, rfl, v, reported, wrong⟩,
    ext, present, rfl, v, reported, .inr rfl⟩

theorem disagrees_of_doubleSign (consensusOutput : Bytes) {order : RangeOrder String}
    (member : record ∈ detectDoubleSigners ctx jobID allVotes order) :
    record.jobID = jobID ∧ record.condition ≠ .collusion ∧
      Disagrees allVotes record consensusOutput := by
  obtain ⟨condition, rfl, first, second, differ, one, other⟩ := mem_detectDoubleSigners member
  refine ⟨rfl, by simp [condition], ?_, ?_⟩
  · by_cases same : first = consensusOutput
    · obtain ⟨ext, present, named, v, reported, rfl⟩ := other
      exact ⟨ext, present, named, v, reported, fun equal => differ (same.trans equal.symm)⟩
    · obtain ⟨ext, present, named, v, reported, rfl⟩ := one
      exact ⟨ext, present, named, v, reported, same⟩
  · obtain ⟨ext, present, named, v, reported, -⟩ := one
    exact ⟨ext, present, named, v, reported, .inl condition⟩

theorem disagrees_of_collusion {consensusOutput : Bytes} {order : RangeOrder String}
    {collusion : List SlashingEvidenceRecord}
    (detected : detectColludingValidators ctx jobID consensusOutput allVotes order =
      some collusion) (member : record ∈ collusion) :
    record.jobID = jobID ∧ record.actualOutput ≠ consensusOutput ∧
      2 ≤ (reporters jobID allVotes record.actualOutput).length ∧
      Disagrees allVotes record consensusOutput := by
  obtain ⟨outputHash, wrong, two, ext, behind, rfl⟩ :=
    (mem_detectColludingValidators detected).mp member
  obtain ⟨present, v, reported, rfl⟩ := mem_reporters.mp behind
  exact ⟨rfl, wrong, two, ⟨ext, present, rfl, v, reported, wrong⟩,
    ext, present, rfl, v, reported, .inr rfl⟩

/-- Whose balance is burned is named in the evidence. -/
theorem named_of_burned {codec : AddressCodec}
    {parseCoinNormalized : String → Option (String × Nat)} {params : Params} {balances : Balances}
    {evidence : List SlashingEvidenceRecord} {account : Bytes} {denom : String}
    (burned : applySlashingPenalties codec parseCoinNormalized params balances evidence account
      denom ≠ balances account denom) :
    ∃ record ∈ evidence, codec.accAddressFromBech32 record.validatorAddress = some account := by
  unfold applySlashingPenalties at burned
  induction evidence generalizing balances with
  | nil => exact absurd rfl burned
  | cons record rest ih =>
    rw [foldl_cons] at burned
    by_cases here : codec.accAddressFromBech32 record.validatorAddress = some account
    · exact ⟨record, mem_cons_self .., here⟩
    · have kept : ∀ base coin, applySlashingPenalty codec coin base balances record account denom =
          balances account denom := by
        intro base coin
        unfold applySlashingPenalty
        cases resolved : codec.accAddressFromBech32 record.validatorAddress with
        | none => rfl
        | some other =>
          have differ : account ≠ other := by
            rintro rfl
            exact here resolved
          dsimp only
          split
          · rfl
          · exact if_neg fun both => differ both.1
      rw [← kept ((parseCoinNormalized params.slashingPenalty).getD ("uaethel", 10000)).2
        ((parseCoinNormalized params.slashingPenalty).getD ("uaethel", 10000)).1] at burned
      obtain ⟨found, member, names⟩ := ih burned
      exact ⟨found, mem_cons_of_mem _ member, names⟩

theorem ConsensusHandler.FrameProof.own {outputHash : Bytes}
    (safe : ch.FrameProof votes jobID outputHash) (job : record.jobID = jobID)
    (disagrees : Disagrees (votes.filterMap fun vote => vote.voteExtension.parse) record outputHash)
    {vote : ExtendedVoteInfo} (member : vote ∈ votes) {ext : VoteExtensionWire}
    (parsed : vote.voteExtension.parse = some ext) (produces : Produces ext record) :
    ch.Own vote ext := by
  subst job
  by_contra foreign
  obtain ⟨named, v, reported, -⟩ := produces
  obtain ⟨theirs, present, name, wrong, reports, differ⟩ := disagrees.differing
  obtain ⟨other, voted, theirParse⟩ := mem_parsed.mp present
  exact differ (safe.foreign vote member ext parsed foreign (ne_nil_of_mem reported) other
    voted theirs theirParse (name.trans named.symm) wrong reports)

/-- Votes that are frame proof frame nobody. -/
theorem FrameProofVotes.noFraming (safe : FrameProofVotes ch votes) : NoFraming ch ctx votes := by
  intro orders outcome returned
  cases counted : ch.voteTotals votes with
  | none =>
    rw [aggregate_none counted returned]
    exact ⟨by simp, by simp, fun _ _ _ _ _ burned => absurd rfl burned⟩
  | some totals =>
    obtain ⟨-, collected⟩ := aggregate_some counted returned
    have records : ∀ record ∈ outcome.evidence, ∃ jobID outputHash, record.jobID = jobID ∧
        ch.FrameProof votes jobID outputHash ∧
        Disagrees (votes.filterMap fun vote => vote.voteExtension.parse) record outputHash ∧
        (record.condition = .collusion → ch.TwoVoters votes jobID record.actualOutput) := by
      intro record member
      obtain ⟨jobID, result, found, agreed, collusion, detected, present⟩ :=
        (mem_collectEvidence collected).mp member
      obtain ⟨first, outputHash, -, reached, -, rfl⟩ :=
        decided_of_lookup counted returned found agreed
      have job := safe totals counted jobID outputHash reached
      refine ⟨jobID, outputHash, ?_⟩
      rcases present with invalid | double | colluding
      · obtain ⟨named, other, disagrees⟩ := disagrees_of_invalidOutput invalid
        exact ⟨named, job, disagrees, fun same => absurd same other⟩
      · obtain ⟨named, other, disagrees⟩ := disagrees_of_doubleSign outputHash double
        exact ⟨named, job, disagrees, fun same => absurd same other⟩
      · obtain ⟨named, wrong, two, disagrees⟩ := disagrees_of_collusion detected colluding
        exact ⟨named, job, disagrees, fun _ => job.clusters _ wrong two⟩
    refine ⟨?_, ?_, ?_⟩
    · intro record member vote voted ext parsed produces
      obtain ⟨jobID, outputHash, named, job, disagrees, -⟩ := records record member
      exact job.own named disagrees voted parsed produces
    · intro record member collusion
      obtain ⟨jobID, outputHash, rfl, -, -, voters⟩ := records record member
      exact voters collusion
    · intro codec parseCoinNormalized balances account denom burned
      obtain ⟨record, member, resolved⟩ := named_of_burned burned
      obtain ⟨jobID, outputHash, named, job, disagrees, -⟩ := records record member
      obtain ⟨ext, present, produces⟩ := disagrees.produced
      obtain ⟨vote, voted, parsed⟩ := mem_parsed.mp present
      refine ⟨vote, voted, ext, job.own named disagrees voted parsed produces, ?_⟩
      rw [produces.1]
      exact resolved

/-- Where outputs are long enough to be logged, a job that may be decided is decided in some
order, and its records are made. -/
theorem NoFraming.frameProofVotes (unframed : NoFraming ch ctx votes) (long : LongOutputs votes) :
    FrameProofVotes ch votes := by
  intro totals counted jobID outputHash reached
  obtain ⟨orders, outcome, first, returned, -, found⟩ := exists_deciding long ctx counted reached
  obtain ⟨-, collected⟩ := aggregate_some counted returned
  have safe := unframed orders outcome returned
  have made : ∃ collusion, detectColludingValidators ctx jobID outputHash
      (votes.filterMap fun vote => vote.voteExtension.parse) (orders.evidence.clusters jobID) =
        some collusion := detectColludingValidators_total ctx long jobID outputHash _
  obtain ⟨collusion, detected⟩ := made
  have recorded : ∀ record,
      (record ∈ detectInvalidOutputs ctx jobID outputHash
          (votes.filterMap fun vote => vote.voteExtension.parse) ∨
        record ∈ detectDoubleSigners ctx jobID
          (votes.filterMap fun vote => vote.voteExtension.parse) (orders.evidence.signers jobID) ∨
        record ∈ collusion) → record ∈ outcome.evidence := fun record present =>
    (mem_collectEvidence collected).mpr ⟨jobID, _, found, rfl, collusion, detected, present⟩
  constructor
  · intro vote member ext parsed foreign reports other voted theirs theirParse named v reported
    by_contra wrong
    obtain ⟨mine, ownReport⟩ := exists_mem_of_ne_nil _ reports
    have present := mem_parsed.mpr ⟨vote, member, parsed⟩
    by_cases agrees : mine.outputHash = outputHash
    · -- Its report agrees with the decision, another under its name does not: a double sign.
      obtain ⟨record, double, condition, rfl, name⟩ := exists_doubleSign ctx
        (orders.evidence.signers jobID) (fun same => wrong (same.symm.trans agrees))
        ⟨ext, present, rfl, mine, ownReport, rfl⟩
        ⟨theirs, mem_parsed.mpr ⟨other, voted, theirParse⟩, named, v, reported, rfl⟩
      exact foreign (safe.own record (recorded record (.inr (.inl double))) vote member ext parsed
        ⟨name.symm, mine, ownReport, .inl condition⟩)
    · exact foreign (safe.own _ (recorded _ (.inl (mem_detectInvalidOutputs.mpr
        ⟨ext, present, mine, ownReport, agrees, rfl⟩))) vote member ext parsed
        ⟨rfl, mine, ownReport, .inr rfl⟩)
  · intro wrong differ two
    obtain ⟨ext, behind⟩ := exists_mem_of_length_pos (by omega :
      0 < (reporters jobID (votes.filterMap fun vote => vote.voteExtension.parse) wrong).length)
    exact safe.colluders _ (recorded _ (.inr (.inr ((mem_detectColludingValidators detected).mpr
      ⟨wrong, differ, two, ext, behind, rfl⟩)))) rfl

end

/-- Nobody is framed when every job that may be decided is safe from it, and only then where
reported outputs have the bytes that are logged. -/
theorem noFraming_iff (ch : ConsensusHandler) (ctx : ConsensusContext)
    (votes : List ExtendedVoteInfo) :
    (FrameProofVotes ch votes → NoFraming ch ctx votes) ∧
      (LongOutputs votes → (NoFraming ch ctx votes ↔ FrameProofVotes ch votes)) :=
  ⟨fun safe => safe.noFraming,
    fun long => ⟨fun unframed => unframed.frameProofVotes long, fun safe => safe.noFraming⟩⟩

namespace Sample

def victim : String := "aethel1qyqszqgpqyqszqgpqyqszqgpqyqszqgpmck7ne"

def victimAccount : Bytes := replicate 20 1

def victimCodec : AddressCodec where
  accAddressFromBech32 address := if address = victim then some victimAccount else none
  valAddressFromBech32 _ := none
  accAddressString bytes := if bytes = victimAccount then victim else ""

def framed : List ExtendedVoteInfo :=
  [vote victimAccount 40 [success "job" (digest 1) (digest 2) (digest 3)],
    vote (replicate 20 2) 40 [success "job" (digest 1) (digest 2) (digest 3)],
    ⟨⟨replicate 20 9, 20⟩, .wire
      { height := 1
        validatorAddress := some (.str victim)
        verifications := [success "job" (digest 1) (digest 2) (digest 4)]
        timestamp := Time.zero
        signature := some (.str "AQ==")
        extensionHash := some (.str "AQ==") }⟩]

def doubled : List ExtendedVoteInfo :=
  [vote [1] 40 [success "job" (digest 1) (digest 2) (digest 3)],
    vote [2] 40 [success "job" (digest 1) (digest 2) (digest 3)],
    vote [9] 20 [success "job" (digest 1) (digest 2) (digest 4),
      success "job" (digest 1) (digest 2) (digest 4)]]

theorem voter_doubled {u : ExtendedVoteInfo} (member : u ∈ doubled) {ext : VoteExtensionWire}
    (own : Own { keeper := {} } u ext) (reports : Reports ext "job" (digest 4)) :
    u.validator.address = [9] := by
  have parsed := (acceptedExtension_eq_some.mp own.1).parsed
  simp only [doubled, mem_cons, not_mem_nil, or_false] at member
  rcases member with rfl | rfl | rfl
  · rw [← some.inj parsed] at reports
    exact absurd reports (by decide)
  · rw [← some.inj parsed] at reports
    exact absurd reports (by decide)
  · rfl

def parsePenalty (text : String) : Option (String × Nat) :=
  if text = "10000uaethel" then some ("uaethel", 10000) else none

def savings : Balances := fun account denom =>
  if account = victimAccount ∧ denom = "uaethel" then 10000 else 0

end Sample

open Sample in
/-- The extension is discarded, and the first validator pays for it; and one validator alone is
punished for collusion. -/
theorem noFraming_fails :
    (∃ outcome ∈ aggregateVoteExtensions { keeper := {} } blockZero framed .asGiven,
      applySlashingPenalties victimCodec parsePenalty Params.default savings outcome.evidence
        victimAccount "uaethel" = 0) ∧
      ¬NoFraming { keeper := {} } blockZero framed ∧
      ¬NoFraming { keeper := {} } blockZero doubled := by
  have burned : ∃ outcome ∈
      aggregateVoteExtensions { keeper := {} } blockZero framed .asGiven,
      applySlashingPenalties victimCodec parsePenalty Params.default savings outcome.evidence
        victimAccount "uaethel" = 0 := by
    decide +kernel
  have punished : ∃ outcome ∈
      aggregateVoteExtensions { keeper := {} } blockZero doubled .asGiven,
      ∃ record ∈ outcome.evidence, record.condition = .collusion ∧ record.jobID = "job" ∧
        record.actualOutput = digest 4 := by
    decide +kernel
  refine ⟨burned, fun unframed => ?_, fun unframed => ?_⟩
  · obtain ⟨outcome, returned, gone⟩ := burned
    have paid : applySlashingPenalties victimCodec parsePenalty Params.default savings
        outcome.evidence victimAccount "uaethel" ≠ savings victimAccount "uaethel" := by
      rw [gone]
      decide
    obtain ⟨vote, member, ext, ⟨accepted, -⟩, resolved⟩ := (unframed _ outcome returned).coins
      victimCodec parsePenalty savings victimAccount "uaethel" paid
    have parsed := (acceptedExtension_eq_some.mp accepted).parsed
    simp only [framed, mem_cons, not_mem_nil, or_false] at member
    rcases member with rfl | rfl | rfl
    · rw [← some.inj parsed] at resolved
      exact absurd resolved (by decide +kernel)
    · rw [← some.inj parsed] at resolved
      exact absurd resolved (by decide +kernel)
    · cases accepted
  · obtain ⟨outcome, returned, record, member, collusion, job, output⟩ := punished
    obtain ⟨u, one, w, other, differ, ⟨mine, ownMine, reportsMine⟩, theirs, ownTheirs,
      reportsTheirs⟩ := (unframed _ outcome returned).colluders record member collusion
    rw [job, output] at reportsMine reportsTheirs
    exact differ ((voter_doubled one ownMine reportsMine).trans
      (voter_doubled other ownTheirs reportsTheirs).symm)

namespace Sample

/-- Two validators with one output, and a third with another. -/
def dissenting : List ExtendedVoteInfo :=
  [vote [1] 40 [success "job" (digest 1) (digest 2) (digest 3)],
    vote [2] 40 [success "job" (digest 1) (digest 2) (digest 3)],
    vote [9] 20 [success "job" (digest 1) (digest 2) (digest 4)]]

theorem own_dissenting {u : ExtendedVoteInfo} (member : u ∈ dissenting) {ext : VoteExtensionWire}
    (parsed : u.voteExtension.parse = some ext) :
    Own { keeper := {} } u ext ∧
      ∀ jobID, ∀ v ∈ successesFor jobID ext, jobID = "job" := by
  simp only [dissenting, mem_cons, not_mem_nil, or_false] at member
  rcases member with rfl | rfl | rfl
  all_goals
    obtain rfl := some.inj parsed
    refine ⟨⟨rfl, by decide +kernel⟩, fun jobID v reported => ?_⟩
    obtain ⟨-, listed, named, -⟩ := mem_successesFor.mp reported
    rw [mem_singleton.mp listed] at named
    exact named.symm

/-- A dissenting vote alone frames nobody. -/
theorem frameProof_dissenting : FrameProofVotes { keeper := {} } dissenting := by
  intro totals counted jobID outputHash reached
  refine ⟨fun vote member ext parsed foreign => absurd (own_dissenting member parsed).1 foreign,
    fun wrong differ two => ?_⟩
  obtain ⟨ext, behind⟩ := exists_mem_of_length_pos (Nat.lt_of_lt_of_le Nat.two_pos two)
  obtain ⟨present, v, reported, -⟩ := mem_reporters.mp behind
  obtain ⟨vote, voted, parsed⟩ := mem_parsed.mp present
  obtain rfl := (own_dissenting voted parsed).2 jobID v reported
  by_cases shared : wrong = digest 3
  · subst shared
    exact ⟨_, .head _, _, .tail _ (.head _), by decide,
      ⟨_, (own_dissenting (.head _) rfl).1, by decide +kernel⟩,
      ⟨_, (own_dissenting (.tail _ (.head _)) rfl).1, by decide +kernel⟩⟩
  · have outputs : ((dissenting.filterMap fun vote => vote.voteExtension.parse).flatMap
        fun ext => (successesFor "job" ext).map fun v => (ext, v)).map (fun entry =>
          entry.2.outputHash) = [digest 3, digest 3, digest 4] := by decide +kernel
    have once : countP (fun output => decide (output = wrong))
        [digest 3, digest 3, digest 4] ≤ 1 := by
      simp only [countP_cons, countP_nil, Ne.symm shared, decide_false, Bool.false_eq_true,
        if_false]
      split <;> decide
    rw [← outputs, countP_map, countP_eq_length_filter] at once
    rw [reporters, length_map] at two
    exact absurd (two.trans once) (by decide)

end Sample

open Sample in
/-- The dissenter has a record, for its own vote, and nobody is framed. -/
theorem noFraming_dissenting :
    (∃ outcome ∈ aggregateVoteExtensions { keeper := {} } blockZero dissenting
        .asGiven,
      outcome.evidence.map (fun record => (record.validatorAddress, record.condition)) =
        [(Base64.encodeToString [9], .invalidOutput)]) ∧
      NoFraming { keeper := {} } blockZero dissenting :=
  ⟨by decide +kernel, (noFraming_iff _ _ _).1 frameProof_dissenting⟩

end Aethelred.Pouw
