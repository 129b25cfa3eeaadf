import Aethelred.Pouw.EvidenceSystem
import Aethelred.Lib.Run
import Mathlib.Data.String.Basic

/- Whom the evidence processor slashes for double voting, over any sequence of its calls. -/
namespace Aethelred.Pouw

open Go List AList

/-- The calls that record votes and process evidence. The processing reads the stores as they are
then. -/
inductive EvidenceCall where
  | recordValidatorParticipation (blockHeight : I64) (validatorAddr : String)
      (extensionHash : Bytes) (jobOutputs : Map String Bytes)
  | processEndBlockEvidence (blockHeight : I64) (k : Keeper) (order : RangeOrder String)

/-- The votes name the same output for every job. -/
def SameOutputs (first second : Map String Bytes) : Prop :=
  ∀ jobID, first.lookup jobID = second.lookup jobID

namespace SameOutputs

variable {first second third : Map String Bytes}

theorem trans (same : SameOutputs first second) (too : SameOutputs second third) :
    SameOutputs first third :=
  fun jobID => (same jobID).trans (too jobID)

theorem sortedJobIDs_eq (same : SameOutputs first second) :
    sortedJobIDs first = sortedJobIDs second := by
  have perm := ((perm_insertionSort (· ≤ ·) first.keys).trans
    (Map.keys_perm_of_lookup same)).trans (perm_insertionSort (· ≤ ·) second.keys).symm
  exact perm.eq_of_pairwise' (pairwise_insertionSort _ _) (pairwise_insertionSort _ _)

theorem computeVoteHash_eq (crypto : Crypto) (same : SameOutputs first second) :
    computeVoteHash crypto first = computeVoteHash crypto second := by
  have outputs (jobID : String) : first.get jobID (replicate 32 0) =
      second.get jobID (replicate 32 0) := by
    unfold Map.get
    rw [same jobID]
  unfold computeVoteHash
  rw [same.sortedJobIDs_eq]
  simp only [outputs]

end SameOutputs

namespace EvidenceCall

variable (crypto : Crypto) (blockMissConfig : BlockMissConfig)
  (slashingConfig : EvidenceSlashingConfig)

def run (ep : EvidenceProcessor) : EvidenceCall → List (EquivocationEvidence × SlashResult) ×
    EvidenceProcessor
  | .recordValidatorParticipation blockHeight validatorAddr extensionHash jobOutputs =>
    ([], (ep.recordValidatorParticipation crypto blockMissConfig blockHeight.val validatorAddr
      extensionHash jobOutputs).2)
  | .processEndBlockEvidence blockHeight k order =>
    let (result, ep, _) := ep.processEndBlockEvidence crypto blockMissConfig slashingConfig
      blockHeight.val k order
    (result.equivocationSlashes, ep)

/-- The slashes of a call are added to those before it. -/
def step (state : List (EquivocationEvidence × SlashResult) × EvidenceProcessor)
    (call : EvidenceCall) : List (EquivocationEvidence × SlashResult) × EvidenceProcessor :=
  let (slashes, ep) := run crypto blockMissConfig slashingConfig state.2 call
  (state.1 ++ slashes, ep)

variable (calls : List EvidenceCall)

def after : List (EquivocationEvidence × SlashResult) × EvidenceProcessor :=
  Run.exec (step crypto blockMissConfig slashingConfig) ([], {}) calls

/-- Whether the call records a vote of the validator at the height with these outputs. -/
def Delivers (validatorAddr : String) (blockHeight : Int) (outputs : Map String Bytes) :
    EvidenceCall → Prop
  | .recordValidatorParticipation height addr _ jobOutputs =>
    addr = validatorAddr ∧ height.val = blockHeight ∧ SameOutputs jobOutputs outputs
  | .processEndBlockEvidence _ _ _ => False

/-- Evidence against one validator at one height with the same two votes, in either order. -/
def SamePair (first second : EquivocationEvidence) : Prop :=
  first.validatorAddress = second.validatorAddress ∧ first.blockHeight = second.blockHeight ∧
    ((SameOutputs first.vote1.outputHashes second.vote1.outputHashes ∧
        SameOutputs first.vote2.outputHashes second.vote2.outputHashes) ∨
      (SameOutputs first.vote1.outputHashes second.vote2.outputHashes ∧
        SameOutputs first.vote2.outputHashes second.vote1.outputHashes))

/-- Two different votes of the validator at the height were recorded. -/
def Founded (evidence : EquivocationEvidence) : Prop :=
  ¬SameOutputs evidence.vote1.outputHashes evidence.vote2.outputHashes ∧
    ∀ vote ∈ [evidence.vote1, evidence.vote2], ∃ call ∈ calls,
      call.Delivers evidence.validatorAddress evidence.blockHeight vote.outputHashes

/-- Every slash has two different recorded votes, and no two slashes have the same two. -/
structure DoubleVoteLaw (calls : List EvidenceCall) : Prop where
  founded : ∀ slash ∈ (after crypto blockMissConfig slashingConfig calls).1,
    slash.2.validatorAddress = slash.1.validatorAddress ∧ Founded calls slash.1
  once : (after crypto blockMissConfig slashingConfig calls).1.Pairwise
    fun first second => ¬SamePair first.1 second.1

/-- A vote that differs from one on record was not recorded before. -/
def FirstTime : Prop :=
  ∀ before blockHeight validatorAddr extensionHash jobOutputs rest,
    calls = before ++
      .recordValidatorParticipation blockHeight validatorAddr extensionHash jobOutputs :: rest →
    (∃ vote ∈ (after crypto blockMissConfig slashingConfig
      before).2.doubleVotingDetector.votesAt validatorAddr blockHeight.val,
        ¬SameOutputs vote.outputHashes jobOutputs) →
      ∀ earlier ∈ before, ¬earlier.Delivers validatorAddr blockHeight.val jobOutputs

end EvidenceCall

namespace DoubleVotingDetector

variable {cutoffHeight : Int}

theorem lookup_pruneHeights {heights : Map Int (List VoteRecord)} {height : Int}
    {votes : List VoteRecord}
    (kept : (pruneHeights cutoffHeight heights).lookup height = some votes) :
    heights.lookup height = some votes := by
  have pruned (keys : List Int) (start : Map Int (List VoteRecord))
      (found : (keys.foldl (fun kept height =>
        if height < cutoffHeight then kept.erase height else kept) start).lookup height =
          some votes) : start.lookup height = some votes := by
    induction keys generalizing start with
    | nil => exact found
    | cons key rest ih =>
      rw [foldl_cons] at found
      have later := ih _ found
      split at later
      · by_cases same : height = key
        · subst same
          rw [lookup_erase] at later
          cases later
        · rwa [lookup_erase_ne same] at later
      · exact later
  exact pruned _ _ kept

def votesIn (history : Map String (Map Int (List VoteRecord))) (validatorAddr : String)
    (blockHeight : Int) : List VoteRecord :=
  (history.get validatorAddr ∅).get blockHeight []

theorem mem_get_pruneHeights {heights : Map Int (List VoteRecord)} {height : Int}
    {vote : VoteRecord} (kept : vote ∈ (pruneHeights cutoffHeight heights).get height []) :
    vote ∈ heights.get height [] := by
  unfold Map.get at kept ⊢
  cases found : (pruneHeights cutoffHeight heights).lookup height with
  | none =>
    rw [found] at kept
    cases kept
  | some votes =>
    rw [lookup_pruneHeights found]
    rwa [found] at kept

/-- Pruning adds no vote. -/
theorem mem_votesAt_pruneOldHistory {d : DoubleVotingDetector}
    {validatorAddr : String} {blockHeight : Int} {vote : VoteRecord}
    (kept : vote ∈ (d.pruneOldHistory cutoffHeight).votesAt validatorAddr blockHeight) :
    vote ∈ d.votesAt validatorAddr blockHeight := by
  have pruned (keys : List String) (start : Map String (Map Int (List VoteRecord)))
      (found : vote ∈ votesIn (keys.foldl (fun history addr =>
        let kept := pruneHeights cutoffHeight (history.get addr ∅)
        if kept.keys.length = 0 then history.erase addr else history.insert addr kept) start)
          validatorAddr blockHeight) : vote ∈ votesIn start validatorAddr blockHeight := by
    induction keys generalizing start with
    | nil => exact found
    | cons key rest ih =>
      rw [foldl_cons] at found
      have later := ih _ found
      unfold votesIn at later ⊢
      dsimp only at later
      split at later
      · unfold Map.get at later ⊢
        by_cases same : validatorAddr = key
        · subst same
          rw [lookup_erase] at later
          cases later
        · rwa [lookup_erase_ne same] at later
      · rw [Map.get_insert_eq] at later
        split at later
        · rename_i same
          rw [same]
          exact mem_get_pruneHeights later
        · exact later
  exact pruned _ _ kept

theorem votesAt_update (d : DoubleVotingDetector) (validatorAddr addr : String)
    (blockHeight height : Int) (votes : List VoteRecord) :
    ({ d with voteHistory := d.voteHistory.update validatorAddr ∅ fun heights =>
        heights.insert blockHeight votes } : DoubleVotingDetector).votesAt addr height =
      if addr = validatorAddr ∧ height = blockHeight then votes else d.votesAt addr height := by
  unfold votesAt
  dsimp only
  rw [Map.get_update]
  by_cases same : addr = validatorAddr
  · subst same
    rw [if_pos rfl, Map.get_insert_eq]
    by_cases too : height = blockHeight
    · subst too
      rw [if_pos rfl, if_pos ⟨rfl, rfl⟩]
    · rw [if_neg too, if_neg fun both => too both.2]
  · rw [if_neg same, if_neg fun both => same both.1]

end DoubleVotingDetector

namespace EvidenceProcessor

variable (crypto : Crypto) (blockMissConfig : BlockMissConfig)
  (slashingConfig : EvidenceSlashingConfig) (blockHeight : Int)

theorem validatorAddress_slashEquivocation {pending : List EquivocationEvidence}
    {done : List (EquivocationEvidence × SlashResult)} {k : Keeper}
    (named : ∀ slash ∈ done, slash.2.validatorAddress = slash.1.validatorAddress) :
    ∀ slash ∈ (pending.foldl (slashEquivocation slashingConfig blockHeight) (done, k)).1,
      slash.2.validatorAddress = slash.1.validatorAddress := by
  induction pending generalizing done k with
  | nil => exact named
  | cons evidence rest ih =>
    rw [foldl_cons]
    apply ih
    intro slash made
    rcases mem_append.mp made with earlier | last
    · exact named slash earlier
    · rw [mem_singleton.mp last]

/-- Evidence is processed in full or kept for later. -/
theorem processEndBlockEvidence_spec (ep : EvidenceProcessor) (k : Keeper)
    (order : RangeOrder String) :
    let outcome :=
      ep.processEndBlockEvidence crypto blockMissConfig slashingConfig blockHeight k order
    outcome.1.equivocationSlashes.map Prod.fst = ep.doubleVotingDetector.detectedEquivocations ∧
      (∀ slash ∈ outcome.1.equivocationSlashes,
        slash.2.validatorAddress = slash.1.validatorAddress) ∧
      outcome.2.1.doubleVotingDetector.detectedEquivocations = [] ∧
      ∀ addr height, ∀ vote ∈ outcome.2.1.doubleVotingDetector.votesAt addr height,
        vote ∈ ep.doubleVotingDetector.votesAt addr height := by
  unfold processEndBlockEvidence
  dsimp only
  generalize foldl (slashDowntime crypto slashingConfig blockHeight) _ _ = downtime
  have slashed := foldl_slashEquivocation slashingConfig blockHeight
    ep.doubleVotingDetector.getPendingEquivocations [] downtime.2
  have named : ∀ slash ∈ (ep.doubleVotingDetector.getPendingEquivocations.foldl
      (slashEquivocation slashingConfig blockHeight) ([], downtime.2)).1,
        slash.2.validatorAddress = slash.1.validatorAddress :=
    validatorAddress_slashEquivocation slashingConfig blockHeight fun slash made => nomatch made
  generalize foldl (slashEquivocation slashingConfig blockHeight) _ _ = equivocations at *
  rw [map_nil, nil_append] at slashed
  refine ⟨slashed, named, ?_, ?_⟩
  · split
    · apply filter_eq_nil_iff.mpr
      intro evidence pending
      rw [← DoubleVotingDetector.getPendingEquivocations, ← slashed] at pending
      obtain ⟨slash, made, rfl⟩ := mem_map.mp pending
      have processed := mem_map_of_mem (f := fun slash => slash.1.evidenceHash) made
      simpa using processed
    · rename_i none
      rw [length_map] at none
      have empty : equivocations.1 = [] := length_eq_zero_iff.mp (by omega)
      rw [empty] at slashed
      exact slashed.symm
  · intro addr height vote kept
    have before := DoubleVotingDetector.mem_votesAt_pruneOldHistory kept
    split at before
    · exact before
    · exact before

end EvidenceProcessor

namespace EvidenceCall

variable (crypto : Crypto) (blockMissConfig : BlockMissConfig)
  (slashingConfig : EvidenceSlashingConfig)

def evidenceOf (state : List (EquivocationEvidence × SlashResult) × EvidenceProcessor) :
    List EquivocationEvidence :=
  state.1.map Prod.fst ++ state.2.doubleVotingDetector.detectedEquivocations

/-- Votes on record and evidence come from the calls. -/
structure Recorded (calls : List EvidenceCall)
    (state : List (EquivocationEvidence × SlashResult) × EvidenceProcessor) : Prop where
  named : ∀ slash ∈ state.1, slash.2.validatorAddress = slash.1.validatorAddress
  stored : ∀ addr height, ∀ vote ∈ state.2.doubleVotingDetector.votesAt addr height,
    vote.voteHash = computeVoteHash crypto vote.outputHashes ∧
      ∃ call ∈ calls, call.Delivers addr height vote.outputHashes
  founded : ∀ evidence ∈ evidenceOf state, Founded calls evidence

variable {crypto blockMissConfig slashingConfig}

variable {calls : List EvidenceCall}

theorem Founded.later {evidence : EquivocationEvidence} (founded : Founded calls evidence)
    (call : EvidenceCall) : Founded (calls ++ [call]) evidence := by
  refine ⟨founded.1, fun vote listed => ?_⟩
  obtain ⟨source, member, delivers⟩ := founded.2 vote listed
  exact ⟨source, mem_append_left _ member, delivers⟩

/-- A recorded vote is one more piece of evidence against a vote on record, or goes on record. -/
theorem step_participation (crypto : Crypto) (blockMissConfig : BlockMissConfig)
    (slashingConfig : EvidenceSlashingConfig)
    (state : List (EquivocationEvidence × SlashResult) × EvidenceProcessor) (blockHeight : I64)
    (validatorAddr : String) (extensionHash : Bytes) (jobOutputs : Map String Bytes) :
    let after := step crypto blockMissConfig slashingConfig state
      (.recordValidatorParticipation blockHeight validatorAddr extensionHash jobOutputs)
    let vote := DoubleVotingDetector.newVote crypto extensionHash jobOutputs
    after.1 = state.1 ∧
      ((∃ existingVote ∈ state.2.doubleVotingDetector.votesAt validatorAddr blockHeight.val,
        existingVote.voteHash ≠ computeVoteHash crypto jobOutputs ∧
          evidenceOf after = evidenceOf state ++ [DoubleVotingDetector.evidenceOf crypto
            validatorAddr blockHeight.val existingVote vote] ∧
          after.2.doubleVotingDetector.votesAt = state.2.doubleVotingDetector.votesAt) ∨
        (evidenceOf after = evidenceOf state ∧
          ∀ addr height, ∀ kept ∈ after.2.doubleVotingDetector.votesAt addr height,
            kept ∈ state.2.doubleVotingDetector.votesAt addr height ∨
              (addr = validatorAddr ∧ height = blockHeight.val ∧ kept = vote))) := by
  dsimp only
  have slashes : (step crypto blockMissConfig slashingConfig state (.recordValidatorParticipation
      blockHeight validatorAddr extensionHash jobOutputs)).1 = state.1 := append_nil _
  have detector : (step crypto blockMissConfig slashingConfig state (.recordValidatorParticipation
      blockHeight validatorAddr extensionHash jobOutputs)).2.doubleVotingDetector =
        (state.2.doubleVotingDetector.recordVote crypto validatorAddr blockHeight.val extensionHash
          jobOutputs).2 := rfl
  refine ⟨slashes, ?_⟩
  unfold evidenceOf
  rw [slashes, detector]
  unfold DoubleVotingDetector.recordVote
  dsimp only
  split
  next existingVote found =>
    left
    have differs := find?_some found
    exact ⟨existingVote, mem_of_find?_eq_some found, of_decide_eq_true differs,
      (append_assoc _ _ _).symm, rfl⟩
  next =>
    right
    refine ⟨rfl, fun addr height kept listed => ?_⟩
    rw [DoubleVotingDetector.votesAt_update] at listed
    split at listed
    · rename_i same
      obtain ⟨rfl, rfl⟩ := same
      rcases mem_append.mp listed with old | new
      · exact .inl old
      · exact .inr ⟨rfl, rfl, mem_singleton.mp new⟩
    · exact .inl listed

theorem step_endBlock (state : List (EquivocationEvidence × SlashResult) × EvidenceProcessor)
    (blockHeight : I64) (k : Keeper) (order : RangeOrder String) :
    evidenceOf (step crypto blockMissConfig slashingConfig state
      (.processEndBlockEvidence blockHeight k order)) = evidenceOf state := by
  obtain ⟨slashed, _, none, _⟩ := state.2.processEndBlockEvidence_spec crypto blockMissConfig
    slashingConfig blockHeight.val k order
  unfold evidenceOf step run
  dsimp only
  rw [none, append_nil, map_append, slashed]

/-- Every call keeps what is recorded true of the calls made. -/
theorem Recorded.step {state : List (EquivocationEvidence × SlashResult) × EvidenceProcessor}
    (recorded : Recorded crypto calls state) (call : EvidenceCall) :
    Recorded crypto (calls ++ [call])
      (EvidenceCall.step crypto blockMissConfig slashingConfig state call) := by
  have storedLater : ∀ addr height, ∀ vote ∈ state.2.doubleVotingDetector.votesAt addr height,
      vote.voteHash = computeVoteHash crypto vote.outputHashes ∧
        ∃ source ∈ calls ++ [call], source.Delivers addr height vote.outputHashes := by
    intro addr height vote listed
    obtain ⟨hashed, source, member, delivers⟩ := recorded.stored addr height vote listed
    exact ⟨hashed, source, mem_append_left _ member, delivers⟩
  cases call with
  | recordValidatorParticipation blockHeight validatorAddr extensionHash jobOutputs =>
    have delivered : ∃ source ∈ calls ++ [EvidenceCall.recordValidatorParticipation blockHeight
        validatorAddr extensionHash jobOutputs],
        source.Delivers validatorAddr blockHeight.val jobOutputs :=
      ⟨_, mem_append_right _ (mem_singleton_self _), rfl, rfl, fun _ => rfl⟩
    obtain ⟨slashes, ⟨existingVote, listed, differs, evidence, votes⟩ | ⟨evidence, votes⟩⟩ :=
      step_participation crypto blockMissConfig slashingConfig state blockHeight
        validatorAddr extensionHash jobOutputs
    · refine ⟨slashes ▸ recorded.named, votes ▸ storedLater, fun found member => ?_⟩
      rw [evidence] at member
      rcases mem_append.mp member with earlier | new
      · exact (recorded.founded found earlier).later _
      · rw [mem_singleton.mp new]
        obtain ⟨hashed, source, given, delivers⟩ := storedLater _ _ existingVote listed
        refine ⟨fun same => ?_, fun vote either => ?_⟩
        · rw [hashed] at differs
          exact differs (same.computeVoteHash_eq crypto)
        · rcases mem_cons.mp either with rfl | second
          · exact ⟨source, given, delivers⟩
          · rw [mem_singleton.mp second]
            exact delivered
    · refine ⟨slashes ▸ recorded.named, fun addr height kept listed => ?_, fun found member => ?_⟩
      · rcases votes addr height kept listed with old | ⟨rfl, rfl, rfl⟩
        · exact storedLater addr height kept old
        · exact ⟨rfl, delivered⟩
      · rw [evidence] at member
        exact (recorded.founded found member).later _
  | processEndBlockEvidence blockHeight k order =>
    obtain ⟨slashed, named, none, kept⟩ := state.2.processEndBlockEvidence_spec crypto
      blockMissConfig slashingConfig blockHeight.val k order
    refine ⟨?_, fun addr height vote listed => storedLater addr height vote (kept _ _ _ listed), ?_⟩
    · intro slash made
      rcases mem_append.mp made with earlier | new
      · exact recorded.named slash earlier
      · exact named slash new
    · intro evidence listed
      rw [step_endBlock] at listed
      exact (recorded.founded evidence listed).later _

theorem recorded_after (calls : List EvidenceCall) :
    Recorded crypto calls (after crypto blockMissConfig slashingConfig calls) := by
  induction calls using reverseRecOn with
  | nil =>
    exact ⟨fun slash made => (nomatch made), fun addr height vote listed => (nomatch listed),
      fun evidence listed => (nomatch listed)⟩
  | append_singleton before call ih =>
    unfold after
    rw [Run.exec_concat]
    exact ih.step call

theorem FirstTime.earlier {before : List EvidenceCall} {call : EvidenceCall}
    (first : FirstTime crypto blockMissConfig slashingConfig (before ++ [call])) :
    FirstTime crypto blockMissConfig slashingConfig before := by
  intro earlier blockHeight validatorAddr extensionHash jobOutputs rest split
  apply first earlier blockHeight validatorAddr extensionHash jobOutputs (rest ++ [call])
  rw [split, append_assoc, cons_append]

/-- No two votes make evidence twice, where each differing vote comes for the first time. -/
theorem pairwise_evidenceOf (first : FirstTime crypto blockMissConfig slashingConfig calls) :
    (evidenceOf (after crypto blockMissConfig slashingConfig calls)).Pairwise
      fun earlier later => ¬SamePair earlier later := by
  induction calls using reverseRecOn with
  | nil => exact Pairwise.nil
  | append_singleton before call ih =>
    have distinct := ih first.earlier
    have recorded : Recorded crypto before (after crypto blockMissConfig slashingConfig before) :=
      recorded_after before
    have last : after crypto blockMissConfig slashingConfig (before ++ [call]) =
        step crypto blockMissConfig slashingConfig
          (after crypto blockMissConfig slashingConfig before) call := Run.exec_concat _ _ _
    rw [last]
    cases call with
    | processEndBlockEvidence blockHeight k order =>
      rw [step_endBlock]
      exact distinct
    | recordValidatorParticipation blockHeight validatorAddr extensionHash jobOutputs =>
      obtain ⟨_, ⟨existingVote, listed, differs, evidence, _⟩ | ⟨evidence, _⟩⟩ :=
        step_participation crypto blockMissConfig slashingConfig
          (after crypto blockMissConfig slashingConfig before) blockHeight validatorAddr
          extensionHash jobOutputs
      · rw [evidence, pairwise_append]
        refine ⟨distinct, pairwise_singleton _ _, fun earlier member new added pair => ?_⟩
        rw [mem_singleton.mp added] at pair
        have hashed := (recorded.stored _ _ existingVote listed).1
        have fresh := first before blockHeight validatorAddr extensionHash jobOutputs [] rfl
          ⟨existingVote, listed, fun same => differs (hashed.trans
            (same.computeVoteHash_eq crypto))⟩
        have founded := (recorded.founded earlier member).2
        obtain ⟨sameValidator, sameHeight, either⟩ := pair
        -- the vote that comes again is one of the two of the earlier evidence
        obtain ⟨vote, ofPair, again⟩ : ∃ vote ∈ [earlier.vote1, earlier.vote2],
            SameOutputs vote.outputHashes jobOutputs := by
          rcases either with ⟨_, second⟩ | ⟨second, _⟩
          · exact ⟨_, mem_cons_of_mem _ (mem_singleton_self _), second⟩
          · exact ⟨_, mem_cons_self, second⟩
        obtain ⟨source, given, delivers⟩ := founded vote ofPair
        rw [sameValidator, sameHeight] at delivers
        refine fresh source given ?_
        cases source with
        | processEndBlockEvidence _ _ _ => exact delivers
        | recordValidatorParticipation _ _ _ _ =>
          exact ⟨delivers.1, delivers.2.1, delivers.2.2.trans again⟩
      · rw [evidence]
        exact distinct

/-- In every run in which a vote that differs from one on record comes for the first time, each
slash is for two different recorded votes, and no two votes are slashed twice. -/
theorem double_vote_law {calls : List EvidenceCall}
    (first : FirstTime crypto blockMissConfig slashingConfig calls) :
    DoubleVoteLaw crypto blockMissConfig slashingConfig calls := by
  have recorded : Recorded crypto calls (after crypto blockMissConfig slashingConfig calls) :=
    recorded_after calls
  refine ⟨fun slash made => ⟨recorded.named slash made, ?_⟩, ?_⟩
  · exact recorded.founded slash.1 (mem_append_left _ (mem_map_of_mem made))
  · have distinct := (pairwise_append.mp (pairwise_evidenceOf first)).1
    exact pairwise_map.mp distinct

end EvidenceCall

namespace DoubleVoteSample

def crypto : Crypto where
  sha256 data := (data.reverse ++ replicate 32 0).take 32
  sha256_length data := length_padded data.reverse
  ed25519Public seed := seed
  ed25519Sign _ message := message
  ed25519Verify _ _ _ := true

def jobID : String := "0123456789abcdef"

/-- One job with an output of thirty-two equal bytes. -/
def outputs (byte : UInt8) : Map String Bytes :=
  (∅ : Map String Bytes).insert jobID (replicate 32 byte)

theorem outputs_differ : ¬SameOutputs (outputs 1) (outputs 2) := by
  intro same
  have found := same jobID
  unfold outputs at found
  rw [lookup_insert, lookup_insert] at found
  exact absurd found (by decide)

def block : I64 := ⟨1, .one⟩

def voteFor (byte : UInt8) : EvidenceCall :=
  .recordValidatorParticipation block "validator" [] (outputs byte)

def endBlock : EvidenceCall := .processEndBlockEvidence block {} .asGiven

def evidence : EquivocationEvidence :=
  DoubleVotingDetector.evidenceOf crypto "validator" 1
    (DoubleVotingDetector.newVote crypto [] (outputs 1))
    (DoubleVotingDetector.newVote crypto [] (outputs 2))

def redelivered : List (List EvidenceCall) :=
  [[voteFor 1, voteFor 2, voteFor 2, endBlock],
    [voteFor 1, voteFor 2, endBlock, voteFor 2, endBlock]]

section

variable {calls : List EvidenceCall} (given : calls ∈ redelivered)
include given

theorem slashes_redelivered :
    (EvidenceCall.after crypto .default .default calls).1.map Prod.fst = [evidence, evidence] := by
  rcases mem_cons.mp given with rfl | second
  · rfl
  · rw [mem_singleton.mp second]
    rfl

theorem not_doubleVoteLaw :
    ¬EvidenceCall.DoubleVoteLaw crypto .default .default calls := by
  intro law
  have distinct : ((EvidenceCall.after crypto .default .default calls).1.map Prod.fst).Pairwise
      fun first second => ¬EvidenceCall.SamePair first second := pairwise_map.mpr law.once
  rw [slashes_redelivered given] at distinct
  have apart := rel_of_pairwise_cons distinct (mem_singleton_self evidence)
  exact apart ⟨rfl, rfl, .inl ⟨fun _ => rfl, fun _ => rfl⟩⟩

end

end DoubleVoteSample

open EvidenceCall DoubleVoteSample in
/-- A conflicting vote that is delivered again is slashed again, before the slash and after it. -/
theorem double_vote_law_fails :
    ¬DoubleVoteLaw crypto .default .default [voteFor 1, voteFor 2, voteFor 2, endBlock] ∧
      ¬DoubleVoteLaw crypto .default .default
        [voteFor 1, voteFor 2, endBlock, voteFor 2, endBlock] :=
  ⟨not_doubleVoteLaw mem_cons_self,
    not_doubleVoteLaw (mem_cons_of_mem _ (mem_singleton_self _))⟩

open EvidenceCall DoubleVoteSample in
/-- Two conflicting votes are slashed once. -/
theorem double_vote_law_of_two_votes :
    (after crypto .default .default [voteFor 1, voteFor 2, endBlock]).1.map Prod.fst = [evidence] ∧
      DoubleVoteLaw crypto .default .default [voteFor 1, voteFor 2, endBlock] := by
  refine ⟨rfl, double_vote_law ?_⟩
  intro before blockHeight validatorAddr extensionHash jobOutputs rest whole conflict earlier given
  cases before with
  | nil => cases given
  | cons first later =>
    obtain ⟨same, tail⟩ := cons.inj whole
    cases later with
    | nil =>
      obtain ⟨second, _⟩ := cons.inj tail
      unfold voteFor at second
      cases second
      rw [mem_singleton.mp given, ← same]
      exact fun delivers => outputs_differ delivers.2.2
    | cons second later =>
      obtain ⟨_, tail⟩ := cons.inj tail
      cases later with
      | nil =>
        obtain ⟨third, _⟩ := cons.inj tail
        cases third
      | cons third later =>
        obtain ⟨_, none⟩ := cons.inj tail
        exact absurd none.symm (append_ne_nil_of_right_ne_nil _ (cons_ne_nil _ _))

end Aethelred.Pouw
