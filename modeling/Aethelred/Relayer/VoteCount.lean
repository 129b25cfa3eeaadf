import Aethelred.Relayer.Consensus

/- Votes and submissions: who stands behind a submission, and how often a proposal is submitted. -/
namespace Relayer

open Function List

variable (submission : Submission)

def Submission.approvers : Finset AethelredAddress :=
  ((submission.votes.filter fun vote =>
    vote.approve && submission.relayerSet.isActive vote.relayer).map (·.relayer)).toFinset

/-- Enough distinct active relayers have approved. -/
def Submission.Backed : Prop :=
  submission.relayerSet.minVotesRequired ≤ submission.approvers.card

instance : Decidable submission.Backed :=
  inferInstanceAs (Decidable (_ ≤ _))

def Submission.isOf (target : Target) (proposalId : Hash) : Bool :=
  submission.target == target && submission.proposalId == proposalId

/-- After a submission that succeeded there is no other one of the same proposal. -/
def OncePerProposal (submissions : List Submission) : Prop :=
  submissions.Pairwise fun earlier later =>
    earlier.succeeded = true → earlier.isOf later.target later.proposalId = false

instance (submissions : List Submission) : Decidable (OncePerProposal submissions) :=
  inferInstanceAs (Decidable (Pairwise _ _))

namespace ConsensusEngine

variable (engine : ConsensusEngine) (target : Target) (proposalId : Hash)

def recorded : List RelayerVote :=
  match target with
  | .aethelred => engine.pendingMints proposalId
  | .ethereum => engine.pendingWithdrawals proposalId

/-- The vote is taken, and with it the recorded votes are as many as `has_consensus` asks for. -/
def completes (backends : Backends) (proposalId : Hash) (vote : RelayerVote) : Bool :=
  match addVote backends engine.relayerSet (engine.recorded target proposalId) vote with
  | .ok votes => engine.relayerSet.hasConsensus votes.length
  | .error _ => false

/-- Each counted vote is an approval of a relayer that is still active, and the proposal has not
been submitted successfully yet. -/
def OnlyApprovals (vote : RelayerVote) : Prop :=
  (∀ counted ∈ engine.recorded target proposalId ++ [vote],
    counted.approve = true ∧ engine.relayerSet.isActive counted.relayer = true) ∧
  ∀ earlier ∈ engine.submissions,
    earlier.succeeded = true → earlier.isOf target proposalId = false

instance (vote : RelayerVote) :
    Decidable (engine.OnlyApprovals target proposalId vote) :=
  inferInstanceAs (Decidable (_ ∧ _))

end ConsensusEngine

/-- A vote that completes the count finds only approvals counted. -/
def SoundVote (engine : ConsensusEngine) : Call → Prop
  | .voteMint backends _ proposalId vote =>
    engine.completes .aethelred backends proposalId vote = true →
      engine.OnlyApprovals .aethelred proposalId vote
  | .voteWithdrawal backends _ proposalId vote =>
    engine.completes .ethereum backends proposalId vote = true →
      engine.OnlyApprovals .ethereum proposalId vote
  | _ => True

instance (engine : ConsensusEngine) : (call : Call) → Decidable (SoundVote engine call)
  | .voteMint .. => inferInstanceAs (Decidable (_ → _))
  | .voteWithdrawal .. => inferInstanceAs (Decidable (_ → _))
  | .ethereumEvent .. | .aethelredEvent .. | .listenerDeposit .. | .listenerBurn ..
  | .updateRelayerSet .. | .processPending .. | .checkTimeouts .. | .restart => .isTrue trivial

section Steps

open ConsensusEngine

variable {host : Host} {engine : ConsensusEngine} {backends : Backends} {votes : List RelayerVote}
  {vote : RelayerVote} {set : RelayerSet}

theorem addVote_eq_ok {grown : List RelayerVote}
    (taken : addVote backends set votes vote = .ok grown) :
    set.isActive vote.relayer = true ∧ (∀ other ∈ votes, other.relayer ≠ vote.relayer) ∧
      grown = votes ++ [vote] := by
  unfold addVote at taken
  split at taken
  · contradiction
  · by_cases active : set.isActive vote.relayer = true
    · by_cases voted : votes.any (·.relayer == vote.relayer) = true
      · simp [active, voted] at taken
      · simp only [active, voted] at taken
        refine ⟨active, ?_, (Except.ok.inj taken).symm⟩
        intro other member same
        exact voted (any_eq_true.mpr ⟨other, member, beq_iff_eq.mpr same⟩)
    · simp [active] at taken

/-- What a vote for a proposal can do to the votes and the submissions. -/
inductive Counted (engine : ConsensusEngine) (backends : Backends) (target : Target)
    (proposalId : Hash) (vote : RelayerVote) (next : ConsensusEngine) : Prop where
  | refused (same : next = engine)
  | recorded (grown : List RelayerVote)
      (taken : addVote backends engine.relayerSet (engine.recorded target proposalId) vote =
        .ok grown)
      (short : engine.relayerSet.hasConsensus grown.length = false)
      (votes : ∀ other id, next.recorded other id =
        if other = target ∧ id = proposalId then grown else engine.recorded other id)
      (submissions : next.submissions = engine.submissions)
  | submitted (grown : List RelayerVote) (succeeded : Bool)
      (taken : addVote backends engine.relayerSet (engine.recorded target proposalId) vote =
        .ok grown)
      (reached : engine.relayerSet.hasConsensus grown.length = true)
      (votes : ∀ other id, next.recorded other id =
        if other = target ∧ id = proposalId then grown else engine.recorded other id)
      (submissions : next.submissions =
        engine.submissions ++ [⟨target, proposalId, engine.relayerSet, grown, succeeded⟩])

variable {next : ConsensusEngine}

theorem recorded_mint (engine : ConsensusEngine) (proposalId : Hash) (grown : List RelayerVote)
    (mints : next.pendingMints = update engine.pendingMints proposalId grown)
    (withdrawals : next.pendingWithdrawals = engine.pendingWithdrawals) (other : Target)
    (id : Hash) :
    next.recorded other id = if other = .aethelred ∧ id = proposalId then grown
      else engine.recorded other id := by
  cases other with
  | aethelred =>
    simp only [ConsensusEngine.recorded, mints, update_apply, true_and]
  | ethereum => simp [ConsensusEngine.recorded, withdrawals]

theorem recorded_withdrawal (engine : ConsensusEngine) (proposalId : Hash)
    (grown : List RelayerVote) (withdrawals : next.pendingWithdrawals =
      update engine.pendingWithdrawals proposalId grown)
    (mints : next.pendingMints = engine.pendingMints) (other : Target) (id : Hash) :
    next.recorded other id = if other = .ethereum ∧ id = proposalId then grown
      else engine.recorded other id := by
  cases other with
  | ethereum =>
    simp only [ConsensusEngine.recorded, withdrawals, update_apply, true_and]
  | aethelred => simp [ConsensusEngine.recorded, mints]

theorem voteMint_counted (engine : ConsensusEngine) (backends : Backends) (now : UInt64)
    (proposalId : Hash) (vote : RelayerVote) :
    Counted engine backends .aethelred proposalId vote
      (engine.voteMint backends now proposalId vote).1 := by
  unfold voteMint
  cases taken : addVote backends engine.relayerSet (engine.pendingMints proposalId) vote with
  | error reason => exact .refused rfl
  | ok grown =>
    by_cases reached : engine.relayerSet.hasConsensus grown.length = true
    · simp only [reached, ↓reduceIte]
      exact .submitted grown _ taken reached (recorded_mint engine proposalId grown rfl rfl) rfl
    · simp only [reached]
      exact .recorded grown taken (Bool.eq_false_iff.mpr reached)
        (recorded_mint engine proposalId grown rfl rfl) rfl

theorem voteWithdrawal_counted (engine : ConsensusEngine) (backends : Backends) (now : UInt64)
    (proposalId : Hash) (vote : RelayerVote) :
    Counted engine backends .ethereum proposalId vote
      (engine.voteWithdrawal backends now proposalId vote).1 := by
  unfold voteWithdrawal
  cases taken : addVote backends engine.relayerSet (engine.pendingWithdrawals proposalId) vote with
  | error reason => exact .refused rfl
  | ok grown =>
    by_cases reached : engine.relayerSet.hasConsensus grown.length = true
    · simp only [reached, ↓reduceIte]
      cases answer : backends.submitWithdrawal proposalId with
      | error reason =>
        exact .submitted grown _ taken reached
          (recorded_withdrawal engine proposalId grown rfl rfl) rfl
      | ok done =>
        exact .submitted grown _ taken reached
          (recorded_withdrawal engine proposalId grown rfl rfl) rfl
    · simp only [reached]
      exact .recorded grown taken (Bool.eq_false_iff.mpr reached)
        (recorded_withdrawal engine proposalId grown rfl rfl) rfl

/-- Nobody is recorded twice for a proposal, and the submissions so far are in order. -/
structure Tallied (engine : ConsensusEngine) : Prop where
  distinct : ∀ target proposalId,
    ((engine.recorded target proposalId).map (·.relayer)).Nodup
  backed : ∀ submission ∈ engine.submissions, submission.Backed
  once : OncePerProposal engine.submissions

theorem tallied_new (storage : BridgeStorage) : Tallied (.new storage) where
  distinct target _ := by cases target <;> exact nodup_nil
  backed := by simp [ConsensusEngine.new]
  once := Pairwise.nil

theorem approvers_card {submission : Submission}
    (distinct : (submission.votes.map (·.relayer)).Nodup) (approvals : ∀ vote ∈ submission.votes,
      vote.approve = true ∧ submission.relayerSet.isActive vote.relayer = true) :
    submission.approvers.card = submission.votes.length := by
  have all : (submission.votes.filter fun vote =>
      vote.approve && submission.relayerSet.isActive vote.relayer) = submission.votes := by
    refine filter_eq_self.mpr fun vote member => ?_
    obtain ⟨approved, active⟩ := approvals vote member
    rw [approved, active, Bool.and_self]
  rw [Submission.approvers, all, toFinset_card_of_nodup distinct, length_map]

section

variable (tallied : Tallied engine)
include tallied

theorem Tallied.grown_distinct {target : Target} {proposalId : Hash}
    {grown : List RelayerVote}
    (taken : addVote backends engine.relayerSet (engine.recorded target proposalId) vote =
      .ok grown) (votes : ∀ other id, next.recorded other id =
      if other = target ∧ id = proposalId then grown else engine.recorded other id) (other : Target)
    (id : Hash) : ((next.recorded other id).map (·.relayer)).Nodup := by
  rw [votes]
  split
  · obtain ⟨-, fresh, rfl⟩ := addVote_eq_ok taken
    rw [map_append]
    refine nodup_append'.mpr ⟨tallied.distinct target proposalId,
      nodup_singleton _, ?_⟩
    rw [map_singleton, disjoint_singleton]
    intro member
    obtain ⟨earlier, recorded, same⟩ := mem_map.mp member
    exact fresh earlier recorded same
  · exact tallied.distinct other id

/-- A counted vote is tallied, if it completes by approvals. -/
theorem Tallied.counted {target : Target} {proposalId : Hash}
    (counted : Counted engine backends target proposalId vote next)
    (sound : engine.completes target backends proposalId vote = true →
      engine.OnlyApprovals target proposalId vote) : Tallied next := by
  cases counted with
  | refused same => exact same ▸ tallied
  | recorded grown taken short votes submissions =>
    refine ⟨tallied.grown_distinct taken votes, ?_, ?_⟩
    · rw [submissions]
      exact tallied.backed
    · rw [submissions]
      exact tallied.once
  | submitted grown succeeded taken reached votes submissions =>
    have distinct := tallied.grown_distinct taken votes
    have complete : engine.completes target backends proposalId vote = true := by
      rw [ConsensusEngine.completes, taken]
      exact reached
    obtain ⟨approvals, unsubmitted⟩ := sound complete
    refine ⟨distinct, ?_, ?_⟩
    · rw [submissions]
      intro submission member
      rcases mem_append.mp member with earlier | last
      · exact tallied.backed submission earlier
      · obtain rfl := mem_singleton.mp last
        obtain ⟨-, -, grew⟩ := addVote_eq_ok taken
        have own := distinct target proposalId
        rw [votes, if_pos ⟨rfl, rfl⟩] at own
        unfold Submission.Backed
        rw [approvers_card own (grew ▸ approvals)]
        exact (RelayerSet.hasConsensus_iff _ _).mp reached
    · rw [submissions]
      refine pairwise_append.mpr ⟨tallied.once, pairwise_singleton .., ?_⟩
      intro earlier member last isLast
      obtain rfl := mem_singleton.mp isLast
      exact unsubmitted earlier member

theorem Tallied.of_same
    (votes : ∀ target id, next.recorded target id = engine.recorded target id)
    (submissions : next.submissions = engine.submissions) : Tallied next where
  distinct target id := by
    rw [votes]
    exact tallied.distinct target id
  backed := submissions ▸ tallied.backed
  once := submissions ▸ tallied.once

end

theorem Tallied.step (call : Call) (sound : SoundVote engine call) (tallied : Tallied engine) :
    Tallied (step host engine call) := by
  cases call with
  | voteMint backends now proposalId vote =>
    exact tallied.counted (voteMint_counted engine backends now proposalId vote) sound
  | voteWithdrawal backends now proposalId vote =>
    exact tallied.counted (voteWithdrawal_counted engine backends now proposalId vote) sound
  | processPending backends now mintOrder burnOrder =>
    simp only [Relayer.step, processPending_fst]
    exact tallied
  | restart =>
    exact ⟨(tallied_new engine.storage).distinct, tallied.backed, tallied.once⟩
  | ethereumEvent | aethelredEvent | listenerDeposit | listenerBurn | updateRelayerSet
  | checkTimeouts =>
    exact tallied.of_same (fun target id => by cases target <;> rfl) rfl

end Steps

/-- As long as a vote that completes a count finds only approvals of active relayers counted and
the proposal not yet submitted, every submission is backed by enough distinct active approvers and
none follows a success. -/
theorem submissions_backed_once (host : Host) (storage : BridgeStorage) (calls : List Call)
    (sound : Run.Along (step host) SoundVote (.new storage) calls) :
    (∀ submission ∈ (run host storage calls).submissions, submission.Backed) ∧
      OncePerProposal (run host storage calls).submissions := by
  have tallied : Tallied (run host storage calls) :=
    Run.invariant Tallied (fun _ call sound tallied => tallied.step call sound)
      (tallied_new storage) sound
  exact ⟨tallied.backed, tallied.once⟩

def threeRelayers (thresholdBps : UInt16) : RelayerSet where
  relayers := [⟨1, 1, [], 1000, true⟩, ⟨2, 2, [], 1000, true⟩, ⟨3, 3, [], 1000, true⟩]
  thresholdBps
  version := 1
  totalStake := 3000

def threeVotes (thresholdBps : UInt16) (approve : Bool) : List Call :=
  .updateRelayerSet (threeRelayers thresholdBps) ::
    [1, 2, 3].map fun relayer => .voteMint .accepting 0 7 ⟨relayer, approve, [1], 0⟩

/-- Three approvals submit the mint once. -/
theorem submissions_backed_once_unanimous :
    (run (identifiedHost 0) {} (threeVotes 6700 true)).submissions.length = 1 ∧
      (∀ submission ∈ (run (identifiedHost 0) {} (threeVotes 6700 true)).submissions,
        submission.Backed) ∧
      OncePerProposal (run (identifiedHost 0) {} (threeVotes 6700 true)).submissions :=
  ⟨by decide +kernel, submissions_backed_once (identifiedHost 0) {} (threeVotes 6700 true)
    (by decide +kernel)⟩

/-- Three rejections submit the mint, and at a threshold of two the third approval submits it
again. -/
theorem submissions_unbacked_or_repeated :
    ¬(∀ submission ∈ (run (identifiedHost 0) {} (threeVotes 6700 false)).submissions,
      submission.Backed) ∧
    ¬OncePerProposal (run (identifiedHost 0) {} (threeVotes 3400 true)).submissions := by
  decide +kernel

end Relayer
