import Aethelred.Pouw.SealOrder
import Aethelred.Pouw.Quorum

/- Whether an honest quorum's seal passes, whatever the other votes contain. -/
namespace Aethelred.Pouw

open Go List

namespace ConsensusHandler

variable (ch : ConsensusHandler)

def reports (jobID : String) (job : ComputeJob) (outputHash : Bytes) (vote : ExtendedVoteInfo) :
    Bool :=
  (ch.support jobID outputHash vote).any fun l =>
    l.verification.modelHash = job.modelHash ∧ l.verification.inputHash = job.inputHash

/-- Validators with the required power report the output. -/
def HonestQuorum (totals : VoteTotals) (votes : List ExtendedVoteInfo) (jobID : String)
    (job : ComputeJob) (outputHash : Bytes) : Prop :=
  votes.filter (ch.reports jobID job outputHash) ≠ [] ∧
    ch.requiredPower totals ≤
      totals.power ((votes.filter (ch.reports jobID job outputHash)).map ExtendedVoteInfo.validator)

/-- A transaction of the job is proposed, and each that is proposed validates. -/
def SealsPass (ctx : ConsensusContext) (votes : List ExtendedVoteInfo) (jobID : String) : Prop :=
  ∀ orders, ∃ txs, ch.proposedSeals ctx votes orders = some txs ∧
    (∃ tx : SealCreationTx, tx.encode ∈ txs ∧ tx.jobID = jobID) ∧
    ∀ tx : SealCreationTx, tx.encode ∈ txs → tx.jobID = jobID →
      ch.validateSealTransaction (some tx.encode) = .ok ()

/-- With the job's own hashes first in every vote, a decision in sight, and votes enough where
no power is counted. -/
structure Sealable (totals : VoteTotals) (votes : List ExtendedVoteInfo) (jobID : String)
    (job : ComputeJob) : Prop where
  decided : ∃ outputHash, ch.Reached totals votes jobID outputHash
  hashes : ∀ vote ∈ votes, ∀ l ∈ ch.firstListing jobID vote,
    l.verification.modelHash = job.modelHash ∧ l.verification.inputHash = job.inputHash
  enough : 0 < totals.totalPower ∨ ∀ outputHash, ch.Reached totals votes jobID outputHash →
    requiredThresholdCount (len votes).val ch.getConsensusThreshold ≤
      (len (ch.listed votes jobID outputHash)).val

end ConsensusHandler

/-- The seals of jobs with an honest quorum pass, wherever the other votes stand. -/
def HonestSealsPass (ch : ConsensusHandler) (ctx : ConsensusContext)
    (votes : List ExtendedVoteInfo) : Prop :=
  ∀ totals, ch.voteTotals votes = some totals → ∀ jobID, ∀ job ∈ ch.keeper.jobs.lookup jobID,
    ∀ outputHash, ch.HonestQuorum totals votes jobID job outputHash →
      ∀ reordered, votes.Perm reordered → ch.SealsPass ctx reordered jobID

/-- Every job with an honest quorum can be sealed. -/
def HonestJobsSealable (ch : ConsensusHandler) (votes : List ExtendedVoteInfo) : Prop :=
  ∀ totals, ch.voteTotals votes = some totals → ∀ jobID, ∀ job ∈ ch.keeper.jobs.lookup jobID,
    ∀ outputHash, ch.HonestQuorum totals votes jobID job outputHash →
      ch.Sealable totals votes jobID job

section

variable {ch : ConsensusHandler} {ctx : ConsensusContext} {totals : VoteTotals}
  {votes reordered : List ExtendedVoteInfo}

theorem totalVotes_eq (counted : ch.voteTotals votes = some totals) :
    totals.totalVotes = votes.length := by
  unfold ConsensusHandler.voteTotals at counted
  grind

variable {jobID : String}

variable {outputHash : Bytes}

theorem Verified.reached (verified : Verified votes)
    (reached : ch.Reached totals votes jobID outputHash) : jobID ≠ "" ∧ outputHash.length = 32 := by
  obtain ⟨l, member⟩ := exists_mem_of_ne_nil _ reached.1
  obtain ⟨listed, rfl, rfl⟩ := ConsensusHandler.mem_listed.mp member
  obtain ⟨voted, accepted, reported, counts⟩ := ConsensusHandler.mem_listings.mp listed
  have parsed := (ConsensusHandler.acceptedExtension_eq_some.mp accepted).parsed
  have success : l.verification.success = true := by
    unfold ConsensusHandler.counts at counts
    exact (Bool.and_eq_true_iff.mp counts).1
  obtain ⟨named, whole⟩ := verified l.vote voted l.extension parsed l.verification reported
  exact ⟨named, whole success⟩

variable {job : ComputeJob}

/-- A seal of stored hashes passes validation. -/
theorem sealOf_validates (verified : Verified votes) (counted : ch.voteTotals votes = some totals)
    (stored : ch.keeper.jobs.lookup jobID = some job)
    (reached : ch.Reached totals votes jobID outputHash) {first : Listing}
    (isFirst : ((ch.listings votes).find? fun l => l.jobID = jobID) = some first) :
    ch.validateSealTransaction (some (ch.sealOf ctx totals votes jobID first outputHash).encode) =
        .ok () ↔
      (first.verification.modelHash = job.modelHash ∧
        first.verification.inputHash = job.inputHash) ∧
      (0 < totals.totalPower ∨
        requiredThresholdCount (len votes).val ch.getConsensusThreshold ≤
          (len (ch.listed votes jobID outputHash)).val) := by
  obtain ⟨named, whole⟩ := verified.reached reached
  have total : (I64.ofInt totals.totalPower).val = totals.totalPower := by
    rw [totalPower_eq counted]
    exact I64.val_ofInt (Int64.wrap_fits _)
  have power : (I64.ofInt (ch.talliedPower totals votes jobID outputHash)).val =
      ch.talliedPower totals votes jobID outputHash := I64.val_ofInt (Int64.wrap_fits _)
  have threshold : ch.MeetsThreshold (ch.sealOf ctx totals votes jobID first outputHash) ↔
      (0 < totals.totalPower ∨ requiredThresholdCount (len votes).val ch.getConsensusThreshold ≤
        (len (ch.listed votes jobID outputHash)).val) := by
    have enough : requiredThresholdCount totals.totalPower ch.getConsensusThreshold ≤
      ch.talliedPower totals votes jobID outputHash := reached.2
    simp only [ConsensusHandler.MeetsThreshold, ConsensusHandler.sealOf,
      ConsensusHandler.sealTransaction, ConsensusHandler.decidedResult, initialResult, total, power,
      totalVotes_eq counted]
    split
    · rename_i positive
      simp [positive, enough]
    · rename_i none
      simp only [none, false_or]
      rfl
  rw [ConsensusHandler.validateSealTransaction_ok, sealOf_jobID isFirst, stored, threshold]
  simp only [ne_eq, named, not_false_eq_true, Option.some.injEq, exists_eq_left', true_and]
  constructor
  · rintro ⟨-, -, model, input, enough⟩
    exact ⟨⟨model.symm, input.symm⟩, enough⟩
  · rintro ⟨⟨model, input⟩, enough⟩
    exact ⟨rfl, whole, model.symm, input.symm, enough⟩

theorem len_perm {α : Type} {items others : List α} (perm : items.Perm others) :
    len items = len others := by
  unfold len
  rw [perm.length_eq]

/-- A sealable job is sealed whatever the order of the votes. -/
theorem ConsensusHandler.Sealable.sealsPass (verified : Verified votes)
    (counted : ch.voteTotals votes = some totals) (stored : ch.keeper.jobs.lookup jobID = some job)
    (sealable : ch.Sealable totals votes jobID job) (perm : votes.Perm reordered) :
    ch.SealsPass ctx reordered jobID := by
  intro orders
  have recounted : ch.voteTotals reordered = some totals := by rw [voteTotals_perm ch perm, counted]
  have reverified := verified.perm perm
  obtain ⟨txs, proposed⟩ := proposedSeals_total ch reverified ctx orders
  refine ⟨txs, proposed, ?_, ?_⟩
  · obtain ⟨outputHash, reached⟩ := sealable.decided
    have again := (reached_perm perm).mpr reached
    obtain ⟨first, isFirst⟩ := exists_first_of_reached again
    cases chosen : ch.picked totals reordered orders.aggregation.decision jobID with
    | none => exact absurd again (ConsensusHandler.not_reached_of_picked_none chosen outputHash)
    | some decided =>
      exact ⟨_, (mem_proposedSeals recounted proposed _).mpr
        ⟨jobID, first, decided, isFirst, chosen, rfl⟩, sealOf_jobID isFirst⟩
  · intro tx present named
    obtain ⟨other, first, outputHash, isFirst, chosen, equal⟩ :=
      (mem_proposedSeals recounted proposed _).mp present
    obtain rfl := SealCreationTx.encode_injective equal
    rw [sealOf_jobID isFirst] at named
    subst named
    have reached := ConsensusHandler.reached_of_picked chosen
    obtain ⟨vote, member, own⟩ := exists_firstListing isFirst
    refine (sealOf_validates reverified recounted stored reached isFirst).mpr
      ⟨sealable.hashes vote (perm.mem_iff.mpr member) first own, ?_⟩
    refine sealable.enough.imp_right fun enough => ?_
    rw [← len_perm perm, ← len_perm (listed_perm perm _ _)]
    exact enough outputHash ((reached_perm perm).mp reached)

theorem ConsensusHandler.SealsPass.validates (counted : ch.voteTotals votes = some totals)
    (pass : ch.SealsPass ctx votes jobID)
    (reached : ch.Reached totals votes jobID outputHash) {first : Listing}
    (isFirst : ((ch.listings votes).find? fun l => l.jobID = jobID) = some first) :
    ch.validateSealTransaction (some (ch.sealOf ctx totals votes jobID first outputHash).encode) =
      .ok () := by
  obtain ⟨txs, proposed, -, valid⟩ := pass (SealOrders.startingWith outputHash)
  exact valid _ ((mem_proposedSeals counted proposed _).mpr
    ⟨jobID, first, outputHash, isFirst, SealOrders.picked reached, rfl⟩) (sealOf_jobID isFirst)

/-- A job sealed under every order is sealable. -/
theorem ConsensusHandler.sealable_of_pass (verified : Verified votes)
    (counted : ch.voteTotals votes = some totals) (stored : ch.keeper.jobs.lookup jobID = some job)
    (pass : ∀ reordered, votes.Perm reordered → ch.SealsPass ctx reordered jobID) :
    ch.Sealable totals votes jobID job := by
  have decided : ∃ outputHash, ch.Reached totals votes jobID outputHash := by
    obtain ⟨txs, proposed, ⟨tx, present, named⟩, -⟩ := pass votes (.refl _)
      (SealOrders.startingWith [])
    obtain ⟨other, first, outputHash, isFirst, chosen, equal⟩ :=
      (mem_proposedSeals counted proposed _).mp present
    obtain rfl := SealCreationTx.encode_injective equal
    rw [sealOf_jobID isFirst] at named
    exact ⟨outputHash, named ▸ ConsensusHandler.reached_of_picked chosen⟩
  refine ⟨decided, ?_, ?_⟩
  · intro vote member l own
    obtain ⟨outputHash, reached⟩ := decided
    obtain ⟨rest, moved⟩ := Reorder.exists_perm_cons member
    have recounted : ch.voteTotals (vote :: rest) = some totals := by
      rw [voteTotals_perm ch moved, counted]
    have front : ((ch.listings (vote :: rest)).find? fun l => l.jobID = jobID) = some l :=
      Reorder.find?_flatMap_of_perm_front own
    have again := (reached_perm moved).mpr reached
    exact ((sealOf_validates (verified.perm moved) recounted stored again front).mp
      ((pass _ moved).validates recounted again front)).1
  · by_cases positive : 0 < totals.totalPower
    · exact .inl positive
    · refine .inr fun outputHash reached => ?_
      obtain ⟨first, isFirst⟩ := exists_first_of_reached reached
      exact (((sealOf_validates verified counted stored reached isFirst).mp
        ((pass votes (.refl _)).validates counted reached isFirst)).2).resolve_left positive

theorem honestSealsPass_iff (ctx : ConsensusContext) (verified : Verified votes) :
    HonestSealsPass ch ctx votes ↔ HonestJobsSealable ch votes := by
  constructor
  · intro pass totals counted jobID job stored outputHash quorum
    exact ConsensusHandler.sealable_of_pass verified counted stored
      (pass totals counted jobID job stored outputHash quorum)
  · intro sealable totals counted jobID job stored outputHash quorum reordered perm
    exact (sealable totals counted jobID job stored outputHash quorum).sealsPass verified counted
      stored perm

end

/-- The seal transactions do not depend on any order exactly when decided jobs have one output
and one pair of hashes (and, taken literally, results that can be swapped); the seals of honest
quorums pass exactly when nobody mentions their jobs first with other hashes. -/
theorem sealDeterminism_iff (ch : ConsensusHandler) (ctx : ConsensusContext)
    (votes : List ExtendedVoteInfo) (verified : Verified votes) :
    (SameSeals Eq ch ctx votes ↔ Agreeing ch votes ∧ Commuting ch votes) ∧
      (SameSeals Perm ch ctx votes ↔ Agreeing ch votes) ∧
      (HonestSealsPass ch ctx votes ↔ HonestJobsSealable ch votes) :=
  ⟨sameSeals_eq_iff ch ctx verified, sameSeals_perm_iff ch ctx verified,
    honestSealsPass_iff ctx verified⟩

namespace Sample

def job : ComputeJob where
  id := "job"
  modelHash := digest 1
  inputHash := digest 2
  requestedBy := "requester"
  purpose := "inference"
  proofType := .zkml
  status := .processing

def oneJob : ConsensusHandler := ⟨{ jobs := AList.insert "job" job ∅ }, 0, false⟩

/-- Two honest validators with 80 of 100, after one that names another model. -/
def poisoned : List ExtendedVoteInfo :=
  [vote [9] 20 [success "job" (digest 7) (digest 2) (digest 3)],
    vote [1] 40 [success "job" (digest 1) (digest 2) (digest 3)],
    vote [2] 40 [success "job" (digest 1) (digest 2) (digest 3)]]

theorem verified_poisoned : Verified poisoned := by
  unfold Verified
  decide

theorem reached_poisoned : oneJob.Reached ⟨3, 100, false⟩ poisoned "job" (digest 3) := by
  unfold ConsensusHandler.Reached
  decide +kernel

end Sample

open Sample in
/-- The validator that names another model first changes the seal and makes it fail. -/
theorem sealDeterminism_fails :
    ¬SameSeals Eq oneJob blockZero poisoned ∧ ¬SameSeals Perm oneJob blockZero poisoned ∧
      ¬HonestSealsPass oneJob blockZero poisoned := by
  have counted : oneJob.voteTotals poisoned = some ⟨3, 100, false⟩ := by decide
  have disagreeing : ¬Agreeing oneJob poisoned := by
    intro agreeing
    have same := (agreeing _ counted).2 "job" (digest 3) reached_poisoned
      (vote [9] 20 [success "job" (digest 7) (digest 2) (digest 3)]) (by simp [poisoned])
      (vote [1] 40 [success "job" (digest 1) (digest 2) (digest 3)]) (by simp [poisoned])
      _ rfl _ rfl
    exact absurd same.1 (by decide)
  refine ⟨?_, ?_, ?_⟩
  · rw [sameSeals_eq_iff oneJob blockZero verified_poisoned]
    exact fun both => disagreeing both.1
  · rw [sameSeals_perm_iff oneJob blockZero verified_poisoned]
    exact disagreeing
  · rw [honestSealsPass_iff blockZero verified_poisoned]
    intro sealable
    have quorum : oneJob.HonestQuorum ⟨3, 100, false⟩ poisoned "job" job (digest 3) := by
      unfold ConsensusHandler.HonestQuorum
      decide +kernel
    have hashes := (sealable _ counted "job" job rfl (digest 3) quorum).hashes
      (vote [9] 20 [success "job" (digest 7) (digest 2) (digest 3)]) (by simp [poisoned]) _ rfl
    exact absurd hashes.1 (by decide)

namespace Sample

def unanimous : List ExtendedVoteInfo :=
  [vote [1] 60 [success "job" (digest 1) (digest 2) (digest 3)],
    vote [2] 40 [success "job" (digest 1) (digest 2) (digest 3)]]

theorem listings_unanimous {l : Listing} (listed : l ∈ oneJob.listings unanimous) :
    l.verification = success "job" (digest 1) (digest 2) (digest 3) := by
  obtain ⟨voted, accepted, reported, -⟩ := ConsensusHandler.mem_listings.mp listed
  have parsed := (ConsensusHandler.acceptedExtension_eq_some.mp accepted).parsed
  simp only [unanimous, mem_cons, not_mem_nil, or_false] at voted
  rcases voted with same | same <;> rw [same] at parsed <;>
    rw [← Option.some.inj parsed] at reported <;> exact mem_singleton.mp reported

theorem firstListing_unanimous {jobID : String} {u : ExtendedVoteInfo} (member : u ∈ unanimous)
    {l : Listing} (own : l ∈ oneJob.firstListing jobID u) :
    l.verification = success "job" (digest 1) (digest 2) (digest 3) :=
  listings_unanimous (mem_flatMap.mpr ⟨u, member, mem_of_find?_eq_some own⟩)

theorem reached_unanimous {totals : VoteTotals} {jobID : String} {outputHash : Bytes}
    (reached : oneJob.Reached totals unanimous jobID outputHash) : outputHash = digest 3 := by
  obtain ⟨l, member⟩ := exists_mem_of_ne_nil _ reached.1
  obtain ⟨listed, -, output⟩ := ConsensusHandler.mem_listed.mp member
  rw [← output, Listing.outputHash, listings_unanimous listed]
  rfl

theorem agreeing_unanimous : Agreeing oneJob unanimous := by
  intro totals counted
  constructor
  · intro jobID first second reachedFirst reachedSecond
    rw [reached_unanimous reachedFirst, reached_unanimous reachedSecond]
  · intro jobID outputHash reached u member w other l own m theirs
    rw [firstListing_unanimous member own, firstListing_unanimous other theirs]
    exact ⟨rfl, rfl⟩

theorem reached_whole : oneJob.Reached ⟨2, 100, false⟩ unanimous "job" (digest 3) := by
  unfold ConsensusHandler.Reached
  decide +kernel

theorem sealable_unanimous : HonestJobsSealable oneJob unanimous := by
  intro totals counted jobID stored found outputHash quorum
  obtain rfl : totals = ⟨2, 100, false⟩ := Option.some.inj (counted.symm.trans rfl)
  obtain ⟨vote, behind⟩ := exists_mem_of_ne_nil _ quorum.1
  obtain ⟨voted, reports⟩ := mem_filter.mp behind
  obtain ⟨l, listed, -⟩ := any_eq_true.mp reports
  obtain ⟨listing, names⟩ := mem_filter.mp listed
  have named := (of_decide_eq_true names).1
  rw [Listing.jobID, listings_unanimous (mem_flatMap.mpr ⟨vote, voted, listing⟩)] at named
  subst named
  obtain rfl : stored = job := Option.some.inj (found.symm.trans rfl)
  refine ⟨⟨digest 3, reached_whole⟩, fun u member l own => ?_, .inl (by decide)⟩
  rw [firstListing_unanimous member own]
  exact ⟨rfl, rfl⟩

end Sample

open Sample in
/-- Unanimous votes give the same seals in any order, up to the order of the results in them, and
these pass. -/
theorem sealDeterminism_unanimous :
    ¬SameSeals Eq oneJob blockZero unanimous ∧ SameSeals Perm oneJob blockZero unanimous ∧
      HonestSealsPass oneJob blockZero unanimous := by
  obtain ⟨exactly, upToOrder, honest⟩ :=
    sealDeterminism_iff oneJob blockZero unanimous (by unfold Verified; decide)
  refine ⟨fun same => ?_, upToOrder.mpr agreeing_unanimous, honest.mpr sealable_unanimous⟩
  have swapped := (exactly.mp same).2 ⟨2, 100, false⟩ rfl "job" (digest 3) reached_whole
    _ (.head _) _ (.tail _ (.head _))
  exact absurd (congrArg (map ValidatorResult.validatorAddress) swapped) (by decide +kernel)

end Aethelred.Pouw
