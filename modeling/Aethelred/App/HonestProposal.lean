import Aethelred.App.Proposal
import Aethelred.Pouw.HonestSeals

/- Whether the block of an honest proposer passes the checks of every other node. -/
namespace Aethelred.App

open Go Aethelred.Pouw List ConsensusHandler

namespace AethelredApp

/-- Whatever a proposer and a node with these votes in its cache do with their maps, the
proposed block passes the audit, the seal validation and the finality check. -/
def HonestBlocksPass (app : AethelredApp) (ctx : ConsensusContext) (votes : List ExtendedVoteInfo)
    (cache : VoteExtensionCache) (lastHeight : Int) : Prop :=
  ∀ proposer mempoolTxs size, (∀ tx ∈ mempoolTxs, isInjectedVoteExtensionTx tx = false) →
    auditProposalConsensusEvidence (app.prepareProposal ctx votes mempoolTxs size proposer)
        (votes.map ExtendedVoteInfo.validator) app.getConsensusThreshold = [] ∧
    (∀ tx ∈ app.prepareProposal ctx votes mempoolTxs size proposer,
      isInjectedVoteExtensionTx tx = true →
        app.consensusHandler.validateSealTransaction tx.doc = .ok ()) ∧
    ∀ nodeCtx aggregation finality, ∃ outcome,
      app.consensusHandler.aggregateVoteExtensions nodeCtx
        (cache.buildExtendedVotes lastHeight (votes.map ExtendedVoteInfo.validator)).1
        aggregation = some outcome ∧
      validateComputationFinality outcome.results
        (app.prepareProposal ctx votes mempoolTxs size proposer) app.getConsensusThreshold
        finality = .ok ()

/-- Every node with these votes in its cache accepts the blocks of a proposer that are not too
large. -/
def HonestBlocksAccepted (app : AethelredApp) (ctx : ConsensusContext)
    (votes : List ExtendedVoteInfo) (cache : VoteExtensionCache) (lastHeight : Int) : Prop :=
  ∀ proposer mempoolTxs size, (∀ tx ∈ mempoolTxs, isInjectedVoteExtensionTx tx = false) →
    ((app.prepareProposal ctx votes mempoolTxs size proposer).map RawTx.size).sum ≤
      maxTotalProofBytes →
    ∀ nodeCtx orders, app.processProposal nodeCtx cache
      ⟨lastHeight + 1, app.prepareProposal ctx votes mempoolTxs size proposer,
        votes.map ExtendedVoteInfo.validator⟩ orders = .accept

def totals (votes : List ExtendedVoteInfo) : VoteTotals :=
  ⟨votes.length, (commitVoteTotals (votes.map ExtendedVoteInfo.validator)).2, false⟩

/-- What the app's checks ask beyond the keeper's decision for an output. -/
structure Acceptable (app : AethelredApp) (votes : List ExtendedVoteInfo) (jobID : String)
    (outputHash : Bytes) : Prop where
  power : requiredConsensusPower (totals votes).totalPower app.getConsensusThreshold ≤
    app.consensusHandler.talliedPower (totals votes) votes jobID outputHash
  nonneg : 0 ≤ app.consensusHandler.talliedPower (totals votes) votes jobID outputHash
  someListed : 0 ≤ (len (app.consensusHandler.listed votes jobID outputHash)).val
  fewListed : (len (app.consensusHandler.listed votes jobID outputHash)).val ≤ (len votes).val
  stored : ∃ job, app.keeper.jobs.lookup jobID = some job ∧
    ∀ first, ((app.consensusHandler.listings votes).find? fun l => l.jobID = jobID) = some first →
      first.verification.modelHash = job.modelHash ∧ first.verification.inputHash = job.inputHash

/-- What `process_proposal` limits beside its three checks of the injected transactions: fifty of them
in a block, and enough power behind the extensions once there is one. -/
structure Sealable (app : AethelredApp) (votes : List ExtendedVoteInfo) : Prop where
  few : ∀ jobs : List String, jobs.Nodup →
    (∀ jobID ∈ jobs, ∃ outputHash,
      app.consensusHandler.Reached (totals votes) votes jobID outputHash) →
    jobs.length ≤ maxInjectedTxsPerBlock
  powered : ∀ jobID outputHash,
    app.consensusHandler.Reached (totals votes) votes jobID outputHash →
    ¬LacksPower (voteExtensionEvidencePower votes).2 (voteExtensionEvidencePower votes).1
      app.getConsensusThreshold

/-- Every output that reaches the quorum is acceptable, and no job has two of them. -/
structure Agreed (app : AethelredApp) (votes : List ExtendedVoteInfo) : Prop where
  acceptable : ∀ jobID outputHash,
    app.consensusHandler.Reached (totals votes) votes jobID outputHash →
      app.Acceptable votes jobID outputHash
  oneOutput : app.consensusHandler.OneOutput (totals votes) votes

section

variable {app : AethelredApp} {ctx : ConsensusContext} {votes : List ExtendedVoteInfo}
  {cache : VoteExtensionCache} {lastHeight : Int} {size : Json → Nat} {mempoolTxs : List RawTx}

theorem voteTotals_eq (app : AethelredApp)
    (positive : 0 < (commitVoteTotals (votes.map ExtendedVoteInfo.validator)).2) :
    app.consensusHandler.voteTotals votes = some (totals votes) := by
  unfold commitVoteTotals at positive
  simp only [voteTotals, totals, commitVoteTotals, foldl_map] at positive ⊢
  rw [if_neg]
  omega

theorem val_talliedPower (app : AethelredApp) (votes : List ExtendedVoteInfo) (jobID : String)
    (outputHash : Bytes) :
    (I64.ofInt (app.consensusHandler.talliedPower (totals votes) votes jobID outputHash)).val =
      app.consensusHandler.talliedPower (totals votes) votes jobID outputHash :=
  I64.val_ofInt (Int64.wrap_fits _)

theorem val_totalPower (votes : List ExtendedVoteInfo) :
    (I64.ofInt (totals votes).totalPower).val = (totals votes).totalPower := by
  have summed := Int64.foldl_add_eq_wrap ((votes.map ExtendedVoteInfo.validator).map
    AbciValidator.power) 0
  rw [foldl_map] at summed
  have fits : Int64.Fits (totals votes).totalPower :=
    (congrArg Int64.Fits summed).mpr (Int64.wrap_fits _)
  exact I64.val_ofInt fits

variable {jobID : String} {first : Listing}

theorem injectedOf_jobID
    (isFirst : ((app.consensusHandler.listings votes).find? fun l => l.jobID = jobID) = some first)
    (ctx : ConsensusContext) (outputHash : Bytes) :
    (injectedOf (app.consensusHandler.sealOf ctx (totals votes) votes jobID first
      outputHash)).jobID = jobID :=
  jobID_of_first isFirst

variable {outputHash : Bytes}

section

variable (verified : Verified votes)
  (positive : 0 < (commitVoteTotals (votes.map ExtendedVoteInfo.validator)).2)
  (reached : app.consensusHandler.Reached (totals votes) votes jobID outputHash)
  (isFirst : ((app.consensusHandler.listings votes).find? fun l => l.jobID = jobID) = some first)
include verified positive reached isFirst

theorem wellFormed_sealOf :
    WellFormed (injectedOf
        (app.consensusHandler.sealOf ctx (totals votes) votes jobID first outputHash)) ↔
      0 ≤ app.consensusHandler.talliedPower (totals votes) votes jobID outputHash ∧
      0 ≤ (len (app.consensusHandler.listed votes jobID outputHash)).val ∧
      (len (app.consensusHandler.listed votes jobID outputHash)).val ≤ (len votes).val := by
  obtain ⟨named, whole⟩ := verified.reached reached
  have power := val_talliedPower app votes jobID outputHash
  have total := val_totalPower votes
  constructor
  · rintro ⟨-, -, -, count, -, tallied, -, few⟩
    exact ⟨power ▸ tallied, count, few⟩
  · rintro ⟨tallied, count, few⟩
    refine ⟨rfl, ?_, whole, count, count.trans few, power.symm ▸ tallied, ?_, few⟩
    · rwa [injectedOf_jobID isFirst]
    · exact total.symm ▸ positive.le

/-- The seal of an acceptable output passes both checks of its transaction. -/
theorem sealOf_accepted (bytes : Nat) :
    validateInjectedConsensusEvidenceAgainstCommit
        ⟨some (app.consensusHandler.sealOf ctx (totals votes) votes jobID first outputHash).encode,
          bytes⟩ (votes.map ExtendedVoteInfo.validator) app.getConsensusThreshold = .ok () ∧
      app.consensusHandler.validateSealTransaction (some
        (app.consensusHandler.sealOf ctx (totals votes) votes jobID first outputHash).encode) =
          .ok () ↔
      app.Acceptable votes jobID outputHash := by
  have counted := voteTotals_eq app positive
  have power := val_talliedPower app votes jobID outputHash
  have total := val_totalPower votes
  have backed : validateInjectedConsensusEvidenceAgainstCommit
      ⟨some (app.consensusHandler.sealOf ctx (totals votes) votes jobID first outputHash).encode,
        bytes⟩ (votes.map ExtendedVoteInfo.validator) app.getConsensusThreshold = .ok () ↔
      WellFormed (injectedOf
        (app.consensusHandler.sealOf ctx (totals votes) votes jobID first outputHash)) ∧
      requiredConsensusPower (totals votes).totalPower app.getConsensusThreshold ≤
        app.consensusHandler.talliedPower (totals votes) votes jobID outputHash := by
    simp only [validateEvidence_ok, parseInjectedConsensusTx_ok, unmarshal_encode,
      Option.some.injEq]
    constructor
    · rintro ⟨injected, ⟨rfl, formed⟩, -, -, enough⟩
      refine ⟨formed, ?_⟩
      have share := not_lt.mp (not_or.mp enough).2
      change requiredConsensusPower (I64.ofInt (totals votes).totalPower).val _ ≤
        (I64.ofInt (app.consensusHandler.talliedPower _ votes jobID outputHash)).val at share
      rwa [total, power] at share
    · rintro ⟨formed, share⟩
      refine ⟨_, ⟨rfl, formed⟩, ?_, total, ?_⟩
      · change I64.ofInt votes.length = len (votes.map ExtendedVoteInfo.validator)
        rw [len, length_map]
      · change ¬LacksPower (I64.ofInt (totals votes).totalPower).val
          (I64.ofInt (app.consensusHandler.talliedPower _ votes jobID outputHash)).val _
        rw [total, power]
        exact not_or.mpr ⟨not_le.mpr positive, not_lt.mpr share⟩
  rw [backed, wellFormed_sealOf verified positive reached isFirst]
  cases known : app.keeper.jobs.lookup jobID with
  | none =>
    constructor
    · rintro ⟨-, validated⟩
      obtain ⟨-, -, -, job, stored, -⟩ := validateSealTransaction_ok.mp validated
      rw [sealOf_jobID isFirst] at stored
      cases known.symm.trans stored
    · rintro ⟨-, -, -, -, job, stored, -⟩
      cases known.symm.trans stored
  | some job =>
    rw [sealOf_validates verified counted known reached isFirst]
    constructor
    · rintro ⟨⟨⟨nonneg, count, few⟩, share⟩, hashes, -⟩
      refine ⟨share, nonneg, count, few, job, known, fun other isOther => ?_⟩
      rw [isFirst, Option.some.injEq] at isOther
      exact isOther ▸ hashes
    · rintro ⟨share, nonneg, count, few, stored, found, hashes⟩
      rw [known, Option.some.injEq] at found
      subst found
      exact ⟨⟨⟨nonneg, count, few⟩, share⟩, hashes first isFirst, .inl positive⟩

end

/-- The bytes of a seal transaction. -/
def rawSeal (size : Json → Nat) (tx : SealCreationTx) : RawTx := ⟨some tx.encode, size tx.encode⟩

theorem prepareProposal_eq (app : AethelredApp)
    (positive : 0 < (commitVoteTotals (votes.map ExtendedVoteInfo.validator)).2)
    (verified : Verified votes) (ctx : ConsensusContext) (mempoolTxs : List RawTx)
    (size : Json → Nat) (orders : SealOrders) :
    ∃ items : List SealCreationTx,
      app.prepareProposal ctx votes mempoolTxs size orders =
        items.map (rawSeal size) ++ mempoolTxs ∧
      (items.map SealCreationTx.jobID).Nodup ∧
      ∀ tx, tx ∈ items ↔ ∃ jobID first outputHash,
        ((app.consensusHandler.listings votes).find? fun l => l.jobID = jobID) = some first ∧
        app.consensusHandler.picked (totals votes) votes orders.aggregation.decision jobID =
          some outputHash ∧
        tx = app.consensusHandler.sealOf ctx (totals votes) votes jobID first outputHash := by
  obtain ⟨txs, proposed⟩ := proposedSeals_total app.consensusHandler verified ctx orders
  obtain ⟨items, rfl, distinct, members⟩ := exists_proposedItems (voteTotals_eq app positive) proposed
  refine ⟨items, ?_, distinct, members⟩
  simp only [prepareProposal, proposed, map_map]
  rfl

theorem injectedTxs_block (size : Json → Nat) {items : List SealCreationTx}
    (mempool : ∀ tx ∈ mempoolTxs, isInjectedVoteExtensionTx tx = false)
    (kind : ∀ tx ∈ items, tx.type = sealTxType)
    (formed : ∀ tx ∈ items, WellFormed (injectedOf tx)) :
    injectedTxs (items.map (rawSeal size) ++ mempoolTxs) = items.map injectedOf := by
  induction items with
  | nil =>
    have none : mempoolTxs.filter isInjectedVoteExtensionTx = [] := by
      rw [filter_eq_nil_iff]
      intro tx member
      simp [mempool tx member]
    simp [injectedTxs, none]
  | cons tx rest ih =>
    obtain ⟨kindFirst, kindRest⟩ := forall_mem_cons.mp kind
    obtain ⟨formedFirst, formedRest⟩ := forall_mem_cons.mp formed
    have named : isInjectedVoteExtensionTx (rawSeal size tx) = true := by
      rw [rawSeal, isInjected_encode, kindFirst]
      simp
    have parsed : parseInjectedConsensusTx (rawSeal size tx) = .ok (injectedOf tx) :=
      parseInjectedConsensusTx_ok.mpr ⟨unmarshal_encode _ _, formedFirst⟩
    rw [map_cons, cons_append, injectedTxs_cons_ok named parsed,
      ih kindRest formedRest, map_cons]

theorem picked_of_oneOutput {ch : ConsensusHandler} {totals : VoteTotals}
    (single : ch.OneOutput totals votes) (reached : ch.Reached totals votes jobID outputHash)
    (orders : DecisionOrders) : ch.picked totals votes orders jobID = some outputHash := by
  cases decided : ch.picked totals votes orders jobID with
  | none => exact absurd reached (not_reached_of_picked_none decided outputHash)
  | some other =>
    rw [single jobID outputHash other reached (reached_of_picked decided)]

/-- What honest proposers build passes where the votes agree. -/
theorem Agreed.pass (agreed : app.Agreed votes) (verified : Verified votes)
    (positive : 0 < (commitVoteTotals (votes.map ExtendedVoteInfo.validator)).2)
    (holds : cache.Holds lastHeight votes) : app.HonestBlocksPass ctx votes cache lastHeight := by
  intro proposer mempoolTxs size mempool
  have counted := voteTotals_eq app positive
  obtain ⟨items, block, distinct, members⟩ :=
    prepareProposal_eq app positive verified ctx mempoolTxs size proposer
  rw [block]
  have accepted : ∀ tx ∈ items, tx.type = sealTxType ∧ WellFormed (injectedOf tx) ∧
      validateInjectedConsensusEvidenceAgainstCommit (rawSeal size tx)
        (votes.map ExtendedVoteInfo.validator) app.getConsensusThreshold = .ok () ∧
      app.consensusHandler.validateSealTransaction (rawSeal size tx).doc = .ok () := by
    intro tx member
    obtain ⟨jobID, first, outputHash, isFirst, chosen, rfl⟩ := (members tx).mp member
    have reached := reached_of_picked chosen
    have acceptable := agreed.acceptable jobID outputHash reached
    exact ⟨rfl, (wellFormed_sealOf verified positive reached isFirst).mpr
      ⟨acceptable.nonneg, acceptable.someListed, acceptable.fewListed⟩,
      (sealOf_accepted verified positive reached isFirst _).mpr acceptable⟩
  have injected := injectedTxs_block size mempool (fun tx member => (accepted tx member).1)
    (fun tx member => (accepted tx member).2.1)
  have jobs : ((injectedTxs (items.map (rawSeal size) ++ mempoolTxs)).map
      InjectedVoteExtensionTx.jobID).Nodup := by
    rw [injected, map_map]
    exact distinct
  have fromItems : ∀ tx ∈ items.map (rawSeal size) ++ mempoolTxs,
      isInjectedVoteExtensionTx tx = true → ∃ item ∈ items, tx = rawSeal size item := by
    intro tx member named
    rcases mem_append.mp member with written | other
    · obtain ⟨item, present, rfl⟩ := mem_map.mp written
      exact ⟨item, present, rfl⟩
    · cases (mempool tx other).symm.trans named
  refine ⟨audit_passed.mpr ⟨?_, jobs⟩, ?_, ?_⟩
  · intro tx member named
    obtain ⟨item, present, rfl⟩ := fromItems tx member named
    exact (accepted item present).2.2.1
  · intro tx member named
    obtain ⟨item, present, rfl⟩ := fromItems tx member named
    exact (accepted item present).2.2.2
  · intro nodeCtx aggregation finality
    rw [holds.rebuilds]
    obtain ⟨outcome, returned⟩ := aggregate_total app.consensusHandler verified.longOutputs nodeCtx
      aggregation
    refine ⟨outcome, returned, (validateComputationFinality_ok (keyed_results returned) _).mpr
      ⟨⟨?_, jobs⟩, ?_, ?_⟩⟩
    · intro tx member named
      obtain ⟨item, present, rfl⟩ := fromItems tx member named
      exact ⟨injectedOf item, parseInjectedConsensusTx_ok.mpr
        ⟨unmarshal_encode _ _, (accepted item present).2.1⟩⟩
    · intro jobID res found consensus
      obtain ⟨first, outputHash, isFirst, reached, -, rfl⟩ :=
        decided_of_lookup counted returned found consensus
      have acceptable := agreed.acceptable jobID outputHash reached
      refine ⟨not_or.mpr ⟨not_le.mpr positive, not_lt.mpr acceptable.power⟩, ?_⟩
      have chosen := picked_of_oneOutput agreed.oneOutput reached proposer.aggregation.decision
      refine ⟨_, ?_, injectedOf_jobID isFirst ctx outputHash, rfl, val_totalPower votes,
        val_talliedPower app votes jobID outputHash, rfl, rfl⟩
      rw [injected]
      exact mem_map_of_mem ((members _).mpr ⟨jobID, first, outputHash, isFirst, chosen, rfl⟩)
    · intro inj member
      rw [injected] at member
      obtain ⟨item, present, rfl⟩ := mem_map.mp member
      obtain ⟨jobID, first, outputHash, isFirst, chosen, rfl⟩ := (members item).mp present
      have reached := reached_of_picked chosen
      have decided := (decide_some (aggregate_some counted returned).1 jobID).1
      rw [isFirst, picked_of_oneOutput agreed.oneOutput reached, Option.map_some] at decided
      rw [injectedOf_jobID isFirst]
      exact ⟨_, decided, rfl, rfl⟩

section

variable (verified : Verified votes)
  (positive : 0 < (commitVoteTotals (votes.map ExtendedVoteInfo.validator)).2)
include verified positive

/-- The block of a proposer that starts with the output and has an empty mempool is enough. -/
theorem acceptable_of_pass
    (pass : ∀ proposer, auditProposalConsensusEvidence
          (app.prepareProposal ctx votes [] (fun _ => 0) proposer)
          (votes.map ExtendedVoteInfo.validator) app.getConsensusThreshold = [] ∧
      ∀ tx ∈ app.prepareProposal ctx votes [] (fun _ => 0) proposer,
        isInjectedVoteExtensionTx tx = true →
          app.consensusHandler.validateSealTransaction tx.doc = .ok ())
    (reached : app.consensusHandler.Reached (totals votes) votes jobID outputHash) :
    app.Acceptable votes jobID outputHash := by
  obtain ⟨audited, valid⟩ := pass (SealOrders.startingWith outputHash)
  obtain ⟨items, block, -, members⟩ := prepareProposal_eq app positive verified ctx []
    (fun _ => 0) (SealOrders.startingWith outputHash)
  rw [block, append_nil] at audited valid
  obtain ⟨first, isFirst⟩ := exists_first_of_reached reached
  have written := mem_map_of_mem (f := rawSeal fun _ => 0)
    ((members _).mpr ⟨jobID, first, outputHash, isFirst, SealOrders.picked reached, rfl⟩)
  have named : isInjectedVoteExtensionTx (rawSeal (fun _ => 0)
      (app.consensusHandler.sealOf ctx (totals votes) votes jobID first outputHash)) = true := by
    rw [rawSeal, isInjected_encode]
    exact decide_eq_true rfl
  exact (sealOf_accepted verified positive reached isFirst _).mp
    ⟨(audit_passed.mp audited).1 _ written named, valid _ written named⟩

/-- The proposer's output and the node's are the same if finality holds. -/
theorem eq_of_final {proposed decided : Bytes}
    (reachedProposed : app.consensusHandler.Reached (totals votes) votes jobID proposed)
    (reachedDecided : app.consensusHandler.Reached (totals votes) votes jobID decided)
    (final : ∃ outcome, app.consensusHandler.aggregateVoteExtensions ctx votes
        (SealOrders.startingWith decided).aggregation = some outcome ∧
      validateComputationFinality outcome.results
        (app.prepareProposal ctx votes [] (fun _ => 0) (SealOrders.startingWith proposed))
        app.getConsensusThreshold ⟨.asGiven, .asGiven, .asGiven⟩ = .ok ()) :
    proposed = decided := by
  obtain ⟨outcome, returned, checked⟩ := final
  obtain ⟨first, isFirst⟩ := exists_first_of_reached reachedDecided
  have found := (decide_some
    (aggregate_some (voteTotals_eq app positive) returned).1 jobID).1
  rw [isFirst, SealOrders.picked reachedDecided, Option.map_some] at found
  obtain ⟨-, covered, -⟩ := (validateComputationFinality_ok (keyed_results returned) _).mp checked
  obtain ⟨-, inj, present, named, carries⟩ := covered jobID _ found rfl
  obtain ⟨items, block, -, members⟩ := prepareProposal_eq app positive verified ctx []
    (fun _ => 0) (SealOrders.startingWith proposed)
  rw [block, append_nil] at present
  simp only [injectedTxs, mem_filterMap, mem_filter, Except.toOption_eq_some,
    and_assoc] at present
  obtain ⟨tx, member, -, parsed⟩ := present
  obtain ⟨item, written, rfl⟩ := mem_map.mp member
  obtain ⟨read, -⟩ := parseInjectedConsensusTx_ok.mp parsed
  rw [rawSeal, unmarshal_encode, Option.some.injEq] at read
  subst read
  obtain ⟨otherJob, otherFirst, output, isOther, chosen, rfl⟩ := (members item).mp written
  rw [injectedOf_jobID isOther] at named
  subst named
  rw [SealOrders.picked reachedProposed, Option.some.injEq] at chosen
  exact chosen.trans carries.outputHash

theorem agreed_of_pass (holds : cache.Holds lastHeight votes)
    (pass : app.HonestBlocksPass ctx votes cache lastHeight) : app.Agreed votes := by
  have empty (proposer : SealOrders) := pass proposer [] (fun _ => 0) (forall_mem_nil _)
  refine ⟨fun _ _ => acceptable_of_pass verified positive fun proposer =>
    ⟨(empty proposer).1, (empty proposer).2.1⟩, fun jobID proposed decided first second => ?_⟩
  have final := (empty (.startingWith proposed)).2.2 ctx
    (SealOrders.startingWith decided).aggregation ⟨.asGiven, .asGiven, .asGiven⟩
  rw [holds.rebuilds] at final
  exact eq_of_final verified positive first second final

end

theorem cached_of_reached (holds : cache.Holds lastHeight votes)
    (reached : app.consensusHandler.Reached (totals votes) votes jobID outputHash) :
    0 < (cache.buildExtendedVotes lastHeight (votes.map ExtendedVoteInfo.validator)).2 := by
  obtain ⟨l, member⟩ := exists_mem_of_ne_nil _ reached.1
  obtain ⟨present, accepts, -⟩ :=
    mem_listings.mp (mem_listed.mp member).1
  rw [VoteExtensionCache.buildExtendedVotes_eq, countP_pos_iff]
  refine ⟨l.vote.validator, mem_map_of_mem present, ?_⟩
  by_contra absent
  have own := holds l.vote present
  rw [Option.not_isSome_iff_eq_none.mp absent, Option.getD_none] at own
  rw [acceptedExtension, ← own] at accepts
  cases accepts

section

variable (verified : Verified votes)
  (positive : 0 < (commitVoteTotals (votes.map ExtendedVoteInfo.validator)).2)
include verified positive

/-- As many transactions are injected as jobs have an output that reaches the ceiling. -/
theorem injected_of_reached (proposer : SealOrders)
    (mempool : ∀ tx ∈ mempoolTxs, isInjectedVoteExtensionTx tx = false) :
    ∃ jobs : List String, jobs.Nodup ∧
      (∀ jobID, jobID ∈ jobs ↔ ∃ outputHash,
        app.consensusHandler.Reached (totals votes) votes jobID outputHash) ∧
      (app.prepareProposal ctx votes mempoolTxs size proposer).countP isInjectedVoteExtensionTx =
        jobs.length := by
  obtain ⟨items, block, distinct, members⟩ :=
    prepareProposal_eq app positive verified ctx mempoolTxs size proposer
  refine ⟨items.map SealCreationTx.jobID, distinct, fun jobID => ?_, ?_⟩
  · rw [mem_map]
    constructor
    · rintro ⟨item, present, rfl⟩
      obtain ⟨jobID, first, outputHash, isFirst, chosen, rfl⟩ := (members item).mp present
      rw [sealOf_jobID isFirst]
      exact ⟨outputHash, reached_of_picked chosen⟩
    · rintro ⟨outputHash, reached⟩
      obtain ⟨first, isFirst⟩ := exists_first_of_reached reached
      cases chosen : app.consensusHandler.picked (totals votes) votes
        proposer.aggregation.decision jobID with
      | none => exact absurd reached (not_reached_of_picked_none chosen outputHash)
      | some other =>
        exact ⟨_, (members _).mpr ⟨jobID, first, other, isFirst, chosen, rfl⟩, sealOf_jobID isFirst⟩
  · have written : ∀ tx ∈ items.map (rawSeal size), isInjectedVoteExtensionTx tx = true := by
      intro tx member
      obtain ⟨item, present, rfl⟩ := mem_map.mp member
      obtain ⟨jobID, first, outputHash, -, -, rfl⟩ := (members item).mp present
      rw [rawSeal, isInjected_encode]
      exact decide_eq_true rfl
    rw [block, countP_append, countP_eq_length.mpr written, length_map, length_map,
      countP_eq_zero.mpr fun tx member => by rw [mempool tx member]; exact Bool.false_ne_true]
    rfl

theorem proposed_small (proposer : SealOrders) :
    ((app.prepareProposal ctx votes [] (fun _ => 0) proposer).map RawTx.size).sum ≤
      maxTotalProofBytes := by
  obtain ⟨items, block, -⟩ := prepareProposal_eq app positive verified ctx [] (fun _ => 0) proposer
  rw [block, append_nil, map_map, sum_eq_zero]
  · exact Nat.zero_le _
  · intro bytes member
    obtain ⟨item, -, rfl⟩ := mem_map.mp member
    rfl

section

variable (holds : cache.Holds lastHeight votes)
include holds

theorem Agreed.accepted (agreed : app.Agreed votes) (sealable : app.Sealable votes) :
    app.HonestBlocksAccepted ctx votes cache lastHeight := by
  intro proposer mempoolTxs size mempool bytes nodeCtx orders
  obtain ⟨audited, valid, final⟩ :=
    agreed.pass verified positive holds proposer mempoolTxs size mempool
  obtain ⟨jobs, distinct, members, count⟩ :=
    injected_of_reached verified positive proposer mempool
  refine processProposal_accept.mpr ⟨⟨audited, ?_, bytes, valid⟩, fun _ => ?_⟩
  · rw [count]
    exact sealable.few jobs distinct fun jobID member => (members jobID).mp member
  · refine checkCachedExtensions_accept.mpr fun _ => ⟨fun some => ?_, ?_⟩
    · obtain ⟨jobID, member⟩ := exists_mem_of_length_pos (count ▸ some)
      obtain ⟨outputHash, reached⟩ := (members jobID).mp member
      dsimp only
      rw [Int.add_sub_cancel, holds.rebuilds]
      exact sealable.powered jobID outputHash reached
    · dsimp only
      rw [Int.add_sub_cancel]
      exact final nodeCtx orders.aggregation orders.finality

variable (production : app.consensusHandler.productionVerificationMode = true)
include production

theorem agreed_of_accepted (accepted : app.HonestBlocksAccepted ctx votes cache lastHeight) :
    app.Agreed votes ∧ app.Sealable votes := by
  have checked (proposer : SealOrders) (orders : ProposalOrders) := processProposal_accept.mp
    (accepted proposer [] (fun _ => 0) (forall_mem_nil _)
      (proposed_small verified positive proposer) ctx orders)
  have base (proposer : SealOrders) :=
    (checked proposer ⟨.asGiven, .asGiven, .asGiven, .asGiven⟩).1
  have cross (proposer : SealOrders) (orders : ProposalOrders) :=
    checkCachedExtensions_accept.mp ((checked proposer orders).2 production)
  dsimp only at cross
  rw [Int.add_sub_cancel, holds.rebuilds] at cross
  obtain ⟨_, -, members, count⟩ := injected_of_reached verified positive
    (SealOrders.startingWith []) (forall_mem_nil _)
  refine ⟨⟨fun _ _ => acceptable_of_pass verified positive fun proposer =>
    ⟨(base proposer).audited, (base proposer).validated⟩,
    fun jobID proposed decided first second => ?_⟩,
    fun jobs distinct reached => ?_, fun jobID outputHash reached => ?_⟩
  · exact eq_of_final verified positive first second
      (cross (.startingWith proposed) ⟨(SealOrders.startingWith decided).aggregation,
        .asGiven, .asGiven, .asGiven⟩ (cached_of_reached holds first)).2
  · have fewer := (distinct.subperm fun jobID member =>
      (members jobID).mpr (reached jobID member)).length_le
    exact fewer.trans (count ▸ (base (.startingWith [])).fewInjected)
  · refine (cross (.startingWith []) ⟨.asGiven, .asGiven, .asGiven, .asGiven⟩
      (cached_of_reached holds reached)).1 ?_
    rw [count]
    exact length_pos_of_mem ((members jobID).mpr ⟨outputHash, reached⟩)

/-- In production mode every node accepts an honest block exactly when the outputs of a job agree,
are acceptable to the app, and few enough jobs with enough power behind them are sealed. -/
theorem honestBlocksAccepted_iff :
    app.HonestBlocksAccepted ctx votes cache lastHeight ↔
      app.Agreed votes ∧ app.Sealable votes :=
  ⟨agreed_of_accepted verified positive holds production,
    fun ⟨agreed, sealable⟩ => agreed.accepted verified positive holds sealable⟩

end

end

end

/-- An honest proposer's blocks pass exactly when each output the keeper may decide for is
the only one of its job and acceptable to the app. -/
theorem honestBlocksPass_iff (app : AethelredApp) (ctx : ConsensusContext)
    (votes : List ExtendedVoteInfo) (cache : VoteExtensionCache) (lastHeight : Int)
    (verified : Verified votes)
    (positive : 0 < (commitVoteTotals (votes.map ExtendedVoteInfo.validator)).2)
    (holds : cache.Holds lastHeight votes) :
    app.HonestBlocksPass ctx votes cache lastHeight ↔ app.Agreed votes :=
  ⟨agreed_of_pass verified positive holds, fun agreed => agreed.pass verified positive holds⟩

namespace Sample

open Pouw.Sample

def oneJobApp : AethelredApp := ⟨oneJob.keeper, false⟩

/-- What a node has cached after verifying these votes at height 1. -/
def cacheOf (votes : List ExtendedVoteInfo) : VoteExtensionCache :=
  votes.foldl (fun c vote => c.store 1 vote.validator.address vote.voteExtension)
    (.new 4 "aethelred-1")

/-- A verification by 67 of 100, which is the keeper's share of 67% and not the app's. -/
def borderline : List ExtendedVoteInfo :=
  [vote [1] 67 [success "job" (digest 1) (digest 2) (digest 3)], vote [2] 33 []]

theorem holds_borderline : (cacheOf borderline).Holds 1 borderline := by
  intro vote member
  simp only [borderline, mem_cons, not_mem_nil, or_false] at member
  rcases member with rfl | rfl <;> rfl

end Sample

open Sample Pouw.Sample in
/-- The proposer seals the job with 67 of 100, and the audit asks for 68. -/
theorem honestBlocksPass_fails :
    (cacheOf borderline).Holds 1 borderline ∧
      ¬oneJobApp.HonestBlocksPass blockZero borderline (cacheOf borderline) 1 := by
  refine ⟨holds_borderline, fun pass => ?_⟩
  have reached : oneJobApp.consensusHandler.Reached (totals borderline) borderline "job"
      (digest 3) := by
    unfold Reached
    decide +kernel
  have acceptable := acceptable_of_pass (by unfold Verified; decide) (by decide) (fun proposer =>
    have passed := pass proposer [] (fun _ => 0) (forall_mem_nil _)
    ⟨passed.1, passed.2.1⟩) reached
  exact absurd acceptable.power (by decide +kernel)

namespace Sample

open Pouw.Sample

theorem holds_unanimous : (cacheOf unanimous).Holds 1 unanimous := by
  intro vote member
  simp only [unanimous, mem_cons, not_mem_nil, or_false] at member
  rcases member with rfl | rfl <;> rfl

theorem agreed_unanimous : oneJobApp.Agreed unanimous := by
  constructor
  · intro jobID outputHash reached
    obtain rfl := reached_unanimous reached
    obtain ⟨l, member⟩ := exists_mem_of_ne_nil _ reached.1
    obtain ⟨listed, named, -⟩ := mem_listed.mp member
    rw [Listing.jobID, listings_unanimous listed] at named
    subst named
    refine ⟨by decide +kernel, by decide +kernel, by decide +kernel, by decide +kernel,
      job, rfl, fun first isFirst => ?_⟩
    rw [listings_unanimous (mem_of_find?_eq_some isFirst)]
    exact ⟨rfl, rfl⟩
  · intro jobID first second reachedFirst reachedSecond
    rw [reached_unanimous reachedFirst,
      reached_unanimous reachedSecond]

end Sample

open Sample Pouw.Sample in
/-- With all power behind the job's output every block passes. -/
theorem honestBlocksPass_unanimous :
    oneJobApp.HonestBlocksPass blockZero unanimous (cacheOf unanimous) 1 :=
  (honestBlocksPass_iff _ _ _ _ _ (by unfold Verified; decide) (by decide) holds_unanimous).mpr
    agreed_unanimous

end AethelredApp

end Aethelred.App
