import Aethelred.App.ConsensusFinality
import Aethelred.Pouw.SealOrder

/- When a proposal passes the audit, and how the app reads a seal transaction. -/
namespace Aethelred.App

open Go Aethelred.Pouw List Except Option SealCreationTx Json

/-- What the shape check of an injected transaction asks for. -/
structure WellFormed (tx : InjectedVoteExtensionTx) : Prop where
  type : tx.type = sealTxType
  jobID : tx.jobID ≠ ""
  outputHash : tx.outputHash.length = 32
  validatorCount : 0 ≤ tx.validatorCount.val
  totalVotes : 0 ≤ tx.totalVotes.val
  agreementPower : 0 ≤ tx.agreementPower.val
  totalPower : 0 ≤ tx.totalPower.val
  count : tx.validatorCount.val ≤ tx.totalVotes.val

theorem validateInjectedConsensusTxFormat_ok {tx : InjectedVoteExtensionTx} :
    validateInjectedConsensusTxFormat tx = .ok () ↔ WellFormed tx := by
  unfold validateInjectedConsensusTxFormat
  simp only [ite_error_eq_ok, not_or, not_not, not_lt, and_true]
  constructor
  · rintro ⟨type, named, whole, ⟨count, votes, power, total⟩, bounded⟩
    exact ⟨type, named, whole, count, votes, power, total, bounded⟩
  · rintro ⟨type, named, whole, count, votes, power, total, bounded⟩
    exact ⟨type, named, whole, ⟨count, votes, power, total⟩, bounded⟩

theorem parseInjectedConsensusTx_ok {tx : RawTx} {injected : InjectedVoteExtensionTx} :
    parseInjectedConsensusTx tx = .ok injected ↔
      unmarshalInjectedVoteExtensionTx tx = some injected ∧ WellFormed injected := by
  unfold parseInjectedConsensusTx
  rw [← validateInjectedConsensusTxFormat_ok]
  cases unmarshalInjectedVoteExtensionTx tx with
  | none => simp
  | some other =>
    simp only [some.injEq]
    cases checked : validateInjectedConsensusTxFormat other with
    | error reason =>
      simp only [reduceCtorEq, false_iff]
      rintro ⟨rfl, passed⟩
      cases checked.symm.trans passed
    | ok done =>
      simp only [ok.injEq]
      constructor
      · rintro rfl
        exact ⟨rfl, checked⟩
      · exact And.left

section

variable {tx : RawTx} {commit : CommitInfo} {consensusThreshold : Int} {state : AuditState}
  {index : Nat}

theorem validateEvidence_ok :
    validateInjectedConsensusEvidenceAgainstCommit tx commit consensusThreshold = .ok () ↔
      ∃ injected, parseInjectedConsensusTx tx = .ok injected ∧
        injected.totalVotes = (commitVoteTotals commit).1 ∧
        injected.totalPower.val = (commitVoteTotals commit).2 ∧
        ¬LacksPower injected.totalPower.val injected.agreementPower.val consensusThreshold := by
  unfold validateInjectedConsensusEvidenceAgainstCommit
  cases parseInjectedConsensusTx tx with
  | error reason => simp
  | ok injected =>
    simp only [ite_error_eq_ok, LacksPower, not_not, and_true, ok.injEq,
      exists_eq_left', ne_eq]

theorem auditTx_issues :
    (auditTx commit consensusThreshold state (tx, index)).issues = [] ↔
      state.issues = [] ∧ (isInjectedVoteExtensionTx tx = true →
        validateInjectedConsensusEvidenceAgainstCommit tx commit consensusThreshold = .ok () ∧
        ∀ injected, parseInjectedConsensusTx tx = .ok injected →
          state.seenJobs.lookup injected.jobID = none) := by
  unfold auditTx
  cases named : isInjectedVoteExtensionTx tx with
  | false => simp [named]
  | true =>
    cases parsed : parseInjectedConsensusTx tx with
    | error reason => simp [validateEvidence_ok, parsed, named]
    | ok injected =>
      cases seen : state.seenJobs.lookup injected.jobID <;>
        cases checked : validateInjectedConsensusEvidenceAgainstCommit tx commit
          consensusThreshold <;> simp [named, parsed, seen, checked]

theorem auditTx_seenJobs {injected : InjectedVoteExtensionTx}
    (named : isInjectedVoteExtensionTx tx = true)
    (parsed : parseInjectedConsensusTx tx = .ok injected)
    (fresh : state.seenJobs.lookup injected.jobID = none) :
    (auditTx commit consensusThreshold state (tx, index)).seenJobs =
      state.seenJobs.insert injected.jobID index := by
  simp only [auditTx, named, parsed, fresh, Bool.not_true, Bool.false_eq_true, ↓reduceIte]
  cases validateInjectedConsensusEvidenceAgainstCommit tx commit consensusThreshold <;> rfl

/-- The audit finds nothing exactly if evidence fits and no job is named twice. -/
theorem foldl_auditTx_issues {txs : List RawTx} :
    ((txs.zipIdx index).foldl (auditTx commit consensusThreshold) state).issues = [] ↔
      state.issues = [] ∧
      (∀ tx ∈ txs, isInjectedVoteExtensionTx tx = true →
        validateInjectedConsensusEvidenceAgainstCommit tx commit consensusThreshold = .ok ()) ∧
      ((injectedTxs txs).map InjectedVoteExtensionTx.jobID).Nodup ∧
      ∀ inj ∈ injectedTxs txs, state.seenJobs.lookup inj.jobID = none := by
  induction txs generalizing state index with
  | nil => simp [injectedTxs]
  | cons tx rest ih =>
    rw [zipIdx_cons, foldl_cons, ih, auditTx_issues, forall_mem_cons]
    cases named : isInjectedVoteExtensionTx tx with
    | false => simp [injectedTxs_cons_other named, auditTx, named]
    | true =>
      by_cases backed :
        validateInjectedConsensusEvidenceAgainstCommit tx commit consensusThreshold = .ok ()
      · obtain ⟨injected, parsed, -⟩ := validateEvidence_ok.mp backed
        simp only [backed, parsed, ok.injEq, forall_eq', true_and, forall_const,
          injectedTxs_cons_ok named parsed, map_cons, nodup_cons,
          forall_mem_cons]
        by_cases fresh : state.seenJobs.lookup injected.jobID = none
        · rw [auditTx_seenJobs named parsed fresh]
          simp only [fresh, Map.lookup_insert_eq, and_true, true_and]
          constructor
          · rintro ⟨clean, others, distinct, absent⟩
            refine ⟨clean, others, ⟨?_, distinct⟩, ?_⟩
            · intro again
              obtain ⟨inj, member, same⟩ := mem_map.mp again
              have missing := absent inj member
              rw [if_pos same] at missing
              cases missing
            · intro inj member
              have missing := absent inj member
              split at missing
              · cases missing
              · exact missing
          · rintro ⟨clean, others, ⟨unseen, distinct⟩, absent⟩
            refine ⟨clean, others, distinct, fun inj member => ?_⟩
            rw [if_neg]
            · exact absent inj member
            · intro same
              exact unseen (mem_map.mpr ⟨inj, member, same⟩)
        · simp [fresh]
      · simp [backed]

theorem audit_passed {txs : List RawTx} :
    auditProposalConsensusEvidence txs commit consensusThreshold = [] ↔
      (∀ tx ∈ txs, isInjectedVoteExtensionTx tx = true →
        validateInjectedConsensusEvidenceAgainstCommit tx commit consensusThreshold = .ok ()) ∧
      ((injectedTxs txs).map InjectedVoteExtensionTx.jobID).Nodup := by
  unfold auditProposalConsensusEvidence
  rw [foldl_auditTx_issues]
  simp

end

variable (tx : SealCreationTx)

def injectedOf : InjectedVoteExtensionTx where
  jobID := tx.jobID
  outputHash := tx.outputHash
  validatorCount := tx.validatorCount
  totalVotes := tx.totalVotes
  agreementPower := tx.agreementPower
  totalPower := tx.totalPower
  blockHeight := tx.blockHeight
  type := tx.type

/-- A seal transaction is parsed as the injected transaction it stands for. -/
theorem decode_encode_injected :
    InjectedVoteExtensionTx.decode tx.encode = some (injectedOf tx) := by
  have distinct := tx.distinct_fields
  have kind : ("type", str tx.type) ∈ tx.fields := by simp [fields]
  have job : ("job_id", str tx.jobID) ∈ tx.fields := by simp [fields]
  have output : ("output_hash", encodeBytes tx.outputHash) ∈ tx.fields := by
    simp [fields]
  have count : ("validator_count", num tx.validatorCount.val) ∈ tx.fields := by
    simp [fields]
  have votes : ("total_votes", num tx.totalVotes.val) ∈ tx.fields := by
    simp [fields]
  have power : ("agreement_power", num tx.agreementPower.val) ∈ tx.fields := by
    simp [fields]
  have total : ("total_power", num tx.totalPower.val) ∈ tx.fields := by
    simp [fields]
  have height : ("block_height", num tx.blockHeight.val) ∈ tx.fields := by
    simp [fields]
  have absent : foldName "attestations" ∉
      tx.fields.map fun entry => foldName entry.1 := by
    simp only [fields, map_cons, map_nil]
    decide
  simp only [InjectedVoteExtensionTx.decode, encode, decodeRecord,
    InjectedVoteExtensionTx.decodeFields, field_str distinct kind,
    field_str distinct job, field_bytes distinct output, field_num distinct count,
    field_num distinct votes, field_num distinct power, field_num distinct total,
    field_num distinct height, field_absent absent, bind_eq_bind,
    Option.bind_some, Option.pure_def]
  rfl

theorem isInjected_encode (size : Nat) :
    isInjectedVoteExtensionTx ⟨some tx.encode, size⟩ = (tx.type = sealTxType : Bool) := by
  have kind : ("type", str tx.type) ∈ tx.fields := by simp [fields]
  simp only [isInjectedVoteExtensionTx, bind_some, encode,
    decodeRecord, field_str tx.distinct_fields kind, some.injEq]

theorem unmarshal_encode (size : Nat) :
    unmarshalInjectedVoteExtensionTx ⟨some tx.encode, size⟩ = some (injectedOf tx) :=
  decode_encode_injected tx

/- The two proposal handlers. -/

structure AethelredApp where
  keeper : Keeper
  allowSimulatedInThisBuild : Bool := false

namespace AethelredApp

variable (app : AethelredApp)

def consensusHandler : ConsensusHandler where
  keeper := app.keeper
  allowSimulatedInThisBuild := app.allowSimulatedInThisBuild

def getConsensusThreshold : Int :=
  if app.keeper.getParams.consensusThreshold ≥ 67 then app.keeper.getParams.consensusThreshold
  else 67

/-- The seal transactions before the mempool's; only the latter when the aggregation panics. -/
def prepareProposal (ctx : ConsensusContext) (votes : List ExtendedVoteInfo)
    (mempoolTxs : List RawTx) (size : Json → Nat) (orders : SealOrders) : List RawTx :=
  match app.consensusHandler.proposedSeals ctx votes orders with
  | none => mempoolTxs
  | some sealTxs => sealTxs.map (fun doc => ⟨some doc, size doc⟩) ++ mempoolTxs

end AethelredApp

inductive ProposalStatus where
  | accept
  | reject
deriving DecidableEq

structure RequestProcessProposal where
  height : Int
  txs : List RawTx
  proposedLastCommit : CommitInfo

/-- The orders in which a node visits its maps while it checks a proposal. -/
structure ProposalOrders where
  aggregation : AggregationOrders
  finality : FinalityOrders

def maxInjectedTxsPerBlock : Nat := 50

def maxTotalProofBytes : Nat := 5 * 1024 * 1024

def voteExtensionEvidencePower (votes : List ExtendedVoteInfo) : Int × Int :=
  votes.foldl (fun powers v =>
    let totalPower := Int64.wrap (powers.2 + v.validator.power)
    match v.voteExtension with
    | .empty => (powers.1, totalPower)
    | _ => (Int64.wrap (powers.1 + v.validator.power), totalPower)) (0, 0)

namespace AethelredApp

/-- The cross-check against the node's own extensions, of which `found` were cached. -/
def checkCachedExtensions (app : AethelredApp) (ctx : ConsensusContext) (txs : List RawTx)
    (extendedVotes : List ExtendedVoteInfo) (found : Nat) (orders : ProposalOrders) :
    ProposalStatus :=
  let injectedTxCount := txs.countP isInjectedVoteExtensionTx
  let power := voteExtensionEvidencePower extendedVotes
  if 0 < found ∧ 0 < injectedTxCount ∧ LacksPower power.2 power.1 app.getConsensusThreshold then
    .reject
  else if 0 < found then
    -- A panic of the aggregation is recovered as a rejection.
    match app.consensusHandler.aggregateVoteExtensions ctx extendedVotes orders.aggregation with
    | none => .reject
    | some outcome =>
      match validateComputationFinality outcome.results txs app.getConsensusThreshold
        orders.finality with
      | .error _ => .reject
      | .ok () => .accept
  else .accept

def processProposal (app : AethelredApp) (ctx : ConsensusContext) (cache : VoteExtensionCache)
    (req : RequestProcessProposal) (orders : ProposalOrders) : ProposalStatus :=
  if auditProposalConsensusEvidence req.txs req.proposedLastCommit app.getConsensusThreshold ≠ []
  then .reject
  else if maxInjectedTxsPerBlock < req.txs.countP isInjectedVoteExtensionTx then .reject
  else if maxTotalProofBytes < (req.txs.map RawTx.size).sum then .reject
  else match forM (req.txs.filter isInjectedVoteExtensionTx) fun tx =>
      app.consensusHandler.validateSealTransaction tx.doc with
    | .error _ => .reject
    | .ok () =>
      if app.consensusHandler.productionVerificationMode then
        let (extendedVotes, found) :=
          cache.buildExtendedVotes (req.height - 1) req.proposedLastCommit
        app.checkCachedExtensions ctx req.txs extendedVotes found orders
      else .accept

/-- The checks of a proposal that read no cache. -/
structure BaseChecks (app : AethelredApp) (req : RequestProcessProposal) : Prop where
  audited : auditProposalConsensusEvidence req.txs req.proposedLastCommit
    app.getConsensusThreshold = []
  fewInjected : req.txs.countP isInjectedVoteExtensionTx ≤ maxInjectedTxsPerBlock
  fewBytes : (req.txs.map RawTx.size).sum ≤ maxTotalProofBytes
  validated : ∀ tx ∈ req.txs, isInjectedVoteExtensionTx tx = true →
    app.consensusHandler.validateSealTransaction tx.doc = .ok ()

/-- What a node checks against the extensions it has cached. -/
theorem checkCachedExtensions_accept {app : AethelredApp} {ctx : ConsensusContext}
    {txs : List RawTx} {extendedVotes : List ExtendedVoteInfo} {found : Nat}
    {orders : ProposalOrders} :
    app.checkCachedExtensions ctx txs extendedVotes found orders = .accept ↔
      (0 < found →
        (0 < txs.countP isInjectedVoteExtensionTx →
          ¬LacksPower (voteExtensionEvidencePower extendedVotes).2
            (voteExtensionEvidencePower extendedVotes).1 app.getConsensusThreshold) ∧
        ∃ outcome, app.consensusHandler.aggregateVoteExtensions ctx extendedVotes
            orders.aggregation = some outcome ∧
          validateComputationFinality outcome.results txs app.getConsensusThreshold
            orders.finality = .ok ()) := by
  unfold checkCachedExtensions
  by_cases some : 0 < found
  · simp only [some, true_and, forall_const]
    split
    · rename_i lacking
      simp only [reduceCtorEq, false_iff]
      exact fun both => absurd lacking.2 (both.1 lacking.1)
    · rename_i enough
      have powered : 0 < txs.countP isInjectedVoteExtensionTx →
          ¬LacksPower (voteExtensionEvidencePower extendedVotes).2
            (voteExtensionEvidencePower extendedVotes).1 app.getConsensusThreshold :=
        not_and.mp enough
      rw [if_pos trivial, and_iff_right powered]
      cases app.consensusHandler.aggregateVoteExtensions ctx extendedVotes orders.aggregation with
      | none => simp
      | some outcome =>
        simp only [Option.some.injEq, exists_eq_left']
        cases validateComputationFinality outcome.results txs app.getConsensusThreshold
          orders.finality with
        | error reason => simp
        | ok done => simp
  · simp [some]

/-- A proposal is accepted exactly if its base checks and those against the cache pass. -/
theorem processProposal_accept {app : AethelredApp} {ctx : ConsensusContext}
    {cache : VoteExtensionCache} {req : RequestProcessProposal} {orders : ProposalOrders} :
    app.processProposal ctx cache req orders = .accept ↔
      app.BaseChecks req ∧ (app.consensusHandler.productionVerificationMode = true →
        app.checkCachedExtensions ctx req.txs
          (cache.buildExtendedVotes (req.height - 1) req.proposedLastCommit).1
          (cache.buildExtendedVotes (req.height - 1) req.proposedLastCommit).2 orders = .accept) := by
  have base : app.BaseChecks req ↔
      auditProposalConsensusEvidence req.txs req.proposedLastCommit app.getConsensusThreshold =
          [] ∧
        req.txs.countP isInjectedVoteExtensionTx ≤ maxInjectedTxsPerBlock ∧
        (req.txs.map RawTx.size).sum ≤ maxTotalProofBytes ∧
        forM (req.txs.filter isInjectedVoteExtensionTx) (fun tx =>
          app.consensusHandler.validateSealTransaction tx.doc) = .ok () := by
    simp only [forM_eq_ok, mem_filter, and_imp]
    exact ⟨fun h => ⟨h.audited, h.fewInjected, h.fewBytes, h.validated⟩,
      fun ⟨audited, few, bytes, valid⟩ => ⟨audited, few, bytes, valid⟩⟩
  rw [base, processProposal]
  by_cases audited :
    auditProposalConsensusEvidence req.txs req.proposedLastCommit app.getConsensusThreshold = []
  · by_cases few : maxInjectedTxsPerBlock < req.txs.countP isInjectedVoteExtensionTx
    · simp [audited, few]
    · by_cases bytes : maxTotalProofBytes < (req.txs.map RawTx.size).sum
      · simp [audited, few, bytes]
      · rw [if_neg (not_not.mpr audited), if_neg few, if_neg bytes]
        cases valid : forM (req.txs.filter isInjectedVoteExtensionTx) (fun tx =>
          app.consensusHandler.validateSealTransaction tx.doc) with
        | error reason => simp
        | ok done =>
          cases app.consensusHandler.productionVerificationMode <;>
            simp [audited, not_lt.mp few, not_lt.mp bytes]
  · simp [audited]

end AethelredApp

section

variable {ctx : ConsensusContext}

theorem keyed_results {ch : ConsensusHandler} {votes : List ExtendedVoteInfo}
    {orders : AggregationOrders} {outcome : AggregationOutcome}
    (returned : ch.aggregateVoteExtensions ctx votes orders = some outcome) :
    Keyed outcome.results := by
  intro jobID res found
  cases counted : ch.voteTotals votes with
  | none =>
    rw [aggregate_none counted returned] at found
    cases found
  | some totals =>
    obtain ⟨decided, -⟩ := aggregate_some counted returned
    rw [(ConsensusHandler.decide_some decided jobID).1, map_eq_some_iff] at found
    obtain ⟨first, isFirst, rfl⟩ := found
    have named := jobID_of_first isFirst
    cases ch.picked totals votes orders.decision jobID with
    | none => exact named
    | some outputHash => exact named

end

end Aethelred.App
