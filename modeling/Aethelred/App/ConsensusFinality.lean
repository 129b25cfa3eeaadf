import Aethelred.App.ConsensusEvidence

/- The finality check: a node's own aggregation against the block's seal transactions. -/
namespace Aethelred.App

open Go Aethelred.Pouw List Except

inductive FinalityError where
  | belowThreshold (jobID : String)
  | malformed (reason : InjectedTxError)
  | duplicateInjected (jobID : String)
  | missingInjected (jobID : String)
  | outputHashMismatch (jobID : String)
  | injectedBelowThreshold (jobID : String)
  | powerMismatch (jobID : String)
  | voteCountMismatch (jobID : String)
  | withoutQuorum (jobID : String)
deriving DecidableEq

structure FinalityOrders where
  results : RangeOrder String
  consensusJobs : RangeOrder String
  injected : RangeOrder String

/-- No power at all, or less than the share. -/
def LacksPower (totalPower agreementPower consensusThreshold : Int) : Prop :=
  totalPower ≤ 0 ∨ agreementPower < requiredConsensusPower totalPower consensusThreshold

instance (totalPower agreementPower consensusThreshold : Int) :
    Decidable (LacksPower totalPower agreementPower consensusThreshold) :=
  inferInstanceAs (Decidable (_ ∨ _))

def collectConsensusJob (consensusThreshold : Int) (jobs : Map String AggregatedResult)
    (entry : String × AggregatedResult) : Except FinalityError (Map String AggregatedResult) :=
  let res := entry.2
  if !res.hasConsensus then .ok jobs
  else if LacksPower res.totalPower res.agreementPower consensusThreshold then
    .error (.belowThreshold res.jobID)
  else .ok (jobs.insert res.jobID res)

def collectInjected (injected : Map String InjectedVoteExtensionTx) (txBytes : RawTx) :
    Except FinalityError (Map String InjectedVoteExtensionTx) :=
  if !isInjectedVoteExtensionTx txBytes then .ok injected
  else match parseInjectedConsensusTx txBytes with
    | .error reason => .error (.malformed reason)
    | .ok tx =>
      if (injected.lookup tx.jobID).isSome then .error (.duplicateInjected tx.jobID)
      else .ok (injected.insert tx.jobID tx)

def checkConsensusJob (consensusThreshold : Int) (injected : Map String InjectedVoteExtensionTx)
    (entry : String × AggregatedResult) : Except FinalityError Unit :=
  let (jobID, res) := entry
  match injected.lookup jobID with
  | none => .error (.missingInjected jobID)
  | some inj =>
    if inj.outputHash ≠ res.outputHash then .error (.outputHashMismatch jobID)
    else if LacksPower inj.totalPower.val inj.agreementPower.val consensusThreshold then
      .error (.injectedBelowThreshold jobID)
    else if inj.totalPower.val ≠ res.totalPower ∨ inj.agreementPower.val ≠ res.agreementPower then
      .error (.powerMismatch jobID)
    else if inj.validatorCount ≠ I64.ofInt res.agreementCount ∨
        inj.totalVotes ≠ I64.ofInt res.totalVotes then
      .error (.voteCountMismatch jobID)
    else .ok ()

def checkInjected (consensusJobs : Map String AggregatedResult)
    (entry : String × InjectedVoteExtensionTx) : Except FinalityError Unit :=
  let (jobID, inj) := entry
  match consensusJobs.lookup jobID with
  | none => .error (.withoutQuorum jobID)
  | some res =>
    if !res.hasConsensus then .error (.withoutQuorum jobID)
    else if inj.outputHash ≠ res.outputHash then .error (.outputHashMismatch jobID)
    else .ok ()

def validateComputationFinality (results : Map String AggregatedResult) (txs : List RawTx)
    (consensusThreshold : Int) (orders : FinalityOrders) : Except FinalityError Unit := do
  let consensusJobs ←
    (results.entries orders.results).foldlM (collectConsensusJob consensusThreshold) ∅
  let injected ← txs.foldlM collectInjected ∅
  forM (consensusJobs.entries orders.consensusJobs) (checkConsensusJob consensusThreshold injected)
  forM (injected.entries orders.injected) (checkInjected consensusJobs)

def injectedTxs (txs : List RawTx) : List InjectedVoteExtensionTx :=
  (txs.filter isInjectedVoteExtensionTx).filterMap fun tx => (parseInjectedConsensusTx tx).toOption

/-- Every injected transaction can be read, and no two are of one job. -/
structure WellInjected (txs : List RawTx) : Prop where
  parsed : ∀ tx ∈ txs, isInjectedVoteExtensionTx tx = true →
    ∃ injected, parseInjectedConsensusTx tx = .ok injected
  distinct : ((injectedTxs txs).map InjectedVoteExtensionTx.jobID).Nodup

/-- The transaction carries the result's output and evidence. -/
structure Carries (inj : InjectedVoteExtensionTx) (res : AggregatedResult) : Prop where
  outputHash : inj.outputHash = res.outputHash
  totalPower : inj.totalPower.val = res.totalPower
  agreementPower : inj.agreementPower.val = res.agreementPower
  validatorCount : inj.validatorCount = I64.ofInt res.agreementCount
  totalVotes : inj.totalVotes = I64.ofInt res.totalVotes

section

variable {txs : List RawTx} {tx : RawTx} {consensusThreshold : Int}

theorem injectedTxs_cons_other (other : isInjectedVoteExtensionTx tx = false) :
    injectedTxs (tx :: txs) = injectedTxs txs := by
  simp [injectedTxs, other]

theorem injectedTxs_cons_ok {injected : InjectedVoteExtensionTx}
    (named : isInjectedVoteExtensionTx tx = true)
    (parsed : parseInjectedConsensusTx tx = .ok injected) :
    injectedTxs (tx :: txs) = injected :: injectedTxs txs := by
  simp [injectedTxs, named, parsed, Except.toOption]

/-- What the loop over the injected transactions accepts, and what it collects. -/
theorem foldlM_collectInjected {start result : Map String InjectedVoteExtensionTx} :
    txs.foldlM collectInjected start = .ok result ↔
      (∀ tx ∈ txs, isInjectedVoteExtensionTx tx = true →
        ∃ injected, parseInjectedConsensusTx tx = .ok injected) ∧
      ((injectedTxs txs).map InjectedVoteExtensionTx.jobID).Nodup ∧
      (∀ inj ∈ injectedTxs txs, start.lookup inj.jobID = none) ∧
      result = (injectedTxs txs).foldl (fun m inj => m.insert inj.jobID inj) start := by
  induction txs generalizing start with
  | nil =>
    rw [foldlM_nil, pure_eq_ok, eq_comm]
    simp [injectedTxs]
  | cons tx rest ih =>
    rw [foldlM_cons, bind_eq_ok]
    simp only [ih, collectInjected, forall_mem_cons]
    cases named : isInjectedVoteExtensionTx tx with
    | false =>
      simp [injectedTxs_cons_other named]
    | true =>
      cases parsed : parseInjectedConsensusTx tx with
      | error reason => simp
      | ok injected =>
        simp only [injectedTxs_cons_ok named parsed, Bool.not_true, Bool.false_eq_true,
          ↓reduceIte, ite_error_eq_ok, ok.injEq, map_cons,
          nodup_cons, forall_mem_cons, foldl_cons, exists_eq',
          forall_const, true_and]
        constructor
        · rintro ⟨next, ⟨fresh, rfl⟩, parsedRest, distinct, absent, rfl⟩
          refine ⟨parsedRest, ⟨?_, distinct⟩, ⟨by simpa using fresh, ?_⟩, rfl⟩
          · intro again
            obtain ⟨inj, member, same⟩ := mem_map.mp again
            have missing := absent inj member
            rw [same, AList.lookup_insert] at missing
            cases missing
          · intro inj member
            have missing := absent inj member
            rw [Map.lookup_insert_eq] at missing
            split at missing
            · cases missing
            · exact missing
        · rintro ⟨parsedRest, ⟨fresh, distinct⟩, ⟨absentFirst, absent⟩, rfl⟩
          refine ⟨_, ⟨by simp [absentFirst], rfl⟩, parsedRest, distinct, ?_, rfl⟩
          intro inj member
          rw [Map.lookup_insert_eq, if_neg]
          · exact absent inj member
          · intro same
            exact fresh (mem_map.mpr ⟨inj, member, same⟩)

/-- The loop stops at the first result without the power it needs. -/
theorem foldlM_collectConsensusJob {entries : List (String × AggregatedResult)}
    {start result : Map String AggregatedResult} :
    entries.foldlM (collectConsensusJob consensusThreshold) start = .ok result ↔
      (∀ entry ∈ entries, entry.2.hasConsensus = true →
        ¬LacksPower entry.2.totalPower entry.2.agreementPower consensusThreshold) ∧
      result = (entries.filter fun entry => entry.2.hasConsensus).foldl
        (fun m entry => m.insert entry.2.jobID entry.2) start := by
  induction entries generalizing start with
  | nil =>
    rw [foldlM_nil, pure_eq_ok, eq_comm]
    simp
  | cons entry rest ih =>
    rw [foldlM_cons, bind_eq_ok]
    simp only [ih, collectConsensusJob, forall_mem_cons]
    cases agreed : entry.2.hasConsensus with
    | false => simp [agreed]
    | true =>
      simp only [Bool.not_true, Bool.false_eq_true, ↓reduceIte, ite_error_eq_ok,
        ok.injEq, forall_const, filter_cons, agreed, foldl_cons]
      constructor
      · rintro ⟨next, ⟨enough, rfl⟩, others, rfl⟩
        exact ⟨⟨enough, others⟩, rfl⟩
      · rintro ⟨⟨enough, others⟩, rfl⟩
        exact ⟨_, ⟨enough, rfl⟩, others, rfl⟩

variable {jobID : String}

theorem checkConsensusJob_ok {injected : Map String InjectedVoteExtensionTx}
    {res : AggregatedResult}
    (enough : ¬LacksPower res.totalPower res.agreementPower consensusThreshold) :
    checkConsensusJob consensusThreshold injected (jobID, res) = .ok () ↔
      ∃ inj, injected.lookup jobID = some inj ∧ Carries inj res := by
  simp only [checkConsensusJob]
  cases injected.lookup jobID with
  | none => simp
  | some inj =>
    simp only [ite_error_eq_ok, not_or, not_not, and_true, Option.some.injEq,
      exists_eq_left']
    constructor
    · rintro ⟨output, -, ⟨total, power⟩, count, votes⟩
      exact ⟨output, total, power, count, votes⟩
    · rintro ⟨output, total, power, count, votes⟩
      exact ⟨output, by rwa [total, power], ⟨total, power⟩, count, votes⟩

theorem checkInjected_ok {consensusJobs : Map String AggregatedResult}
    {inj : InjectedVoteExtensionTx} :
    checkInjected consensusJobs (jobID, inj) = .ok () ↔
      ∃ res, consensusJobs.lookup jobID = some res ∧ res.hasConsensus = true ∧
        inj.outputHash = res.outputHash := by
  simp only [checkInjected]
  cases consensusJobs.lookup jobID with
  | none => simp
  | some res => simp [ite_error_eq_ok]

/-- The results stand under their own job's name. -/
def Keyed (results : Map String AggregatedResult) : Prop :=
  ∀ key res, results.lookup key = some res → res.jobID = key

section

variable {results : Map String AggregatedResult} (keyed : Keyed results)
include keyed

/-- The map of decided jobs, whatever the order of the results. -/
theorem Keyed.lookup_consensusJobs
    (order : RangeOrder String) {res : AggregatedResult} :
    (((results.entries order).filter fun entry => entry.2.hasConsensus).foldl
        (fun m entry => m.insert entry.2.jobID entry.2)
        (∅ : Map String AggregatedResult)).lookup jobID = some res ↔
      results.lookup jobID = some res ∧ res.hasConsensus = true := by
  have names : ((results.entries order).filter fun entry => entry.2.hasConsensus).map
      (fun entry => entry.2.jobID) =
        ((results.entries order).filter fun entry => entry.2.hasConsensus).map Prod.fst := by
    apply map_congr_left
    intro entry member
    exact keyed _ _ (Map.mem_entries.mp (mem_of_mem_filter member))
  have distinct : (((results.entries order).filter fun entry => entry.2.hasConsensus).map
      fun entry => entry.2.jobID).Nodup := by
    rw [names]
    exact (Map.nodup_fst_entries results order).sublist (filter_sublist.map _)
  rw [Map.lookup_foldl_insert distinct]
  simp only [mem_filter, AList.lookup_empty, reduceCtorEq, and_false, or_false]
  constructor
  · rintro ⟨entry, ⟨member, agreed⟩, named, rfl⟩
    have found := Map.mem_entries.mp member
    rw [← keyed _ _ found, named] at found
    exact ⟨found, agreed⟩
  · rintro ⟨found, agreed⟩
    exact ⟨(jobID, res), ⟨Map.mem_entries.mpr found, agreed⟩, keyed _ _ found, rfl⟩

/-- Finality holds exactly if seals and decided results match one to one. -/
theorem validateComputationFinality_ok (orders : FinalityOrders) :
    validateComputationFinality results txs consensusThreshold orders = .ok () ↔
      WellInjected txs ∧
      (∀ jobID res, results.lookup jobID = some res → res.hasConsensus = true →
        ¬LacksPower res.totalPower res.agreementPower consensusThreshold ∧
          ∃ inj ∈ injectedTxs txs, inj.jobID = jobID ∧ Carries inj res) ∧
      ∀ inj ∈ injectedTxs txs, ∃ res, results.lookup inj.jobID = some res ∧
        res.hasConsensus = true ∧ inj.outputHash = res.outputHash := by
  have injectedLookup : ((injectedTxs txs).map InjectedVoteExtensionTx.jobID).Nodup →
      ∀ jobID inj, ((injectedTxs txs).foldl (fun m inj => m.insert inj.jobID inj)
        (∅ : Map String InjectedVoteExtensionTx)).lookup jobID = some inj ↔
          inj ∈ injectedTxs txs ∧ inj.jobID = jobID := by
    intro distinct jobID inj
    rw [Map.lookup_foldl_insert distinct]
    simp only [AList.lookup_empty, reduceCtorEq, and_false, or_false]
    constructor
    · rintro ⟨other, member, named, rfl⟩
      exact ⟨member, named⟩
    · rintro ⟨member, named⟩
      exact ⟨inj, member, named, rfl⟩
  unfold validateComputationFinality
  simp only [bind_eq_ok, foldlM_collectConsensusJob, foldlM_collectInjected,
    forM_eq_ok]
  constructor
  · rintro ⟨jobs, ⟨enough, rfl⟩, injected, ⟨parsed, distinct, -, rfl⟩, done, checked, justified⟩
    have covered := forM_eq_ok.mp checked
    refine ⟨⟨parsed, distinct⟩, ?_, ?_⟩
    · intro jobID res found agreed
      have power := enough (jobID, res) (Map.mem_entries.mpr found) agreed
      refine ⟨power, ?_⟩
      have job := (keyed.lookup_consensusJobs orders.results).mpr ⟨found, agreed⟩
      obtain ⟨inj, present, carries⟩ := (checkConsensusJob_ok power).mp
        (covered (jobID, res) (Map.mem_entries.mpr job))
      obtain ⟨member, named⟩ := (injectedLookup distinct jobID inj).mp present
      exact ⟨inj, member, named, carries⟩
    · intro inj member
      have present := (injectedLookup distinct inj.jobID inj).mpr ⟨member, rfl⟩
      obtain ⟨res, job, agreed, output⟩ := checkInjected_ok.mp
        (justified (inj.jobID, inj) (Map.mem_entries.mpr present))
      exact ⟨res, ((keyed.lookup_consensusJobs orders.results).mp job).1, agreed, output⟩
  · rintro ⟨⟨parsed, distinct⟩, covered, justified⟩
    refine ⟨_, ⟨?_, rfl⟩, _, ⟨parsed, distinct, fun inj _ => AList.lookup_empty _, rfl⟩, (),
      forM_eq_ok.mpr ?_, ?_⟩
    · intro entry member agreed
      exact (covered _ _ (Map.mem_entries.mp member) agreed).1
    · rintro ⟨jobID, res⟩ member
      obtain ⟨found, agreed⟩ :=
        (keyed.lookup_consensusJobs orders.results).mp (Map.mem_entries.mp member)
      obtain ⟨power, inj, present, named, carries⟩ := covered jobID res found agreed
      exact (checkConsensusJob_ok power).mpr
        ⟨inj, (injectedLookup distinct jobID inj).mpr ⟨present, named⟩, carries⟩
    · rintro ⟨jobID, inj⟩ member
      obtain ⟨present, named⟩ := (injectedLookup distinct jobID inj).mp (Map.mem_entries.mp member)
      obtain ⟨res, found, agreed, output⟩ := justified inj present
      rw [named] at found
      exact checkInjected_ok.mpr
        ⟨res, (keyed.lookup_consensusJobs orders.results).mpr ⟨found, agreed⟩, agreed, output⟩

end

end

end Aethelred.App
