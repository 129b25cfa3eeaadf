import Aethelred.App.HonestProposal

/- Whether the verdict on a proposal depends on what a node has cached. -/
namespace Aethelred.App

open Go Aethelred.Pouw List Option ConsensusHandler VoteExtensionCache

/-- What the cache holds for the height, the other holds as well. -/
def VoteExtensionCache.Within (c other : VoteExtensionCache) (height : Int) : Prop :=
  ∀ address, ∀ extension ∈ c.cached height address, other.cached height address = some extension

theorem VoteExtensionCache.cached_new (maxHeights : Int) (chainID : String) (height : Int)
    (address : Bytes) : (new maxHeights chainID).cached height address = none := by
  unfold cached
  split <;> rfl

theorem VoteExtensionCache.within_new (maxHeights : Int) (chainID : String)
    (other : VoteExtensionCache) (height : Int) :
    (new maxHeights chainID).Within other height := by
  intro address extension held
  rw [cached_new] at held
  cases held

theorem WellInjected.unique {txs : List RawTx} (well : WellInjected txs)
    {inj other : InjectedVoteExtensionTx} (member : inj ∈ injectedTxs txs)
    (present : other ∈ injectedTxs txs) (same : inj.jobID = other.jobID) : inj = other :=
  inj_on_of_nodup_map well.distinct member present same

namespace AethelredApp

/-- Any two nodes that cached some of the verified extensions give the same verdict. -/
def CacheIndependent (app : AethelredApp) (ctx : ConsensusContext) (req : RequestProcessProposal)
    (verified : VoteExtensionCache) : Prop :=
  ∀ first second : VoteExtensionCache, first.Within verified (req.height - 1) →
    second.Within verified (req.height - 1) → ∀ orders otherOrders,
      app.processProposal ctx first req orders = app.processProposal ctx second req otherOrders

/-- The transaction carries the evidence the votes give for an output. -/
structure Evidences (app : AethelredApp) (totals : VoteTotals) (votes : List ExtendedVoteInfo)
    (jobID : String) (outputHash : Bytes) (inj : InjectedVoteExtensionTx) : Prop where
  job : inj.jobID = jobID
  output : inj.outputHash = outputHash
  totalPower : inj.totalPower.val = totals.totalPower
  agreementPower : inj.agreementPower.val =
    app.consensusHandler.talliedPower totals votes jobID outputHash
  validatorCount : inj.validatorCount = len (app.consensusHandler.listed votes jobID outputHash)
  totalVotes : inj.totalVotes = len votes

/-- The votes a node has bear the block out: their extensions carry the app's share of the power
if anything is injected, and what is injected is what they bring to the keeper's share. -/
structure Corroborates (app : AethelredApp) (txs : List RawTx) (votes : List ExtendedVoteInfo) :
    Prop where
  evidence : 0 < txs.countP isInjectedVoteExtensionTx →
    ¬LacksPower (voteExtensionEvidencePower votes).2 (voteExtensionEvidencePower votes).1
      app.getConsensusThreshold
  decided : ∀ totals, app.consensusHandler.voteTotals votes = some totals → ∀ jobID outputHash,
    app.consensusHandler.Reached totals votes jobID outputHash →
      ¬LacksPower totals.totalPower
          (app.consensusHandler.talliedPower totals votes jobID outputHash)
          app.getConsensusThreshold ∧
        ∃ inj ∈ injectedTxs txs, app.Evidences totals votes jobID outputHash inj
  injected : ∀ inj ∈ injectedTxs txs, ∃ totals,
    app.consensusHandler.voteTotals votes = some totals ∧
      app.consensusHandler.Reached totals votes inj.jobID inj.outputHash

/-- The base checks fail, or the build simulates, or every choice of verified extensions with at
least one of the commit's validators bears the block out. -/
def Steady (app : AethelredApp) (req : RequestProcessProposal) (verified : VoteExtensionCache) :
    Prop :=
  app.BaseChecks req → app.consensusHandler.productionVerificationMode = true →
    ∀ held : VoteExtensionCache, held.Within verified (req.height - 1) →
      (∃ validator ∈ req.proposedLastCommit,
        (held.cached (req.height - 1) validator.address).isSome) →
      app.Corroborates req.txs (req.proposedLastCommit.map (held.rebuilt (req.height - 1)))

section

variable {app : AethelredApp} {ctx : ConsensusContext} {req : RequestProcessProposal}
  {txs : List RawTx} {votes : List ExtendedVoteInfo} {totals : VoteTotals}

theorem Evidences.carries {jobID : String} {first : Listing} {outputHash : Bytes}
    {inj : InjectedVoteExtensionTx} (counted : app.consensusHandler.voteTotals votes = some totals) :
    (inj.jobID = jobID ∧ Carries inj (app.consensusHandler.decidedResult totals votes jobID
      (initialResult totals first.verification) outputHash)) ↔
      app.Evidences totals votes jobID outputHash inj := by
  have count : I64.ofInt totals.totalVotes = len votes := by
    rw [totalVotes_eq counted]
    rfl
  constructor
  · rintro ⟨named, output, total, power, validators, votes⟩
    exact ⟨named, output, total, power, validators, votes.trans count⟩
  · rintro ⟨named, output, total, power, validators, votes⟩
    exact ⟨named, output, total, power, validators, votes.trans count.symm⟩

/-- A node's finality check passes under every order exactly for corroborated seals. -/
theorem finality_iff (app : AethelredApp) (ctx : ConsensusContext) (verified : Verified votes)
    (well : WellInjected txs) :
    (∀ orders : ProposalOrders, ∃ outcome,
      app.consensusHandler.aggregateVoteExtensions ctx votes orders.aggregation = some outcome ∧
      validateComputationFinality outcome.results txs app.getConsensusThreshold orders.finality =
        .ok ()) ↔
      (∀ totals, app.consensusHandler.voteTotals votes = some totals → ∀ jobID outputHash,
        app.consensusHandler.Reached totals votes jobID outputHash →
          ¬LacksPower totals.totalPower
              (app.consensusHandler.talliedPower totals votes jobID outputHash)
              app.getConsensusThreshold ∧
            ∃ inj ∈ injectedTxs txs, app.Evidences totals votes jobID outputHash inj) ∧
      ∀ inj ∈ injectedTxs txs, ∃ totals, app.consensusHandler.voteTotals votes = some totals ∧
        app.consensusHandler.Reached totals votes inj.jobID inj.outputHash := by
  constructor
  · intro final
    constructor
    · intro totals counted jobID outputHash reached
      obtain ⟨outcome, returned, checked⟩ := final
        ⟨(SealOrders.startingWith outputHash).aggregation, ⟨.asGiven, .asGiven, .asGiven⟩⟩
      obtain ⟨first, isFirst⟩ := exists_first_of_reached reached
      have found := (decide_some (aggregate_some counted returned).1 jobID).1
      rw [isFirst, SealOrders.picked reached, map_some] at found
      obtain ⟨-, covered, -⟩ := (validateComputationFinality_ok (keyed_results returned) _).mp checked
      obtain ⟨enough, inj, member, named, carries⟩ := covered jobID _ found rfl
      exact ⟨enough, inj, member, (Evidences.carries counted).mp ⟨named, carries⟩⟩
    · intro inj member
      obtain ⟨outcome, returned, checked⟩ := final ⟨.asGiven, ⟨.asGiven, .asGiven, .asGiven⟩⟩
      obtain ⟨-, -, justified⟩ :=
        (validateComputationFinality_ok (keyed_results returned) _).mp checked
      obtain ⟨res, found, agreed, output⟩ := justified inj member
      cases counted : app.consensusHandler.voteTotals votes with
      | none =>
        rw [aggregate_none counted returned] at found
        cases found
      | some totals =>
        obtain ⟨first, outputHash, -, reached, -, rfl⟩ :=
          decided_of_lookup counted returned found agreed
        refine ⟨totals, rfl, ?_⟩
        rw [output]
        exact reached
  · rintro ⟨decided, justified⟩ orders
    obtain ⟨outcome, returned⟩ := aggregate_total app.consensusHandler verified.longOutputs ctx
      orders.aggregation
    refine ⟨outcome, returned, (validateComputationFinality_ok (keyed_results returned) _).mpr
      ⟨well, ?_, ?_⟩⟩
    · intro jobID res found agreed
      cases counted : app.consensusHandler.voteTotals votes with
      | none =>
        rw [aggregate_none counted returned] at found
        cases found
      | some totals =>
        obtain ⟨first, outputHash, -, reached, -, rfl⟩ :=
          decided_of_lookup counted returned found agreed
        obtain ⟨enough, inj, member, evidences⟩ := decided totals counted jobID outputHash reached
        obtain ⟨named, carries⟩ := (Evidences.carries counted).mpr evidences
        exact ⟨enough, inj, member, named, carries⟩
    · intro inj member
      obtain ⟨totals, counted, reached⟩ := justified inj member
      obtain ⟨first, isFirst⟩ := exists_first_of_reached reached
      have found := (decide_some (aggregate_some counted returned).1 inj.jobID).1
      rw [isFirst, map_some] at found
      cases chosen : app.consensusHandler.picked totals votes orders.aggregation.decision
        inj.jobID with
      | none =>
        exact absurd reached (not_reached_of_picked_none chosen inj.outputHash)
      | some outputHash =>
        rw [chosen] at found
        -- The output picked has a transaction of its own, and there is one for each job.
        obtain ⟨-, other, present, evidences⟩ := decided totals counted inj.jobID outputHash
          (reached_of_picked chosen)
        obtain rfl := well.unique member present evidences.job.symm
        exact ⟨_, found, rfl, evidences.output⟩

theorem BaseChecks.wellInjected (base : app.BaseChecks req) : WellInjected req.txs := by
  obtain ⟨backed, distinct⟩ := audit_passed.mp base.audited
  refine ⟨fun tx member named => ?_, distinct⟩
  obtain ⟨injected, parsed, -⟩ := validateEvidence_ok.mp (backed tx member named)
  exact ⟨injected, parsed⟩

theorem verified_rebuilt {held whole : VoteExtensionCache} {height : Int} {commit : CommitInfo}
    (within : held.Within whole height) (verified : Verified (commit.map (whole.rebuilt height))) :
    Verified (commit.map (held.rebuilt height)) := by
  intro vote member ext parsed
  obtain ⟨validator, present, rfl⟩ := mem_map.mp member
  cases found : held.cached height validator.address with
  | none =>
    simp only [rebuilt, found, getD_none] at parsed
    cases parsed
  | some extension =>
    have same : whole.rebuilt height validator = held.rebuilt height validator := by
      simp only [rebuilt, found, within _ _ found]
    exact verified _ (mem_map_of_mem present) ext (same ▸ parsed)

theorem accepts_iff (ctx : ConsensusContext) {held : VoteExtensionCache} (base : app.BaseChecks req)
    (production : app.consensusHandler.productionVerificationMode = true)
    (verified : Verified (req.proposedLastCommit.map (held.rebuilt (req.height - 1)))) :
    (∀ orders, app.processProposal ctx held req orders = .accept) ↔
      ((∃ validator ∈ req.proposedLastCommit,
        (held.cached (req.height - 1) validator.address).isSome) →
      app.Corroborates req.txs (req.proposedLastCommit.map (held.rebuilt (req.height - 1)))) := by
  simp only [processProposal_accept, base, production, true_and, forall_const,
    checkCachedExtensions_accept, buildExtendedVotes_eq, countP_pos_iff]
  have final := finality_iff app ctx verified base.wellInjected
  constructor
  · intro accepted found
    obtain ⟨evidence, -⟩ := accepted ⟨.asGiven, ⟨.asGiven, .asGiven, .asGiven⟩⟩ found
    obtain ⟨decided, injected⟩ := final.mp fun orders => (accepted orders found).2
    exact ⟨fun some => evidence (countP_pos_iff.mp some), decided, injected⟩
  · intro corroborates orders found
    obtain ⟨evidence, decided, injected⟩ := corroborates found
    exact ⟨fun some => evidence (countP_pos_iff.mpr some),
      final.mpr ⟨decided, injected⟩ orders⟩

theorem accepts_uncached (base : app.BaseChecks req) (orders : ProposalOrders) :
    app.processProposal ctx (.new 4 "") req orders = .accept := by
  refine processProposal_accept.mpr ⟨base, fun _ => checkCachedExtensions_accept.mpr ?_⟩
  rw [buildExtendedVotes_eq, countP_pos_iff]
  rintro ⟨validator, -, held⟩
  rw [cached_new] at held
  cases held

end

/-- The verdict is independent of the cache exactly when every choice of the verified extensions
bears out the proposals that pass the other checks. -/
theorem cacheIndependent_iff (app : AethelredApp) (ctx : ConsensusContext)
    (req : RequestProcessProposal) (verified : VoteExtensionCache)
    (checked : Verified (req.proposedLastCommit.map (verified.rebuilt (req.height - 1)))) :
    app.CacheIndependent ctx req verified ↔ app.Steady req verified := by
  constructor
  · intro independent base production held within
    refine (accepts_iff ctx base production (verified_rebuilt within checked)).mp ?_
    intro orders
    rw [independent held (.new 4 "") within (within_new 4 "" verified _) orders orders]
    exact accepts_uncached base orders
  · intro steady first second withinFirst withinSecond orders otherOrders
    have verdict : ∀ held : VoteExtensionCache, held.Within verified (req.height - 1) →
        ∀ orders, app.processProposal ctx held req orders = .accept ↔ app.BaseChecks req := by
      intro held within orders
      refine ⟨fun accepted => (processProposal_accept.mp accepted).1, fun base => ?_⟩
      by_cases production : app.consensusHandler.productionVerificationMode = true
      · exact (accepts_iff ctx base production (verified_rebuilt within checked)).mpr
          (steady base production held within) orders
      · exact processProposal_accept.mpr ⟨base, fun mode => absurd mode production⟩
    have same := (verdict first withinFirst orders).trans (verdict second withinSecond otherOrders).symm
    cases one : app.processProposal ctx first req orders <;>
      cases other : app.processProposal ctx second req otherOrders <;> simp_all

namespace Sample

open Pouw.Sample

def asGiven : ProposalOrders := ⟨.asGiven, ⟨.asGiven, .asGiven, .asGiven⟩⟩

def emptyBlock (votes : List ExtendedVoteInfo) : RequestProcessProposal :=
  ⟨2, [], votes.map ExtendedVoteInfo.validator⟩

end Sample

open Sample Pouw.Sample in
/-- The proposer leaves out a decided job: a node that restarted accepts the block, and a node
with both extensions rejects it. -/
theorem cacheIndependent_fails :
    oneJobApp.processProposal blockZero (.new 4 "aethelred-1") (emptyBlock unanimous) asGiven =
        .accept ∧
      oneJobApp.processProposal blockZero (cacheOf unanimous) (emptyBlock unanimous) asGiven =
        .reject ∧
      ¬oneJobApp.CacheIndependent blockZero (emptyBlock unanimous) (cacheOf unanimous) := by
  have restarted : oneJobApp.processProposal blockZero (.new 4 "aethelred-1")
      (emptyBlock unanimous) asGiven = .accept := by decide +kernel
  have informed : oneJobApp.processProposal blockZero (cacheOf unanimous)
      (emptyBlock unanimous) asGiven = .reject := by decide +kernel
  refine ⟨restarted, informed, fun independent => ?_⟩
  have same := independent (.new 4 "aethelred-1") (cacheOf unanimous)
    (within_new 4 "aethelred-1" _ _) (fun _ _ held => held) asGiven asGiven
  rw [restarted, informed] at same
  cases same

namespace Sample

open Pouw.Sample

/-- A verification by 60 of 100. -/
def minority : List ExtendedVoteInfo :=
  [vote [1] 60 [success "job" (digest 1) (digest 2) (digest 3)], vote [2] 40 []]

theorem holds_minority : (cacheOf minority).Holds 1 minority := by
  intro vote member
  simp only [minority, mem_cons, not_mem_nil, or_false] at member
  rcases member with rfl | rfl <;> rfl

section

variable {held : VoteExtensionCache} (within : held.Within (cacheOf minority) 1)
include within

theorem rebuilt_minority {known : ExtendedVoteInfo} (member : known ∈ minority) :
    held.rebuilt 1 known.validator = ⟨known.validator, .empty⟩ ∨
      held.rebuilt 1 known.validator = known := by
  have whole := holds_minority known member
  cases found : held.cached 1 known.validator.address with
  | none => exact .inl (by simp only [rebuilt, found, getD_none])
  | some extension =>
    rw [within _ _ found, getD_some] at whole
    exact .inr (by simp only [rebuilt, found, getD_some, whole])

theorem listings_minority {l : Listing} (listed : l ∈ oneJobApp.consensusHandler.listings
      ((minority.map ExtendedVoteInfo.validator).map (held.rebuilt 1))) :
    l.vote = vote [1] 60 [success "job" (digest 1) (digest 2) (digest 3)] ∧
      l.verification = success "job" (digest 1) (digest 2) (digest 3) := by
  obtain ⟨voted, accepted, reported, -⟩ := mem_listings.mp listed
  have parsed := (acceptedExtension_eq_some.mp accepted).parsed
  obtain ⟨validator, present, same⟩ := mem_map.mp voted
  obtain ⟨known, member, rfl⟩ := mem_map.mp present
  have own : l.vote = known := by
    rw [← same] at parsed ⊢
    rcases rebuilt_minority within member with nothing | whole
    · rw [nothing] at parsed
      cases parsed
    · exact whole
  rw [own] at parsed ⊢
  simp only [minority, mem_cons, not_mem_nil, or_false] at member
  rcases member with rfl | rfl
  · rw [← some.inj parsed] at reported
    exact ⟨rfl, mem_singleton.mp reported⟩
  · rw [← some.inj parsed] at reported
    cases reported

end

/-- An empty block is steady where no output reaches the quorum. -/
theorem steady_minority : oneJobApp.Steady (emptyBlock minority) (cacheOf minority) := by
  intro base production held within found
  refine ⟨fun some => absurd some (by decide), ?_, fun inj member => by cases member⟩
  intro totals counted jobID outputHash reached
  obtain ⟨l, member⟩ := exists_mem_of_ne_nil _ reached.1
  obtain ⟨listed, named, output⟩ := mem_listed.mp member
  obtain ⟨-, verification⟩ := listings_minority within listed
  rw [Listing.jobID, verification] at named
  rw [Listing.outputHash, verification] at output
  subst named output
  have rebuilt : (emptyBlock minority).proposedLastCommit.map (held.rebuilt 1) =
      [held.rebuilt 1 ⟨[1], 60⟩, held.rebuilt 1 ⟨[2], 40⟩] := rfl
  change oneJobApp.consensusHandler.Reached totals
    ((emptyBlock minority).proposedLastCommit.map (held.rebuilt 1)) _ _ at reached
  change oneJobApp.consensusHandler.voteTotals
    ((emptyBlock minority).proposedLastCommit.map (held.rebuilt 1)) = _ at counted
  rw [rebuilt] at reached counted
  have total : totals = ⟨2, 100, false⟩ := (some.inj counted).symm
  subst total
  refine absurd reached.2 ?_
  have one : vote [1] 60 [success "job" (digest 1) (digest 2) (digest 3)] ∈ minority := by
    simp [minority]
  have two : vote [2] 40 [] ∈ minority := by simp [minority]
  rcases rebuilt_minority within one with first | first <;>
    rcases rebuilt_minority within two with second | second <;>
    change held.rebuilt 1 ⟨[1], 60⟩ = _ at first <;>
    change held.rebuilt 1 ⟨[2], 40⟩ = _ at second <;>
    rw [first, second] <;> decide +kernel

end Sample

open Sample Pouw.Sample in
/-- Nothing is decided and nothing injected: every node accepts. -/
theorem cacheIndependent_minority :
    oneJobApp.CacheIndependent blockZero (emptyBlock minority) (cacheOf minority) :=
  (cacheIndependent_iff _ _ _ _ (by unfold Verified; decide)).mpr steady_minority

end AethelredApp

end Aethelred.App
