import Aethelred.Pouw.Outcome
import Aethelred.Pouw.Seal
import Aethelred.Lib.Reorder

/- The seal transactions as a function of the votes, and what the votes' order changes. -/
namespace Aethelred.Pouw

open Go List

/-- What every node checks of an extension before it enters a commit. -/
def Verified (votes : List ExtendedVoteInfo) : Prop :=
  ∀ vote ∈ votes, ∀ ext ∈ vote.voteExtension.parse, ∀ v ∈ ext.verifications,
    v.jobID ≠ "" ∧ (v.success = true → v.outputHash.length = 32)

theorem Verified.longOutputs {votes : List ExtendedVoteInfo} (verified : Verified votes) :
    LongOutputs votes := by
  intro vote member ext parsed v listed success
  have exact32 := (verified vote member ext parsed v listed).2 success
  omega

theorem Verified.perm {votes reordered : List ExtendedVoteInfo} (verified : Verified votes)
    (perm : votes.Perm reordered) : Verified reordered :=
  fun vote member => verified vote (perm.mem_iff.mpr member)

structure SealOrders where
  aggregation : AggregationOrders
  seals : RangeOrder String

def ConsensusHandler.proposedSeals (ch : ConsensusHandler) (ctx : ConsensusContext)
    (votes : List ExtendedVoteInfo) (orders : SealOrders) : Option (List Json) :=
  (ch.aggregateVoteExtensions ctx votes orders.aggregation).map fun outcome =>
    createSealTransactions ctx outcome.results orders.seals

def ConsensusHandler.sealOf (ch : ConsensusHandler) (ctx : ConsensusContext) (totals : VoteTotals)
    (votes : List ExtendedVoteInfo) (jobID : String) (first : Listing) (outputHash : Bytes) :
    SealCreationTx :=
  sealTransaction ctx
    (ch.decidedResult totals votes jobID (initialResult totals first.verification) outputHash)

section

variable {ch : ConsensusHandler} {ctx : ConsensusContext} {totals : VoteTotals}
  {votes : List ExtendedVoteInfo} {orders : SealOrders} {txs : List Json}

section

variable (counted : ch.voteTotals votes = some totals)
  (proposed : ch.proposedSeals ctx votes orders = some txs)
include counted proposed

/-- Which transactions a proposer writes. -/
theorem mem_proposedSeals (doc : Json) :
    doc ∈ txs ↔ ∃ jobID first outputHash,
      ((ch.listings votes).find? fun l => l.jobID = jobID) = some first ∧
      ch.picked totals votes orders.aggregation.decision jobID = some outputHash ∧
      doc = (ch.sealOf ctx totals votes jobID first outputHash).encode := by
  simp only [ConsensusHandler.proposedSeals, Option.map_eq_some_iff] at proposed
  obtain ⟨outcome, returned, rfl⟩ := proposed
  obtain ⟨decided, -⟩ := aggregate_some counted returned
  simp only [ConsensusHandler.createSealTransactions, mem_filterMap, RangeOrder.mem_order,
    Map.mem_keys_iff]
  constructor
  · rintro ⟨jobID, ⟨result, found⟩, written⟩
    simp only [found] at written
    split at written
    · rename_i agreed
      obtain ⟨first, outputHash, isFirst, -, chosen, rfl⟩ :=
        decided_of_lookup counted returned found agreed
      exact ⟨jobID, first, outputHash, isFirst, chosen, (Option.some.inj written).symm⟩
    · cases written
  · rintro ⟨jobID, first, outputHash, isFirst, chosen, rfl⟩
    have found := (ConsensusHandler.decide_some decided jobID).1
    rw [isFirst, chosen, Option.map_some] at found
    refine ⟨jobID, ⟨_, found⟩, ?_⟩
    simp only [found]
    rfl

/-- They are seals of different jobs. -/
theorem exists_proposedItems :
    ∃ items : List SealCreationTx, txs = items.map SealCreationTx.encode ∧
      (items.map SealCreationTx.jobID).Nodup ∧
      ∀ tx, tx ∈ items ↔ ∃ jobID first outputHash,
        ((ch.listings votes).find? fun l => l.jobID = jobID) = some first ∧
        ch.picked totals votes orders.aggregation.decision jobID = some outputHash ∧
        tx = ch.sealOf ctx totals votes jobID first outputHash := by
  have members := mem_proposedSeals counted proposed
  simp only [ConsensusHandler.proposedSeals, Option.map_eq_some_iff] at proposed
  obtain ⟨outcome, returned, rfl⟩ := proposed
  let written (jobID : String) : Option SealCreationTx :=
    (outcome.results.lookup jobID).bind fun result =>
      if result.hasConsensus then some (ConsensusHandler.sealTransaction ctx result) else none
  have names : ∀ jobID tx, written jobID = some tx → tx.jobID = jobID := by
    intro jobID tx found
    obtain ⟨result, looked, wrote⟩ := Option.bind_eq_some_iff.mp found
    split at wrote
    · rename_i agreed
      obtain ⟨first, outputHash, isFirst, -, -, rfl⟩ :=
        decided_of_lookup counted returned looked agreed
      rw [← Option.some.inj wrote]
      exact jobID_of_first isFirst
    · cases wrote
  have encoded : ConsensusHandler.createSealTransactions ctx outcome.results orders.seals =
      ((orders.seals.order outcome.results.keys).filterMap written).map SealCreationTx.encode := by
    rw [map_filterMap]
    apply filterMap_congr
    intro jobID _
    cases looked : outcome.results.lookup jobID with
    | none => simp [written, looked]
    | some result => cases agreed : result.hasConsensus <;> simp [written, looked, agreed]
  refine ⟨_, encoded, ?_, fun tx => ?_⟩
  · have jobs : ((orders.seals.order outcome.results.keys).filterMap written).map
        SealCreationTx.jobID =
          (orders.seals.order outcome.results.keys).filter fun jobID => (written jobID).isSome := by
      induction orders.seals.order outcome.results.keys with
      | nil => rfl
      | cons jobID rest ih =>
        cases found : written jobID with
        | none => simp [found, ih]
        | some tx => simp [found, ih, names jobID tx found]
    rw [jobs]
    exact (orders.seals.nodup_order.mpr outcome.results.keys_nodup).filter _
  · rw [← mem_map_of_injective SealCreationTx.encode_injective, ← encoded, members]
    simp only [SealCreationTx.encode_injective.eq_iff]

end

theorem proposedSeals_total (ch : ConsensusHandler) (verified : Verified votes)
    (ctx : ConsensusContext) (orders : SealOrders) :
    ∃ txs, ch.proposedSeals ctx votes orders = some txs := by
  obtain ⟨outcome, returned⟩ := aggregate_total ch verified.longOutputs ctx orders.aggregation
  exact ⟨_, by rw [ConsensusHandler.proposedSeals, returned, Option.map_some]⟩

theorem proposedSeals_uncounted (uncounted : ch.voteTotals votes = none)
    (proposed : ch.proposedSeals ctx votes orders = some txs) : txs = [] := by
  simp only [ConsensusHandler.proposedSeals, Option.map_eq_some_iff] at proposed
  obtain ⟨outcome, returned, rfl⟩ := proposed
  rw [aggregate_none uncounted returned]
  have empty : orders.seals.order (AList.keys (∅ : Map String AggregatedResult)) = [] :=
    (RangeOrder.order_eq_nil _).mpr rfl
  unfold ConsensusHandler.createSealTransactions
  rw [empty]
  rfl

theorem sealOf_jobID {jobID : String} {first : Listing} {outputHash : Bytes}
    (isFirst : ((ch.listings votes).find? fun l => l.jobID = jobID) = some first) :
    (ch.sealOf ctx totals votes jobID first outputHash).jobID = jobID :=
  jobID_of_first isFirst

end

section Permuted

variable {ch : ConsensusHandler} {totals : VoteTotals} {votes reordered : List ExtendedVoteInfo}

theorem voteTotals_perm (ch : ConsensusHandler) (perm : votes.Perm reordered) :
    ch.voteTotals reordered = ch.voteTotals votes := by
  have sum : ∀ items : List ExtendedVoteInfo,
      items.foldl (fun total vote => Int64.wrap (total + vote.validator.power)) 0 =
        Int64.wrap (items.map fun vote => vote.validator.power).sum := by
    intro items
    have summed := Int64.foldl_add_eq_wrap (items.map fun vote => vote.validator.power) 0
    rwa [foldl_map, Int.zero_add] at summed
  unfold ConsensusHandler.voteTotals
  simp only [sum, perm.length_eq, (perm.map fun vote => vote.validator.power).sum_eq]

section

variable (perm : votes.Perm reordered)
include perm

theorem listed_perm (jobID : String) (outputHash : Bytes) :
    (ch.listed votes jobID outputHash).Perm (ch.listed reordered jobID outputHash) :=
  (perm.flatMap_right _).filter _

theorem talliedPower_perm (jobID : String) (outputHash : Bytes) :
    ch.talliedPower totals reordered jobID outputHash =
      ch.talliedPower totals votes jobID outputHash := by
  unfold ConsensusHandler.talliedPower
  rw [((listed_perm perm jobID outputHash).map fun l => totals.votePower l.vote).sum_eq]

theorem reached_perm {jobID : String} {outputHash : Bytes} :
    ch.Reached totals reordered jobID outputHash ↔ ch.Reached totals votes jobID outputHash := by
  unfold ConsensusHandler.Reached
  rw [talliedPower_perm perm, ne_eq, ne_eq, ← length_eq_zero_iff, ← length_eq_zero_iff,
    (listed_perm perm jobID outputHash).length_eq]

end

end Permuted

/- When the votes' order and the maps' order leave the seal transactions alone. -/

/-- Every transaction of the first list is in the second, up to a relation of its results. -/
def Matches (R : List ValidatorResult → List ValidatorResult → Prop) (txs others : List Json) :
    Prop :=
  ∀ tx : SealCreationTx, tx.encode ∈ txs →
    ∃ results, R tx.validatorResults results ∧
      ({ tx with validatorResults := results } : SealCreationTx).encode ∈ others

/-- The same set of transactions for every order of the votes and of the maps. -/
def SameSeals (R : List ValidatorResult → List ValidatorResult → Prop) (ch : ConsensusHandler)
    (ctx : ConsensusContext) (votes : List ExtendedVoteInfo) : Prop :=
  ∀ reordered, votes.Perm reordered → ∀ orders otherOrders, ∃ txs others,
    ch.proposedSeals ctx votes orders = some txs ∧
    ch.proposedSeals ctx reordered otherOrders = some others ∧
    Matches R txs others ∧ Matches R others txs

namespace ConsensusHandler

variable (ch : ConsensusHandler)

def firstListing (jobID : String) (vote : ExtendedVoteInfo) : Option Listing :=
  (ch.listingsOf vote).find? fun l => l.jobID = jobID

def resultsFor (votes : List ExtendedVoteInfo) (jobID : String) (outputHash : Bytes) :
    List ValidatorResult :=
  (ch.listed votes jobID outputHash).map Listing.result

/-- No job has two outputs that reach the quorum. -/
def OneOutput (totals : VoteTotals) (votes : List ExtendedVoteInfo) : Prop :=
  ∀ jobID first second, ch.Reached totals votes jobID first →
    ch.Reached totals votes jobID second → first = second

/-- Every vote that mentions a decided job first mentions it with the same hashes. -/
def SameHashes (totals : VoteTotals) (votes : List ExtendedVoteInfo) : Prop :=
  ∀ jobID outputHash, ch.Reached totals votes jobID outputHash →
    ∀ u ∈ votes, ∀ w ∈ votes, ∀ l ∈ ch.firstListing jobID u, ∀ m ∈ ch.firstListing jobID w,
      l.verification.modelHash = m.verification.modelHash ∧
        l.verification.inputHash = m.verification.inputHash

end ConsensusHandler

section

variable {ch : ConsensusHandler} {ctx : ConsensusContext} {totals : VoteTotals}
  {votes reordered : List ExtendedVoteInfo} {orders otherOrders : SealOrders}
  {txs others : List Json} {R : List ValidatorResult → List ValidatorResult → Prop}

variable {jobID : String}

theorem exists_firstListing {l : Listing}
    (found : ((ch.listings votes).find? fun l => l.jobID = jobID) = some l) :
    ∃ vote ∈ votes, l ∈ ch.firstListing jobID vote :=
  Reorder.exists_mem_of_find?_flatMap found

variable {outputHash : Bytes}

/-- Matching transactions decide a job alike. -/
theorem Matches.decision (counted : ch.voteTotals votes = some totals)
    (perm : votes.Perm reordered) (proposed : ch.proposedSeals ctx votes orders = some txs)
    (otherwise : ch.proposedSeals ctx reordered otherOrders = some others)
    (same : Matches R txs others) {first : Listing}
    (isFirst : ((ch.listings votes).find? fun l => l.jobID = jobID) = some first)
    (chosen : ch.picked totals votes orders.aggregation.decision jobID = some outputHash) :
    ∃ second, ((ch.listings reordered).find? fun l => l.jobID = jobID) = some second ∧
      ch.picked totals reordered otherOrders.aggregation.decision jobID = some outputHash ∧
      first.verification.modelHash = second.verification.modelHash ∧
      first.verification.inputHash = second.verification.inputHash ∧
      R (ch.resultsFor votes jobID outputHash) (ch.resultsFor reordered jobID outputHash) := by
  have recounted : ch.voteTotals reordered = some totals := by rw [voteTotals_perm ch perm, counted]
  have present := (mem_proposedSeals counted proposed _).mpr
    ⟨jobID, first, outputHash, isFirst, chosen, rfl⟩
  obtain ⟨results, related, written⟩ := same _ present
  obtain ⟨otherJob, second, otherOutput, isSecond, picked, equal⟩ :=
    (mem_proposedSeals recounted otherwise _).mp written
  have equal := SealCreationTx.encode_injective equal
  have job := congrArg SealCreationTx.jobID equal
  change (ch.sealOf ctx totals votes jobID first outputHash).jobID = _ at job
  rw [sealOf_jobID isFirst, sealOf_jobID isSecond] at job
  subst job
  have output : outputHash = otherOutput := congrArg SealCreationTx.outputHash equal
  subst output
  have behind : results = ch.resultsFor reordered jobID outputHash :=
    congrArg SealCreationTx.validatorResults equal
  subst behind
  exact ⟨second, isSecond, picked, congrArg SealCreationTx.modelHash equal,
    congrArg SealCreationTx.inputHash equal, related⟩

def SealOrders.startingWith (outputHash : Bytes) : SealOrders :=
  ⟨⟨⟨.asGiven, fun _ => .startingWith (Hex.encodeToString outputHash)⟩, .asGiven⟩, .asGiven⟩

theorem SealOrders.picked (reached : ch.Reached totals votes jobID outputHash) :
    ch.picked totals votes (SealOrders.startingWith outputHash).aggregation.decision jobID =
      some outputHash :=
  ConsensusHandler.picked_startingWith reached rfl

theorem exists_first_of_reached (reached : ch.Reached totals votes jobID outputHash) :
    ∃ first, ((ch.listings votes).find? fun l => l.jobID = jobID) = some first := by
  obtain ⟨l, member⟩ := exists_mem_of_ne_nil _ reached.1
  obtain ⟨listed, job, -⟩ := ConsensusHandler.mem_listed.mp member
  exact ConsensusHandler.listed_job.mp ⟨l, listed, job⟩

section

variable (counted : ch.voteTotals votes = some totals)
include counted

section

variable (same : SameSeals R ch ctx votes)
include same

theorem SameSeals.oneOutput : ch.OneOutput totals votes := by
  intro jobID first second reachedFirst reachedSecond
  obtain ⟨txs, others, proposed, otherwise, there, -⟩ := same votes (.refl _)
    (SealOrders.startingWith first) (SealOrders.startingWith second)
  obtain ⟨l, isFirst⟩ := exists_first_of_reached reachedFirst
  obtain ⟨-, -, chosen, -⟩ := there.decision counted (.refl _) proposed otherwise isFirst
    (SealOrders.picked reachedFirst)
  rw [SealOrders.picked reachedSecond, Option.some.injEq] at chosen
  exact chosen.symm

theorem SameSeals.front (reached : ch.Reached totals votes jobID outputHash) {first : Listing}
    (isFirst : ((ch.listings votes).find? fun l => l.jobID = jobID) = some first)
    {u : ExtendedVoteInfo} (member : u ∈ votes) {l : Listing} (own : l ∈ ch.firstListing jobID u) :
    first.verification.modelHash = l.verification.modelHash ∧
      first.verification.inputHash = l.verification.inputHash := by
  obtain ⟨rest, moved⟩ := Reorder.exists_perm_cons member
  obtain ⟨txs, others, proposed, otherwise, there, -⟩ := same _ moved
    (SealOrders.startingWith outputHash) (SealOrders.startingWith outputHash)
  obtain ⟨second, isSecond, -, model, input, -⟩ := there.decision counted moved proposed otherwise
    isFirst (SealOrders.picked reached)
  have front : ((ch.listings (u :: rest)).find? fun l => l.jobID = jobID) = some l :=
    Reorder.find?_flatMap_of_perm_front own
  rw [front, Option.some.injEq] at isSecond
  subst isSecond
  exact ⟨model, input⟩

theorem SameSeals.sameHashes : ch.SameHashes totals votes := by
  intro jobID outputHash reached u member w other l own m theirs
  obtain ⟨first, isFirst⟩ := exists_first_of_reached reached
  obtain ⟨model, input⟩ := same.front counted reached isFirst member own
  obtain ⟨otherModel, otherInput⟩ := same.front counted reached isFirst other theirs
  exact ⟨model.symm.trans otherModel, input.symm.trans otherInput⟩

theorem SameSeals.results
    (reached : ch.Reached totals votes jobID outputHash) (perm : votes.Perm reordered) :
    R (ch.resultsFor votes jobID outputHash) (ch.resultsFor reordered jobID outputHash) := by
  obtain ⟨txs, others, proposed, otherwise, there, -⟩ := same _ perm
    (SealOrders.startingWith outputHash) (SealOrders.startingWith outputHash)
  obtain ⟨first, isFirst⟩ := exists_first_of_reached reached
  obtain ⟨-, -, -, -, -, related⟩ := there.decision counted perm proposed otherwise isFirst
    (SealOrders.picked reached)
  exact related

end

end

theorem ConsensusHandler.OneOutput.perm (perm : votes.Perm reordered)
    (single : ch.OneOutput totals votes) : ch.OneOutput totals reordered := by
  intro jobID first second reachedFirst reachedSecond
  exact single jobID first second ((reached_perm perm).mp reachedFirst)
    ((reached_perm perm).mp reachedSecond)

theorem ConsensusHandler.SameHashes.perm (perm : votes.Perm reordered)
    (hashes : ch.SameHashes totals votes) : ch.SameHashes totals reordered := by
  intro jobID outputHash reached u member w other
  exact hashes jobID outputHash ((reached_perm perm).mp reached) u (perm.mem_iff.mpr member) w
    (perm.mem_iff.mpr other)

/-- Votes that agree give matching transactions. -/
theorem matches_of_agreement (counted : ch.voteTotals votes = some totals)
    (perm : votes.Perm reordered) (proposed : ch.proposedSeals ctx votes orders = some txs)
    (otherwise : ch.proposedSeals ctx reordered otherOrders = some others)
    (single : ch.OneOutput totals votes) (hashes : ch.SameHashes totals votes)
    (results : ∀ jobID outputHash, ch.Reached totals votes jobID outputHash →
      R (ch.resultsFor votes jobID outputHash) (ch.resultsFor reordered jobID outputHash)) :
    Matches R txs others := by
  have recounted : ch.voteTotals reordered = some totals := by rw [voteTotals_perm ch perm, counted]
  intro tx present
  obtain ⟨jobID, first, outputHash, isFirst, chosen, equal⟩ :=
    (mem_proposedSeals counted proposed _).mp present
  obtain rfl := SealCreationTx.encode_injective equal
  have reached := ConsensusHandler.reached_of_picked chosen
  refine ⟨ch.resultsFor reordered jobID outputHash, results jobID outputHash reached, ?_⟩
  have again := (reached_perm perm).mpr reached
  obtain ⟨second, isSecond⟩ := exists_first_of_reached again
  have picked : ch.picked totals reordered otherOrders.aggregation.decision jobID =
      some outputHash := by
    cases decided : ch.picked totals reordered otherOrders.aggregation.decision jobID with
    | none => exact absurd again (ConsensusHandler.not_reached_of_picked_none decided outputHash)
    | some other =>
      have reachedOther := (reached_perm perm).mp (ConsensusHandler.reached_of_picked decided)
      rw [single jobID outputHash other reached reachedOther]
  obtain ⟨u, member, own⟩ := exists_firstListing isFirst
  obtain ⟨w, other, theirs⟩ := exists_firstListing isSecond
  obtain ⟨model, input⟩ := hashes jobID outputHash reached u member w (perm.mem_iff.mpr other) first
    own second theirs
  refine (mem_proposedSeals recounted otherwise _).mpr
    ⟨jobID, second, outputHash, isSecond, picked, congrArg SealCreationTx.encode ?_⟩
  have job := (jobID_of_first isFirst).trans (jobID_of_first isSecond).symm
  simp only [ConsensusHandler.sealOf, ConsensusHandler.sealTransaction,
    ConsensusHandler.decidedResult, initialResult, model, input, job,
    (listed_perm perm jobID outputHash).length_eq, talliedPower_perm perm jobID outputHash,
    ConsensusHandler.resultsFor]

end

/-- The conditions under which orders do not matter, apart from the results'. -/
def Agreeing (ch : ConsensusHandler) (votes : List ExtendedVoteInfo) : Prop :=
  ∀ totals, ch.voteTotals votes = some totals →
    ch.OneOutput totals votes ∧ ch.SameHashes totals votes

variable {votes : List ExtendedVoteInfo}

/-- The order of votes does not matter exactly where they agree. -/
theorem sameSeals_iff_agreeing {R : List ValidatorResult → List ValidatorResult → Prop}
    (ch : ConsensusHandler) (ctx : ConsensusContext)
    (verified : Verified votes) (symm : ∀ {left right}, R left right → R right left) :
    SameSeals R ch ctx votes ↔ Agreeing ch votes ∧
      ∀ totals, ch.voteTotals votes = some totals → ∀ jobID outputHash,
        ch.Reached totals votes jobID outputHash → ∀ reordered, votes.Perm reordered →
          R (ch.resultsFor votes jobID outputHash) (ch.resultsFor reordered jobID outputHash) := by
  constructor
  · intro same
    refine ⟨fun totals counted => ⟨same.oneOutput counted, same.sameHashes counted⟩, ?_⟩
    intro totals counted jobID outputHash reached reordered perm
    exact same.results counted reached perm
  · rintro ⟨agreeing, results⟩ reordered perm orders otherOrders
    obtain ⟨txs, proposed⟩ := proposedSeals_total ch verified ctx orders
    obtain ⟨others, otherwise⟩ := proposedSeals_total ch (verified.perm perm) ctx otherOrders
    refine ⟨txs, others, proposed, otherwise, ?_⟩
    cases counted : ch.voteTotals votes with
    | none =>
      have recounted : ch.voteTotals reordered = none := by rw [voteTotals_perm ch perm, counted]
      rw [proposedSeals_uncounted counted proposed, proposedSeals_uncounted recounted otherwise]
      simp [Matches]
    | some totals =>
      obtain ⟨single, hashes⟩ := agreeing totals counted
      have recounted : ch.voteTotals reordered = some totals := by
        rw [voteTotals_perm ch perm, counted]
      constructor
      · exact matches_of_agreement counted perm proposed otherwise single hashes
          fun jobID outputHash reached => results totals counted jobID outputHash reached _ perm
      · refine matches_of_agreement recounted perm.symm otherwise proposed (single.perm perm)
          (hashes.perm perm) fun jobID outputHash reached => ?_
        exact symm (results totals counted jobID outputHash ((reached_perm perm).mp reached) _ perm)

/-- Any two votes' results behind a decided output can be swapped. -/
def Commuting (ch : ConsensusHandler) (votes : List ExtendedVoteInfo) : Prop :=
  ∀ totals, ch.voteTotals votes = some totals → ∀ jobID outputHash,
    ch.Reached totals votes jobID outputHash → ∀ u ∈ votes, ∀ w ∈ votes,
      ch.resultsFor [u] jobID outputHash ++ ch.resultsFor [w] jobID outputHash =
        ch.resultsFor [w] jobID outputHash ++ ch.resultsFor [u] jobID outputHash

theorem resultsFor_eq_flatMap (ch : ConsensusHandler) (votes : List ExtendedVoteInfo)
    (jobID : String) (outputHash : Bytes) :
    ch.resultsFor votes jobID outputHash =
      votes.flatMap fun vote => ch.resultsFor [vote] jobID outputHash := by
  simp only [ConsensusHandler.resultsFor, ConsensusHandler.listed, ConsensusHandler.listings,
    filter_flatMap, map_flatMap, flatMap_singleton]

section

variable (ch : ConsensusHandler) (ctx : ConsensusContext) (verified : Verified votes)
include ch ctx verified

theorem sameSeals_eq_iff :
    SameSeals Eq ch ctx votes ↔ Agreeing ch votes ∧ Commuting ch votes := by
  rw [sameSeals_iff_agreeing ch ctx verified Eq.symm]
  refine and_congr_right fun _ => forall₂_congr fun totals _ =>
    forall₃_congr fun jobID outputHash _ => ?_
  constructor
  · intro same u member w other
    refine Reorder.commute_of_flatMap_eq (fun vote => ch.resultsFor [vote] jobID outputHash)
      (fun reordered perm => ?_) member other
    rw [← resultsFor_eq_flatMap, ← resultsFor_eq_flatMap]
    exact same reordered perm
  · intro commute reordered perm
    rw [resultsFor_eq_flatMap, resultsFor_eq_flatMap ch reordered]
    exact Reorder.flatMap_eq_of_commute _ perm commute

theorem sameSeals_perm_iff :
    SameSeals Perm ch ctx votes ↔ Agreeing ch votes := by
  rw [sameSeals_iff_agreeing ch ctx verified Perm.symm]
  refine and_iff_left_of_imp fun _ totals _ jobID outputHash _ reordered perm => ?_
  exact (listed_perm perm jobID outputHash).map _

end

end Aethelred.Pouw
