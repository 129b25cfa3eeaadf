import Aethelred.Pouw.Outcome
import Aethelred.Lib.Quorum

/- Who stands behind a decided output, and with how much power. -/
namespace Aethelred.Pouw

open Go Counting Function List ExtendedVoteInfo

namespace ConsensusHandler

variable (ch : ConsensusHandler)

def support (jobID : String) (outputHash : Bytes) (vote : ExtendedVoteInfo) : List Listing :=
  (ch.listingsOf vote).filter fun l => l.Names jobID outputHash

theorem listed_eq_flatMap (votes : List ExtendedVoteInfo) (jobID : String) (outputHash : Bytes) :
    ch.listed votes jobID outputHash = votes.flatMap (ch.support jobID outputHash) := by
  unfold listed listings support
  rw [filter_flatMap]

def supporters (votes : List ExtendedVoteInfo) (jobID : String) (outputHash : Bytes) :
    List AbciValidator :=
  ((contributors (ch.support jobID outputHash) votes).map validator).dedup

end ConsensusHandler

def VoteTotals.power (totals : VoteTotals) (validators : List AbciValidator) : Int :=
  (validators.map totals.powerOf).sum

def VoteTotals.wholePower (totals : VoteTotals) (votes : List ExtendedVoteInfo) : Int :=
  totals.power (votes.map validator)

variable (ch : ConsensusHandler)

def ConsensusHandler.neededPower (totals : VoteTotals) (votes : List ExtendedVoteInfo) : Int :=
  exactThreshold (totals.wholePower votes) ch.getConsensusThreshold

/-- The result rests on the power of distinct supporters. -/
structure CountedOnce (ch : ConsensusHandler) (totals : VoteTotals) (votes : List ExtendedVoteInfo)
    (agg : AggregatedResult) : Prop where
  threshold : ch.neededPower totals votes ≤
    totals.power (ch.supporters votes agg.jobID agg.outputHash)
  power : agg.agreementPower = totals.power (ch.supporters votes agg.jobID agg.outputHash)
  count : agg.agreementCount = (ch.supporters votes agg.jobID agg.outputHash).length
  coalition : ∀ belongs : AbciValidator → Bool,
    (∀ v ∈ ch.supporters votes agg.jobID agg.outputHash, belongs v = true) →
      ch.neededPower totals votes ≤
        totals.power ((votes.map validator).filter belongs)

/-- Whatever order the maps are visited in, no validator's power is counted twice. -/
def CountsEachValidatorOnce (ctx : ConsensusContext) (votes : List ExtendedVoteInfo) : Prop :=
  ∀ orders outcome totals, ch.voteTotals votes = some totals →
    ch.aggregateVoteExtensions ctx votes orders = some outcome →
    ∀ jobID, ∀ agg ∈ outcome.results.lookup jobID, agg.hasConsensus = true →
      agg.jobID = jobID ∧ CountedOnce ch totals votes agg

/-- Where an output gathers enough tallied power, nobody lists it twice and nothing overflows. -/
def NoInflation (votes : List ExtendedVoteInfo) : Prop :=
  ∀ totals, ch.voteTotals votes = some totals → ∀ jobID outputHash,
    ch.Reached totals votes jobID outputHash →
      (∀ vote ∈ votes, (ch.support jobID outputHash vote).length ≤ 1) ∧
      (Int64.Fits (totals.wholePower votes * ch.getConsensusThreshold + 99) ∨
        Int64.Fits (totals.power (ch.supporters votes jobID outputHash)) ∧
          ch.neededPower totals votes ≤ totals.power (ch.supporters votes jobID outputHash))

section

variable {ch : ConsensusHandler} {totals : VoteTotals} {votes : List ExtendedVoteInfo}

theorem totalPower_eq (counted : ch.voteTotals votes = some totals) :
    totals.totalPower = Int64.wrap (totals.wholePower votes) := by
  have summed := Int64.foldl_add_eq_wrap (votes.map fun vote => vote.validator.power) 0
  rw [foldl_map, Int.zero_add] at summed
  change votes.foldl (fun total vote => Int64.wrap (total + vote.validator.power)) 0 = _ at summed
  unfold ConsensusHandler.voteTotals at counted
  simp only [summed] at counted
  split at counted
  · split at counted
    · cases counted
      simp [VoteTotals.wholePower, VoteTotals.power, VoteTotals.powerOf, comp_def]
    · cases counted
  · cases counted
    simp [VoteTotals.wholePower, VoteTotals.power, VoteTotals.powerOf, comp_def]

theorem powerOf_nonneg (totals : VoteTotals) (nonneg : ∀ vote ∈ votes, 0 ≤ vote.validator.power) :
    ∀ v ∈ votes.map validator, 0 ≤ totals.powerOf v := by
  intro v member
  obtain ⟨vote, present, rfl⟩ := mem_map.mp member
  unfold VoteTotals.powerOf
  split
  · decide
  · exact nonneg vote present

theorem wholePower_nonneg (totals : VoteTotals)
    (nonneg : ∀ vote ∈ votes, 0 ≤ vote.validator.power) : 0 ≤ totals.wholePower votes :=
  Counting.sum_nonneg _ _ (powerOf_nonneg totals nonneg)

theorem fits_wholePower (nonneg : ∀ vote ∈ votes, 0 ≤ vote.validator.power)
    (fits : Int64.Fits (totals.wholePower votes * ch.getConsensusThreshold + 99)) :
    Int64.Fits (totals.wholePower votes) := by
  have whole := wholePower_nonneg totals nonneg
  have share := ch.getConsensusThreshold_pos
  have least : totals.wholePower votes * 1 ≤ totals.wholePower votes * ch.getConsensusThreshold :=
    Int.mul_le_mul_of_nonneg_left (by omega) whole
  unfold Int64.Fits at fits ⊢
  omega

theorem requiredPower_eq (counted : ch.voteTotals votes = some totals)
    (nonneg : ∀ vote ∈ votes, 0 ≤ vote.validator.power)
    (fits : Int64.Fits (totals.wholePower votes * ch.getConsensusThreshold + 99)) :
    ch.requiredPower totals = ch.neededPower totals votes := by
  unfold ConsensusHandler.requiredPower ConsensusHandler.neededPower
  rw [totalPower_eq counted, Int64.wrap_of_fits (fits_wholePower nonneg fits)]
  exact requiredThresholdCount_exact (wholePower_nonneg totals nonneg) ch.getConsensusThreshold_pos
    fits

section

variable (distinct : (votes.map fun vote => vote.validator.address).Nodup) (jobID : String)
  (outputHash : Bytes)
include distinct jobID outputHash

theorem supporters_eq :
    ch.supporters votes jobID outputHash =
      (contributors (ch.support jobID outputHash) votes).map validator := by
  apply Nodup.dedup
  have addresses : ((contributors (ch.support jobID outputHash) votes).map fun vote =>
      vote.validator.address).Nodup :=
    distinct.sublist (filter_sublist.map _)
  exact Nodup.of_map AbciValidator.address (by simpa [comp_def] using addresses)

theorem length_listed_eq_iff :
    (ch.listed votes jobID outputHash).length = (ch.supporters votes jobID outputHash).length ↔
      ∀ vote ∈ votes, (ch.support jobID outputHash vote).length ≤ 1 := by
  rw [ConsensusHandler.listed_eq_flatMap, supporters_eq distinct, length_map,
    length_contributors_eq_iff]

end

variable {outputHash : Bytes}

theorem talliedPower_eq (totals : VoteTotals)
    (distinct : (votes.map fun vote => vote.validator.address).Nodup) {jobID : String}
    (once : ∀ vote ∈ votes, (ch.support jobID outputHash vote).length ≤ 1) :
    ch.talliedPower totals votes jobID outputHash =
      Int64.wrap (totals.power (ch.supporters votes jobID outputHash)) := by
  unfold ConsensusHandler.talliedPower VoteTotals.power
  rw [ConsensusHandler.listed_eq_flatMap, supporters_eq distinct, map_map]
  congr 1
  apply sum_contributors
  · intro vote l member
    have listed := (mem_filter.mp member).1
    rw [(ConsensusHandler.mem_listingsOf.mp listed).1]
    rfl
  · exact once

theorem supporters_sublist (ch : ConsensusHandler)
    (distinct : (votes.map fun vote => vote.validator.address).Nodup)
    (jobID : String) (outputHash : Bytes) :
    (ch.supporters votes jobID outputHash).Sublist (votes.map validator) := by
  rw [supporters_eq distinct]
  exact filter_sublist.map _

theorem power_le_coalition (distinct : (votes.map fun vote => vote.validator.address).Nodup)
    (nonneg : ∀ vote ∈ votes, 0 ≤ vote.validator.power) {jobID : String}
    {belongs : AbciValidator → Bool}
    (all : ∀ v ∈ ch.supporters votes jobID outputHash, belongs v = true) :
    totals.power (ch.supporters votes jobID outputHash) ≤
      totals.power ((votes.map validator).filter belongs) := by
  have inside := (supporters_sublist ch distinct jobID outputHash).filter belongs
  rw [filter_eq_self.mpr all] at inside
  apply (inside.map totals.powerOf).sum_le_sum
  intro weight member
  obtain ⟨v, present, rfl⟩ := mem_map.mp member
  exact powerOf_nonneg totals nonneg v (mem_filter.mp present).1

/-- Without inflation a decided power is that of distinct supporters. -/
theorem NoInflation.exact (sound : NoInflation ch votes)
    (counted : ch.voteTotals votes = some totals)
    (distinct : (votes.map fun vote => vote.validator.address).Nodup)
    (nonneg : ∀ vote ∈ votes, 0 ≤ vote.validator.power) {jobID : String}
    (reached : ch.Reached totals votes jobID outputHash) :
    ch.talliedPower totals votes jobID outputHash =
        totals.power (ch.supporters votes jobID outputHash) ∧
      ch.neededPower totals votes ≤ totals.power (ch.supporters votes jobID outputHash) := by
  obtain ⟨once, exactly⟩ := sound totals counted jobID outputHash reached
  have tallied := talliedPower_eq totals distinct once
  rcases exactly with fits | ⟨fits, enough⟩
  · have required := requiredPower_eq counted nonneg fits
    have within : totals.power (ch.supporters votes jobID outputHash) ≤ totals.wholePower votes :=
      ((supporters_sublist ch distinct jobID outputHash).map totals.powerOf).sum_le_sum
        (by simpa using powerOf_nonneg totals nonneg)
    have lower : 0 ≤ totals.power (ch.supporters votes jobID outputHash) :=
      Counting.sum_nonneg _ _ fun v member =>
        powerOf_nonneg totals nonneg v ((supporters_sublist ch distinct _ _).subset member)
    have whole := fits_wholePower nonneg fits
    have small : Int64.Fits (totals.power (ch.supporters votes jobID outputHash)) := by
      unfold Int64.Fits at whole ⊢
      omega
    rw [Int64.wrap_of_fits small] at tallied
    have enough := reached.2
    rw [tallied, required] at enough
    exact ⟨tallied, enough⟩
  · rw [Int64.wrap_of_fits fits] at tallied
    exact ⟨tallied, enough⟩

theorem NoInflation.countsEachValidatorOnce (ctx : ConsensusContext)
    (distinct : (votes.map fun vote => vote.validator.address).Nodup)
    (nonneg : ∀ vote ∈ votes, 0 ≤ vote.validator.power) (sound : NoInflation ch votes) :
    CountsEachValidatorOnce ch ctx votes := by
  intro orders outcome totals counted returned jobID agg found agreed
  obtain ⟨l, outputHash, first, reached, -, rfl⟩ := decided_of_lookup counted returned found agreed
  have job := jobID_of_first first
  obtain ⟨tallied, enough⟩ := sound.exact counted distinct nonneg reached
  refine ⟨job, ?_⟩
  simp only [ConsensusHandler.decidedResult, initialResult, job]
  refine ⟨enough, tallied, ?_, fun belongs all => ?_⟩
  · exact (length_listed_eq_iff distinct jobID outputHash).mpr
      (sound totals counted jobID outputHash reached).1
  · exact enough.trans (power_le_coalition distinct nonneg all)

theorem CountsEachValidatorOnce.noInflation {ctx : ConsensusContext}
    (distinct : (votes.map fun vote => vote.validator.address).Nodup) (long : LongOutputs votes)
    (once : CountsEachValidatorOnce ch ctx votes) : NoInflation ch votes := by
  intro totals counted jobID outputHash reached
  obtain ⟨orders, outcome, l, returned, first, found⟩ := exists_deciding long ctx counted reached
  have job := jobID_of_first first
  obtain ⟨-, enough, power, count, -⟩ := once orders outcome totals counted returned jobID _ found rfl
  simp only [ConsensusHandler.decidedResult, initialResult, job] at enough power count
  have fits : Int64.Fits (totals.power (ch.supporters votes jobID outputHash)) := by
    rw [← power]
    exact Int64.wrap_fits _
  exact ⟨(length_listed_eq_iff distinct jobID outputHash).mp count, .inr ⟨fits, enough⟩⟩

end

/-- Each validator is counted once exactly when no reached output is listed twice by one vote
and no sum overflows. The converse is about votes whose reported outputs are long enough. -/
theorem countsEachValidatorOnce_iff (ch : ConsensusHandler) (ctx : ConsensusContext)
    (votes : List ExtendedVoteInfo)
    (distinct : (votes.map fun vote => vote.validator.address).Nodup)
    (nonneg : ∀ vote ∈ votes, 0 ≤ vote.validator.power) :
    (NoInflation ch votes → CountsEachValidatorOnce ch ctx votes) ∧
      (LongOutputs votes → CountsEachValidatorOnce ch ctx votes → NoInflation ch votes) :=
  ⟨fun sound => sound.countsEachValidatorOnce ctx distinct nonneg,
    fun long once => once.noInflation distinct long⟩

namespace Sample

def blockZero : ConsensusContext := ⟨⟨1, .one⟩, Time.zero⟩

def success (jobID : String) (modelHash inputHash outputHash : Bytes) : VerificationWire :=
  ⟨jobID, modelHash, inputHash, outputHash, "zkml", .absent, .ofInt 5, true⟩

def vote (address : Bytes) (power : Int) (verifications : List VerificationWire) :
    ExtendedVoteInfo :=
  ⟨⟨address, power⟩, .wire
    { height := 1
      validatorAddress := some (.str (Base64.encodeToString address))
      verifications := verifications
      timestamp := Time.zero
      signature := some (.str "AQ==")
      extensionHash := some (.str "AQ==") }⟩

def digest (byte : UInt8) : Bytes := replicate 32 byte

end Sample

open Sample in
/-- A validator with 60 of 100 lists the same output twice and reaches the threshold of 67. -/
theorem countsEachValidatorOnce_fails :
    ¬CountsEachValidatorOnce { keeper := {} } blockZero
      [vote [1] 60 [success "job" (digest 1) (digest 2) (digest 3),
          success "job" (digest 1) (digest 2) (digest 3)],
        vote [2] 40 []] := by
  intro once
  have outcome : ∃ outcome ∈ ConsensusHandler.aggregateVoteExtensions { keeper := {} } blockZero
      [vote [1] 60 [success "job" (digest 1) (digest 2) (digest 3),
          success "job" (digest 1) (digest 2) (digest 3)],
        vote [2] 40 []] .asGiven, ∃ agg ∈ outcome.results.lookup "job",
      agg.hasConsensus = true ∧ agg.outputHash = digest 3 ∧ agg.agreementCount = 2 := by
    decide +kernel
  obtain ⟨outcome, returned, agg, found, agreed, output, count⟩ := outcome
  obtain ⟨job, counts⟩ := once _ _ ⟨2, 100, false⟩ (by decide) returned "job" agg found agreed
  have single := counts.count
  rw [count, job, output] at single
  exact absurd single (by decide +kernel)

open Sample in
/-- Two of three validators agree, each listing the output once. -/
theorem countsEachValidatorOnce_of_two :
    CountsEachValidatorOnce { keeper := {} } blockZero
      [vote [1] 40 [success "job" (digest 1) (digest 2) (digest 3)],
        vote [2] 40 [success "job" (digest 1) (digest 2) (digest 3)], vote [3] 20 []] := by
  refine (countsEachValidatorOnce_iff _ _ _ (by decide) (by decide)).1 ?_
  intro totals counted jobID outputHash reached
  have total : ConsensusHandler.voteTotals { keeper := {} }
      [vote [1] 40 [success "job" (digest 1) (digest 2) (digest 3)],
        vote [2] 40 [success "job" (digest 1) (digest 2) (digest 3)], vote [3] 20 []] =
      some ⟨3, 100, false⟩ := by decide
  rw [total] at counted
  cases counted
  refine ⟨fun vote member => ?_, .inl (by decide)⟩
  have few : ∀ vote ∈ [Sample.vote [1] 40 [success "job" (digest 1) (digest 2) (digest 3)],
      Sample.vote [2] 40 [success "job" (digest 1) (digest 2) (digest 3)], Sample.vote [3] 20 []],
      (ConsensusHandler.listingsOf { keeper := {} } vote).length ≤ 1 := by decide
  exact (length_filter_le _ _).trans (few vote member)

end Aethelred.Pouw
