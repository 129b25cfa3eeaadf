import Aethelred.Pouw.JobKeeper

/- The completion of a job with its rewards and penalties, and when it is all or nothing. -/
namespace Aethelred.Pouw

open Go List Except Option

structure PouwCoin where
  denom : String
  amount : Int

/-- The bank and staking keepers the module is given, over a state of their own. A send or a burn
that is refused changes nothing; a slash says whether it was applied. -/
structure Economy (β : Type) where
  parseCoinNormalized : String → Option PouwCoin
  hasMinimumValidatorStake : β → String → Bool
  sendCoinsFromModuleToAccount : β → Bytes → PouwCoin → Option β
  slashValidatorBondedStake : β → String → β × Bool
  spendableCovers : β → Bytes → PouwCoin → Bool
  sendCoinsFromAccountToModule : β → Bytes → PouwCoin → Option β
  burnCoins : β → PouwCoin → Option β

section Settlement

variable {β : Type} (economy : Economy β) (codec : AddressCodec) (params : Params)

def positiveCoin (text : String) : Option PouwCoin :=
  (economy.parseCoinNormalized text).filter fun coin => 0 < coin.amount

def rewardResult (bank : β) (result : VerificationResult) : β :=
  match positiveCoin economy params.verificationReward with
  | none => bank
  | some reward =>
    if economy.hasMinimumValidatorStake bank result.validatorAddress then
      match codec.accAddressFromBech32 result.validatorAddress with
      | none => bank
      | some valAddr =>
        (economy.sendCoinsFromModuleToAccount bank valAddr reward).getD bank
    else bank

def penalizeResult (bank : β) (result : VerificationResult) : β :=
  match positiveCoin economy params.slashingPenalty with
  | none => bank
  | some penalty =>
    let (bank, applied) := economy.slashValidatorBondedStake bank result.validatorAddress
    if applied then bank
    else match codec.accAddressFromBech32 result.validatorAddress with
      | none => bank
      | some valAddr =>
        if economy.spendableCovers bank valAddr penalty then
          match economy.sendCoinsFromAccountToModule bank valAddr penalty with
          | none => bank
          | some bank => (economy.burnCoins bank penalty).getD bank
        else bank

def settleResult (state : Keeper × β) (result : VerificationResult) : Option (Keeper × β) := do
  let k ← state.1.recordResult result
  let bank := if result.success then rewardResult economy codec params state.2 result
    else penalizeResult economy codec params state.2 result
  return (k, bank)

end Settlement

namespace Keeper

variable {β : Type} (economy : Economy β) (crypto : Crypto) (codec : AddressCodec)
  (ctx : SDKContext)

def completeJobAndSettle (k : Keeper) (bank : β) (jobID : String) (outputHash : Bytes)
    (results : List VerificationResult) : Except KeeperError Unit × Keeper × β :=
  match k.getJob jobID with
  | .error reason => (.error reason, k, bank)
  | .ok job =>
    let model := k.registeredModels.lookup (modelHashKey job.modelHash)
    let (totalUWU, job) := UsefulWork.recordOn job model outputHash
    let results := UsefulWork.distribute totalUWU results
    let job := { job with verificationResults := job.verificationResults ++ results }
    let s := sealFor crypto ctx job outputHash results
    match k.createSeal codec s with
    | .error reason => (.error (.createSeal reason), k, bank)
    | .ok k =>
      match job.markCompleted outputHash s.id ctx.now with
      | .error reason => (.error (.invalidTransition reason), k, bank)
      | .ok job =>
        match k.updateJob job with
        | .error reason => (.error reason, k, bank)
        | .ok k =>
          match results.foldlM (settleResult economy codec k.getParams) (k, bank) with
          | none => (.error .divisionByZero, k, bank)
          | some (k, bank) => (.ok (), k, bank)

end Keeper

def creditOf (results : List VerificationResult) : Nat :=
  ((results.filter (·.success)).map (·.uwuContribution)).sum

theorem creditOf_append (first second : List VerificationResult) :
    creditOf (first ++ second) = creditOf first + creditOf second := by
  simp only [creditOf, filter_append, map_append, sum_append]

namespace UsefulWork

theorem creditOf_share (perVerifier remainder : Nat) (results : List VerificationResult) :
    creditOf (share perVerifier remainder results) =
      perVerifier * (results.filter (·.success)).length +
        min remainder (results.filter (·.success)).length := by
  induction results generalizing remainder with
  | nil => simp [creditOf, share]
  | cons result rest ih =>
    cases success : result.success with
    | false =>
      have kept := ih remainder
      simp only [creditOf, share, success, Bool.false_eq_true, ↓reduceIte, not_false_eq_true,
        filter_cons_of_neg] at kept ⊢
      exact kept
    | true =>
      have rested := ih (remainder - 1)
      simp only [creditOf, share, success, ↓reduceIte, filter_cons_of_pos, map_cons,
        sum_cons, length_cons, Nat.mul_succ] at rested ⊢
      rw [rested]
      split <;> omega

theorem creditOf_distribute {totalUWU : Nat} (positive : 0 < totalUWU)
    (results : List VerificationResult) :
    creditOf (distribute totalUWU results) =
      if results.any (·.success) then totalUWU else 0 := by
  unfold distribute
  dsimp only
  by_cases some : 0 < (results.filter (·.success)).length
  · have any : results.any (·.success) = true := by
      obtain ⟨result, member⟩ := exists_mem_of_length_pos some
      exact any_eq_true.mpr ⟨result, mem_filter.mp member⟩
    rw [if_pos ⟨some, positive⟩, if_pos any, creditOf_share]
    have less := Nat.mod_lt totalUWU some
    rw [Nat.min_eq_left less.le, Nat.mul_comm, Nat.div_add_mod]
  · have none : results.filter (·.success) = [] := length_eq_zero_iff.mp (by omega)
    have any : ¬results.any (·.success) = true := by
      intro found
      obtain ⟨result, member, success⟩ := any_eq_true.mp found
      have inside := mem_filter.mpr ⟨member, success⟩
      rw [none] at inside
      cases inside
    rw [if_neg (by omega), if_neg any, creditOf, none]
    rfl

theorem parsePositiveUint_pos {raw : String} {parsed : Nat}
    (found : parsePositiveUint raw = some parsed) : 0 < parsed := by
  unfold parsePositiveUint at found
  obtain ⟨value, _, kept⟩ := bind_eq_some_iff.mp found
  split at kept
  · cases kept
  · obtain rfl := some.inj kept
    omega

section

variable (job : ComputeJob) (model : Option RegisteredModel) (outputHash : Bytes)
include job model outputHash

/-- A job is always worth something. -/
theorem recordOn_pos :
    0 < (recordOn job model outputHash).1 := by
  have tokens : 0 < resolveVerifiedTokenOutput job outputHash := by
    unfold resolveVerifiedTokenOutput
    split
    · rename_i found
      exact parsePositiveUint_pos found
    · split <;> omega
  have size : 0 < resolveModelParameterSize job model := by
    have fallback : 0 < (parsePositiveUint
        (job.metadata.get "work.model_parameter_size" "")).getD 1 := by
      cases found : parsePositiveUint (job.metadata.get "work.model_parameter_size" "") with
      | none => exact Nat.one_pos
      | some parsed => exact parsePositiveUint_pos found
    unfold resolveModelParameterSize
    dsimp only
    split
    · split
      · assumption
      · exact fallback
    · exact fallback
  have product := Nat.mul_pos tokens size
  have positive : 0 < saturatingMul (resolveVerifiedTokenOutput job outputHash)
      (resolveModelParameterSize job model) := by
    unfold saturatingMul
    omega
  unfold recordOn
  dsimp only
  rw [if_pos positive]
  exact positive

theorem recordOn_snd :
    ∃ metadata, (recordOn job model outputHash).2 = { job with
      usefulWorkUnits := (recordOn job model outputHash).1, metadata } := by
  have positive := recordOn_pos job model outputHash
  unfold recordOn at positive ⊢
  dsimp only at positive ⊢
  split at positive
  · rw [if_pos ‹_›]
    exact ⟨_, rfl⟩
  · exact absurd positive ‹_›

end

end UsefulWork

/-- What is checked of a new seal. -/
structure Keeper.SealAcceptable (codec : AddressCodec) (k : Keeper) (s : DigitalSeal) : Prop where
  id : s.id ≠ ""
  model : s.modelCommitment.length = 32
  input : s.inputCommitment.length = 32
  output : s.outputCommitment.length = 32
  height : 0 < s.blockHeight
  requester : codec.accAddressFromBech32 s.requestedBy ≠ none
  fresh : k.seals.lookup s.id = none

def Keeper.withSeal (k : Keeper) (s : DigitalSeal) : Keeper :=
  { k with
    seals := k.seals.insert s.id s
    sealCount := some ((k.sealCount.getD 0 + 1) % 2 ^ 64) }

namespace Keeper

variable {s : DigitalSeal}

theorem withSeal_ne {k : Keeper} (fresh : k.seals.lookup s.id = none) : k.withSeal s ≠ k := by
  intro same
  have found := congrArg (fun k : Keeper => k.seals.lookup s.id) same
  simp only [withSeal, AList.lookup_insert] at found
  rw [fresh] at found
  cases found

theorem validate_eq_ok {codec : AddressCodec} :
    s.validate codec = .ok () ↔ s.id ≠ "" ∧ s.modelCommitment.length = 32 ∧
      s.inputCommitment.length = 32 ∧ s.outputCommitment.length = 32 ∧ 0 < s.blockHeight ∧
      codec.accAddressFromBech32 s.requestedBy ≠ none := by
  have thrown (reason : DigitalSealError) :
      (throw reason : Except DigitalSealError Unit) = .error reason := rfl
  unfold DigitalSeal.validate
  simp only [throw_bind]
  simp only [thrown, ite_error_eq_ok, not_not, Int.not_le, ne_eq, pure_eq_ok,
    and_true]

theorem createSeal_eq_ok {codec : AddressCodec} {k next : Keeper} :
    k.createSeal codec s = .ok next ↔ k.SealAcceptable codec s ∧ k.withSeal s = next := by
  unfold createSeal
  simp only [throw_bind, bind_unit_eq_ok, validate_eq_ok, ite_error_eq_ok,
    pure_eq_ok, not_isSome_iff_eq_none]
  constructor
  · rintro ⟨⟨id, model, input, output, height, requester⟩, fresh, stored⟩
    exact ⟨⟨id, model, input, output, height, requester, fresh⟩, stored⟩
  · rintro ⟨⟨id, model, input, output, height, requester, fresh⟩, stored⟩
    exact ⟨⟨id, model, input, output, height, requester⟩, fresh, stored⟩

theorem sealFor_eq (crypto : Crypto) (ctx : SDKContext) (job : ComputeJob) (outputHash : Bytes)
    (results : List VerificationResult) :
    ∃ attestations validators, sealFor crypto ctx job outputHash results =
      { DigitalSeal.newDigitalSeal crypto job.modelHash job.inputHash outputHash
          ctx.blockHeight.val job.requestedBy job.purpose ctx.now with
        status := .active, teeAttestations := attestations, validatorSet := validators } := by
  unfold sealFor
  dsimp only
  generalize DigitalSeal.newDigitalSeal crypto job.modelHash job.inputHash outputHash
    ctx.blockHeight.val job.requestedBy job.purpose ctx.now = s
  induction results generalizing s with
  | nil => exact ⟨_, _, rfl⟩
  | cons result rest ih =>
    rw [foldl_cons]
    split
    · exact ih (s.addAttestation _)
    · exact ih s

variable {β : Type} (economy : Economy β) (crypto : Crypto) (codec : AddressCodec)
  (ctx : SDKContext) (k : Keeper) (bank : β) (jobID : String) (outputHash : Bytes)
  (results : List VerificationResult)

def workOn (job : ComputeJob) : Nat × ComputeJob :=
  UsefulWork.recordOn job (k.registeredModels.lookup (modelHashKey job.modelHash)) outputHash

def sharedResults (job : ComputeJob) : List VerificationResult :=
  UsefulWork.distribute (k.workOn outputHash job).1 results

def sealedJob (job : ComputeJob) : ComputeJob :=
  { (k.workOn outputHash job).2 with
    verificationResults := (k.workOn outputHash job).2.verificationResults ++
      k.sharedResults outputHash results job }

def completionSeal (job : ComputeJob) : DigitalSeal :=
  sealFor crypto ctx (k.sealedJob outputHash results job) outputHash
    (k.sharedResults outputHash results job)

def completedJob (job : ComputeJob) : ComputeJob :=
  { k.sealedJob outputHash results job with
    status := .completed
    outputHash := outputHash
    sealId := (k.completionSeal crypto ctx outputHash results job).id
    completedAt := some ctx.now }

theorem sealedJob_fields (job : ComputeJob) :
    (k.sealedJob outputHash results job).status = job.status ∧
      (k.sealedJob outputHash results job).id = job.id ∧
      (k.sealedJob outputHash results job).usefulWorkUnits = (k.workOn outputHash job).1 ∧
      (k.sealedJob outputHash results job).verificationResults =
        job.verificationResults ++ k.sharedResults outputHash results job := by
  obtain ⟨metadata, recorded⟩ := UsefulWork.recordOn_snd job
    (k.registeredModels.lookup (modelHashKey job.modelHash)) outputHash
  unfold sealedJob
  rw [workOn, recorded]
  exact ⟨rfl, rfl, rfl, rfl⟩

variable {job : ComputeJob}

/-- When the seal of a completion is accepted. -/
theorem sealAcceptable_completionSeal (model : job.modelHash.length = 32)
    (input : job.inputHash.length = 32) (output : outputHash.length = 32)
    (height : 0 < ctx.blockHeight.val)
    (requester : codec.accAddressFromBech32 job.requestedBy ≠ none)
    (fresh : k.seals.lookup (k.completionSeal crypto ctx outputHash results job).id = none) :
    k.SealAcceptable codec (k.completionSeal crypto ctx outputHash results job) := by
  obtain ⟨metadata, recorded⟩ := UsefulWork.recordOn_snd job
    (k.registeredModels.lookup (modelHashKey job.modelHash)) outputHash
  obtain ⟨attestations, validators, same⟩ := sealFor_eq crypto ctx
    (k.sealedJob outputHash results job) outputHash (k.sharedResults outputHash results job)
  have kept : (k.sealedJob outputHash results job).modelHash = job.modelHash ∧
      (k.sealedJob outputHash results job).inputHash = job.inputHash ∧
      (k.sealedJob outputHash results job).requestedBy = job.requestedBy := by
    unfold sealedJob
    rw [workOn, recorded]
    exact ⟨rfl, rfl, rfl⟩
  unfold completionSeal at fresh ⊢
  rw [same] at fresh ⊢
  refine ⟨?_, kept.1 ▸ model, kept.2.1 ▸ input, output, height, kept.2.2 ▸ requester, fresh⟩
  intro empty
  have length := congrArg String.length empty
  simp only [DigitalSeal.newDigitalSeal, DigitalSeal.generateID, Hex.length_encodeToString,
    crypto.sha256_length] at length
  exact absurd length (by decide)

theorem completedJob_fields (job : ComputeJob) :
    (k.completedJob crypto ctx outputHash results job).id = job.id ∧
      (k.completedJob crypto ctx outputHash results job).usefulWorkUnits =
        (k.workOn outputHash job).1 ∧
      creditOf (k.completedJob crypto ctx outputHash results job).verificationResults =
        creditOf job.verificationResults +
          if results.any (·.success) then (k.workOn outputHash job).1 else 0 := by
  obtain ⟨_, id, work, listed⟩ := k.sealedJob_fields outputHash results job
  refine ⟨id, work, ?_⟩
  show creditOf (k.sealedJob outputHash results job).verificationResults = _
  have positive : 0 < (k.workOn outputHash job).1 := UsefulWork.recordOn_pos job _ outputHash
  rw [listed, creditOf_append, sharedResults, UsefulWork.creditOf_distribute positive]

theorem canTransitionTo_completed :
    job.canTransitionTo .completed = true ↔ job.status = .processing := by
  unfold ComputeJob.canTransitionTo validTransitions
  cases job.status <;> simp

theorem markCompleted_of_processing (sealID : String) (processing : job.status = .processing) :
    job.markCompleted outputHash sealID ctx.now = .ok { job with
      status := .completed, outputHash, sealId := sealID, completedAt := some ctx.now } := by
  unfold ComputeJob.markCompleted ComputeJob.transitionTo
  rw [if_pos (canTransitionTo_completed.mpr processing)]
  rfl

theorem markCompleted_of_not_processing (sealID : String) (other : job.status ≠ .processing) :
    job.markCompleted outputHash sealID ctx.now =
      .error (.invalidTransition job.status .completed) := by
  have refused : ¬job.canTransitionTo .completed = true := fun allowed =>
    other (canTransitionTo_completed.mp allowed)
  unfold ComputeJob.markCompleted ComputeJob.transitionTo
  rw [if_neg refused]
  rfl

theorem completeJobAndSettle_of_found (found : k.jobs.lookup jobID = some job) :
    k.completeJobAndSettle economy crypto codec ctx bank jobID outputHash results =
      match k.createSeal codec (k.completionSeal crypto ctx outputHash results job) with
      | .error reason => (.error (.createSeal reason), k, bank)
      | .ok sealed =>
        match (k.sealedJob outputHash results job).markCompleted outputHash
            (k.completionSeal crypto ctx outputHash results job).id ctx.now with
        | .error reason => (.error (.invalidTransition reason), sealed, bank)
        | .ok completed =>
          match sealed.updateJob completed with
          | .error reason => (.error reason, sealed, bank)
          | .ok updated =>
            match (k.sharedResults outputHash results job).foldlM
                (settleResult economy codec updated.getParams) (updated, bank) with
            | none => (.error .divisionByZero, updated, bank)
            | some (final, bank) => (.ok (), final, bank) := by
  unfold completeJobAndSettle
  rw [getJob, found]
  rfl

variable {k jobID outputHash results}

theorem completeJobAndSettle_of_refused (found : k.jobs.lookup jobID = some job)
    (refused : ¬k.SealAcceptable codec (k.completionSeal crypto ctx outputHash results job)) :
    ∃ reason, k.completeJobAndSettle economy crypto codec ctx bank jobID outputHash results =
      (.error (.createSeal reason), k, bank) := by
  rw [completeJobAndSettle_of_found economy crypto codec ctx k bank jobID outputHash results found]
  cases created : k.createSeal codec (k.completionSeal crypto ctx outputHash results job) with
  | error reason => exact ⟨reason, rfl⟩
  | ok sealed => exact absurd (createSeal_eq_ok.mp created).1 refused

section

variable (found : k.jobs.lookup jobID = some job)
  (acceptable : k.SealAcceptable codec (k.completionSeal crypto ctx outputHash results job))
include found acceptable

theorem completeJobAndSettle_of_not_processing (other : job.status ≠ .processing) :
    k.completeJobAndSettle economy crypto codec ctx bank jobID outputHash results =
      (.error (.invalidTransition (.invalidTransition job.status .completed)),
        k.withSeal (k.completionSeal crypto ctx outputHash results job), bank) := by
  have status := (k.sealedJob_fields outputHash results job).1
  rw [completeJobAndSettle_of_found economy crypto codec ctx k bank jobID outputHash results found,
    createSeal_eq_ok.mpr ⟨acceptable, rfl⟩]
  dsimp only
  rw [markCompleted_of_not_processing ctx outputHash _ (by rwa [status]), status]

theorem completeJobAndSettle_of_processing (processing : job.status = .processing) :
    k.completeJobAndSettle economy crypto codec ctx bank jobID outputHash results =
      match (k.withSeal (k.completionSeal crypto ctx outputHash results job)).updateJob
          (k.completedJob crypto ctx outputHash results job) with
      | .error reason => (.error reason,
          k.withSeal (k.completionSeal crypto ctx outputHash results job), bank)
      | .ok updated =>
        match (k.sharedResults outputHash results job).foldlM
            (settleResult economy codec updated.getParams) (updated, bank) with
        | none => (.error .divisionByZero, updated, bank)
        | some (final, bank) => (.ok (), final, bank) := by
  have status := (k.sealedJob_fields outputHash results job).1
  rw [completeJobAndSettle_of_found economy crypto codec ctx k bank jobID outputHash results found,
    createSeal_eq_ok.mpr ⟨acceptable, rfl⟩]
  dsimp only
  rw [markCompleted_of_processing ctx outputHash _ (status.trans processing)]
  rfl

end

theorem recordResult_jobs {k k' : Keeper} {result : VerificationResult}
    (recorded : k.recordResult result = some k') : k'.jobs = k.jobs := by
  unfold recordResult at recorded
  dsimp only at recorded
  split at recorded
  · obtain ⟨stats, _, rfl⟩ := map_eq_some_iff.mp recorded
    rfl
  · obtain rfl := some.inj recorded
    rfl

theorem foldlM_settleResult_jobs {params : Params} {results : List VerificationResult}
    {state state' : Keeper × β}
    (settled : results.foldlM (settleResult economy codec params) state = some state') :
    state'.1.jobs = state.1.jobs := by
  induction results generalizing state with
  | nil =>
    obtain rfl := some.inj settled
    rfl
  | cons result rest ih =>
    obtain ⟨next, first, later⟩ := bind_eq_some_iff.mp settled
    obtain ⟨k', recorded, kept⟩ := bind_eq_some_iff.mp first
    obtain rfl := some.inj kept
    rw [ih later]
    exact recordResult_jobs recorded

/-- Nothing changed where the call returned an error. -/
def Untouched (outcome : Except KeeperError Unit × Keeper × β) (k : Keeper) (bank : β) : Prop :=
  ∀ reason, outcome.1 = .error reason → outcome.2 = (k, bank)

/-- Where the call returned without one, the job went from processing to completed, its successful
results have the whole work, and no later call completes it again. -/
def CompletedOnce (outcome : Except KeeperError Unit × Keeper × β) (k : Keeper) (jobID : String) :
    Prop :=
  outcome.1 = .ok () → ∃ before after, k.jobs.lookup jobID = some before ∧
    before.status = .processing ∧ outcome.2.1.jobs.lookup jobID = some after ∧
    after.status = .completed ∧ creditOf after.verificationResults = after.usefulWorkUnits ∧
    ∀ (ctx : SDKContext) (bank : β) (outputHash : Bytes) (results : List VerificationResult),
      (outcome.2.1.completeJobAndSettle economy crypto codec ctx bank jobID outputHash results).1 ≠
        .ok ()

/-- The call completes the job with its seal, or does nothing. -/
def AllOrNothing (k : Keeper) (bank : β) (jobID : String) (outputHash : Bytes)
    (results : List VerificationResult) : Prop :=
  let outcome := k.completeJobAndSettle economy crypto codec ctx bank jobID outputHash results
  Untouched outcome k bank ∧ CompletedOnce economy crypto codec outcome k jobID

/-- A job in processing, stored under its identifier, whose credits together with those of the
new results are the work. -/
structure Completable (k : Keeper) (jobID : String) (outputHash : Bytes)
    (results : List VerificationResult) (job : ComputeJob) : Prop where
  status : job.status = .processing
  keyed : job.id = jobID
  credit : creditOf job.verificationResults +
    (if results.any (·.success) then (k.workOn outputHash job).1 else 0) =
      (k.workOn outputHash job).1

theorem not_ok_of_not_processing (found : k.jobs.lookup jobID = some job)
    (other : job.status ≠ .processing) :
    (k.completeJobAndSettle economy crypto codec ctx bank jobID outputHash results).1 ≠ .ok () := by
  by_cases acceptable :
      k.SealAcceptable codec (k.completionSeal crypto ctx outputHash results job)
  · rw [completeJobAndSettle_of_not_processing economy crypto codec ctx bank found acceptable other]
    exact fun done => nomatch done
  · obtain ⟨reason, refused⟩ :=
      completeJobAndSettle_of_refused economy crypto codec ctx bank found acceptable
    rw [refused]
    exact fun done => nomatch done

theorem updateJob_completedJob (stored : (k.jobs.lookup job.id).isSome) :
    (k.withSeal (k.completionSeal crypto ctx outputHash results job)).updateJob
        (k.completedJob crypto ctx outputHash results job) =
      .ok ((k.withSeal (k.completionSeal crypto ctx outputHash results job)).setJob
        (k.completedJob crypto ctx outputHash results job)) := by
  unfold updateJob
  rw [if_pos]
  show (k.jobs.lookup (k.completedJob crypto ctx outputHash results job).id).isSome
  rwa [(completedJob_fields crypto ctx k outputHash results job).1]

theorem jobs_of_settled {final : Keeper × β} {params : Params}
    (settled : (k.sharedResults outputHash results job).foldlM (settleResult economy codec params)
      ((k.withSeal (k.completionSeal crypto ctx outputHash results job)).setJob
        (k.completedJob crypto ctx outputHash results job), bank) = some final) :
    final.1.jobs = k.jobs.insert job.id (k.completedJob crypto ctx outputHash results job) := by
  have id := (completedJob_fields crypto ctx k outputHash results job).1
  rw [foldlM_settleResult_jobs economy codec settled]
  show k.jobs.insert (k.completedJob crypto ctx outputHash results job).id _ = _
  rw [id]

/-- A call that does not panic is all or nothing exactly when a job whose seal would be accepted is
being processed, is stored under its identifier and has a successful result to credit. -/
theorem complete_job_all_or_nothing_iff
    (returns : (k.completeJobAndSettle economy crypto codec ctx bank jobID outputHash results).1 ≠
      .error .divisionByZero) :
    AllOrNothing economy crypto codec ctx k bank jobID outputHash results ↔
      ∀ job, k.jobs.lookup jobID = some job →
        k.SealAcceptable codec (k.completionSeal crypto ctx outputHash results job) →
          k.Completable jobID outputHash results job := by
  unfold AllOrNothing
  constructor
  · rintro ⟨untouched, completes⟩ job found acceptable
    by_cases processing : job.status = .processing
    · have steps := completeJobAndSettle_of_processing economy crypto codec ctx bank found acceptable
        processing
      rw [steps] at untouched completes returns
      obtain ⟨id, work, credit⟩ := completedJob_fields crypto ctx k outputHash results job
      by_cases stored : (k.jobs.lookup job.id).isSome
      · rw [updateJob_completedJob crypto ctx stored] at completes returns
        dsimp only at completes returns
        cases settled : (k.sharedResults outputHash results job).foldlM
            (settleResult economy codec _) (_, bank) with
        | none =>
          rw [settled] at returns
          exact absurd rfl returns
        | some final =>
          rw [settled] at completes
          obtain ⟨before, after, _, _, kept, done, exact, _⟩ := completes rfl
          dsimp only at kept
          rw [jobs_of_settled economy crypto codec ctx bank settled] at kept
          have keyed : job.id = jobID := by
            by_contra differ
            rw [AList.lookup_insert_ne (Ne.symm differ), found] at kept
            obtain rfl := some.inj kept
            rw [processing] at done
            cases done
          rw [keyed, AList.lookup_insert] at kept
          obtain rfl := some.inj kept
          rw [credit, work] at exact
          exact ⟨processing, keyed, exact⟩
      · exfalso
        have missing : (k.withSeal (k.completionSeal crypto ctx outputHash results job)).updateJob
            (k.completedJob crypto ctx outputHash results job) =
              .error (.jobNotFound (k.completedJob crypto ctx outputHash results job).id) := by
          unfold updateJob
          rw [if_neg]
          show ¬(k.jobs.lookup (k.completedJob crypto ctx outputHash results job).id).isSome
          rwa [id]
        rw [missing] at untouched
        have same := untouched _ rfl
        exact withSeal_ne acceptable.fresh (congrArg Prod.fst same)
    · exfalso
      rw [completeJobAndSettle_of_not_processing economy crypto codec ctx bank found acceptable
        processing] at untouched
      have same := untouched _ rfl
      exact withSeal_ne acceptable.fresh (congrArg Prod.fst same)
  · intro ready
    cases found : k.jobs.lookup jobID with
    | none =>
      have missing : k.completeJobAndSettle economy crypto codec ctx bank jobID outputHash results =
          (.error (.jobNotFound jobID), k, bank) := by
        unfold completeJobAndSettle
        rw [getJob, found]
      rw [missing]
      exact ⟨fun _ _ => rfl, fun done => nomatch done⟩
    | some job =>
      by_cases acceptable :
          k.SealAcceptable codec (k.completionSeal crypto ctx outputHash results job)
      · have readied := ready job found acceptable
        obtain ⟨id, work, credit⟩ := completedJob_fields crypto ctx k outputHash results job
        have stored : (k.jobs.lookup job.id).isSome := by
          rw [readied.keyed, found]
          rfl
        rw [completeJobAndSettle_of_processing economy crypto codec ctx bank found acceptable
          readied.status, updateJob_completedJob crypto ctx stored] at returns ⊢
        dsimp only at returns ⊢
        cases settled : (k.sharedResults outputHash results job).foldlM
            (settleResult economy codec _) (_, bank) with
        | none =>
          rw [settled] at returns
          exact absurd rfl returns
        | some final =>
          refine ⟨fun reason failed => (nomatch failed), fun _ => ?_⟩
          have kept : final.1.jobs.lookup jobID =
              some (k.completedJob crypto ctx outputHash results job) := by
            rw [jobs_of_settled economy crypto codec ctx bank settled, readied.keyed,
              AList.lookup_insert]
          refine ⟨job, _, found, readied.status, kept, rfl, ?_, ?_⟩
          · rw [credit, work]
            exact readied.credit
          · intro ctx' bank' outputHash' results'
            exact not_ok_of_not_processing economy crypto codec ctx' bank' kept
              (fun processing => nomatch processing)
      · obtain ⟨reason, refused⟩ :=
          completeJobAndSettle_of_refused economy crypto codec ctx bank found acceptable
        rw [refused]
        exact ⟨fun _ _ => rfl, fun done => nomatch done⟩

end Keeper

namespace CompletionSample

def crypto : Crypto where
  sha256 data := (data ++ replicate 32 0).take 32
  sha256_length := length_padded
  ed25519Public seed := seed
  ed25519Sign _ message := message
  ed25519Verify _ _ _ := true

def requester : String := "aethel1qyqszqgpqyqszqgpqyqszqgpqyqszqgpmck7ne"

def codec : AddressCodec where
  accAddressFromBech32 address := if address = requester then some (replicate 20 1) else none
  valAddressFromBech32 _ := none
  accAddressString _ := requester

def economy : Economy Unit where
  parseCoinNormalized _ := none
  hasMinimumValidatorStake _ _ := false
  sendCoinsFromModuleToAccount _ _ _ := none
  slashValidatorBondedStake _ _ := ((), false)
  spendableCovers _ _ _ := false
  sendCoinsFromAccountToModule _ _ _ := none
  burnCoins _ _ := none

def ctx : SDKContext where
  blockHeight := ⟨1, .one⟩
  blockTime := ⟨0⟩
  validators := []

variable (status : JobStatus)

def job : ComputeJob where
  id := "job"
  modelHash := replicate 32 1
  inputHash := replicate 32 2
  requestedBy := requester
  proofType := .tee
  purpose := "credit_scoring"
  status := status

def holding : Keeper :=
  { jobs := (∅ : Map String ComputeJob).insert "job" (job status) }

def output : Bytes := replicate 32 3

def verified : List VerificationResult :=
  [{ validatorAddress := "validator", outputHash := output, attestationType := "zkml",
     teePlatform := "", attestationData := [], executionTimeMs := 5, success := true }]

theorem found : (holding status).jobs.lookup "job" = some (job status) :=
  AList.lookup_insert _

theorem requester_known : codec.accAddressFromBech32 requester ≠ none := by decide

theorem acceptable : (holding status).SealAcceptable codec
    ((holding status).completionSeal crypto ctx output verified (job status)) :=
  Keeper.sealAcceptable_completionSeal crypto codec ctx (holding status) output verified
    rfl rfl rfl (by decide) requester_known rfl

end CompletionSample

open CompletionSample in
/-- A job that is still pending is refused, and its seal stays. -/
theorem Keeper.pending_job_leaves_seal :
    ¬Keeper.AllOrNothing economy crypto codec ctx (holding .pending) () "job" output verified := by
  intro completes
  have untouched := completes.1
  rw [Keeper.completeJobAndSettle_of_not_processing economy crypto codec ctx () (found .pending)
    (acceptable .pending) (fun processing => nomatch processing)] at untouched
  have same := untouched _ rfl
  exact Keeper.withSeal_ne (acceptable .pending).fresh (congrArg Prod.fst same)

open CompletionSample in
theorem Keeper.processing_job_completes :
    Keeper.AllOrNothing economy crypto codec ctx (holding .processing) () "job" output
      verified := by
  have returned : ((holding .processing).completeJobAndSettle economy crypto codec ctx () "job"
      output verified).1 = .ok () := by
    have stored : ((holding .processing).jobs.lookup (job .processing).id).isSome := by
      rw [show (job .processing).id = "job" from rfl, found]
      rfl
    rw [Keeper.completeJobAndSettle_of_processing economy crypto codec ctx () (found .processing)
      (acceptable .processing) rfl, Keeper.updateJob_completedJob crypto ctx stored]
    rfl
  refine (Keeper.complete_job_all_or_nothing_iff economy crypto codec ctx () ?_).mpr ?_
  · rw [returned]
    exact fun failed => nomatch failed
  · intro job' found' _
    rw [found] at found'
    obtain rfl := some.inj found'
    exact ⟨rfl, rfl, Nat.zero_add _⟩

end Aethelred.Pouw
