import Aethelred.Vm.JobMoves

/- The calls that work on the registry together with the bank and the staking manager: what each can
end with. -/
namespace Vm.World

open Go Attempt JobStatus JobRegistry Bank

variable {platform : Platform} {world before after : World} {id : JobId} {job : JobState}

section Parts

/-- At most the bank has changed. -/
structure OnlyBank (before after : World) : Prop where
  registry : after.registry = before.registry
  staking : after.staking = before.staking
  stakingBank : after.stakingBank = before.stakingBank

theorem OnlyBank.refl (world : World) : OnlyBank world world := ⟨rfl, rfl, rfl⟩

theorem OnlyBank.trans {last : World} (first : OnlyBank before after)
    (second : OnlyBank after last) : OnlyBank before last :=
  ⟨second.registry.trans first.registry, second.staking.trans first.staking,
    second.stakingBank.trans first.stakingBank⟩

variable {α : Type}

theorem moves_onBank (call : Bank.Call α) : Moves OnlyBank (onBank call) :=
  fun _ => ⟨rfl, rfl, rfl⟩

theorem onBank_of {call : Bank.Call α} {outcome : Except SystemContractError α} {bank : Bank}
    (done : call world.bank = (outcome, bank)) :
    onBank call world = (outcome, { world with bank }) := by
  change ((call world.bank).1, { world with bank := (call world.bank).2 }) = _
  rw [done]

theorem onRegistry_of {call : JobRegistry.Call α} {outcome : Except SystemContractError α}
    {registry : JobRegistry} (done : call world.registry = (outcome, registry)) :
    onRegistry call world = (outcome, { world with registry }) := by
  change ((call world.registry).1, { world with registry := (call world.registry).2 }) = _
  rw [done]

end Parts

theorem moves_acceptParams (params : SubmitJobParams) : Moves Eq (acceptParams params) := by
  unfold acceptParams
  refine .bind .trans (moves_read Eq.refl) fun world => ?_
  refine .bind .trans (moves_ensure Eq.refl _ _) fun _ => ?_
  refine .bind .trans (moves_ensure Eq.refl _ _) fun _ => ?_
  refine .bind .trans (moves_ensure Eq.refl _ _) fun _ => ?_
  exact moves_ensure Eq.refl _ _

theorem escrow_apply (params : SubmitJobParams) (world : World) :
    escrow params world = ((lock params.requester params.bidAmount world.bank).1,
      { world with
        registry := world.registry.bumped params.requester
        bank := (lock params.requester params.bidAmount world.bank).2 }) := rfl

theorem new_eq_some {params : SubmitJobParams} {config : JobConfig} {submittedAt : Nat}
    (made : JobState.new id params config submittedAt = some job) :
    job.requester = params.requester ∧ job.modelHash = params.modelHash ∧
      job.inputHash = params.inputHash ∧ job.bidAmount = params.bidAmount ∧
      job.status = .Submitted ∧ job.assignedProver = none := by
  unfold JobState.new at made
  rw [Option.map_eq_some_iff] at made
  obtain ⟨sla, _, rfl⟩ := made
  exact ⟨rfl, rfl, rfl, rfl, rfl, rfl⟩

/-- All that a submission can do. -/
theorem submitJob_cases (platform : Platform) (params : SubmitJobParams) (ctx : BlockContext)
    (world : World) :
    submitJob platform params ctx world = none ∨
    (∃ reason, submitJob platform params ctx world = some (.error reason, world)) ∨
    (∃ reason bank, lock params.requester params.bidAmount world.bank = (.error reason, bank) ∧
      submitJob platform params ctx world = some (.error reason, { world with
        registry := world.registry.bumped params.requester, bank })) ∨
    ∃ result bank job, lock params.requester params.bidAmount world.bank = (.ok (), bank) ∧
      JobState.new (platform.sha256 (world.registry.nextPreimage params)) params
        world.registry.config ctx.timestamp = some job ∧
      submitJob platform params ctx world = some (.ok result, { world with
        registry := (world.registry.bumped params.requester).index
          (platform.sha256 (world.registry.nextPreimage params)) job
        bank }) := by
  unfold submitJob
  rw [bind_apply]
  have same := moves_acceptParams params world
  revert same
  cases acceptParams params world with
  | mk admitted entered =>
    rintro rfl
    cases admitted with
    | error reason => exact .inr (.inl ⟨reason, rfl⟩)
    | ok done =>
      dsimp only
      rw [escrow_apply]
      cases locked : lock params.requester params.bidAmount world.bank with
      | mk outcome bank =>
        cases outcome with
        | error reason => exact .inr (.inr (.inl ⟨reason, bank, rfl, rfl⟩))
        | ok done =>
          dsimp only
          cases made : JobState.new (generateJobId platform params.requester
              params.modelHash params.inputHash (world.registry.nonce params.requester))
              params world.registry.config ctx.timestamp with
          | none =>
            refine .inl ?_
            change Option.map _ (JobState.new _ params world.registry.config _) = none
            rw [made]
            rfl
          | some job =>
            refine .inr (.inr (.inr ⟨⟨platform.sha256
              (world.registry.nextPreimage params), params.bidAmount,
              job.sla.deadline⟩, bank, job, rfl, made, ?_⟩))
            change Option.map _ (JobState.new _ params world.registry.config _) = _
            rw [made]
            rfl

theorem moves_chargeFee (ctx : BlockContext) (job : JobState) :
    Moves OnlyBank (chargeFee ctx job) := by
  unfold chargeFee
  split
  · refine .bind .trans (moves_onBank _) fun _ => ?_
    exact moves_pure .refl _
  · exact moves_pure .refl _

theorem moves_distribute (ctx : BlockContext) (prover : Address) (job : JobState)
    (split : Nat × Nat × Nat) : Moves OnlyBank (distribute ctx prover job split) := by
  unfold distribute
  refine .bind .trans (moves_onBank _) fun _ => ?_
  refine .bind .trans (moves_onBank _) fun _ => ?_
  refine .bind .trans (moves_onBank _) fun _ => ?_
  exact moves_onBank _

variable (params : SubmitProofParams)

def accepted (ctx : BlockContext) (job : JobState) (world : World) : World :=
  { world with registry := world.registry.putJob params.jobId (verifiedJob params ctx job) }

def settledRegistry (ctx : BlockContext) (job : JobState) (registry : JobRegistry) : JobRegistry :=
  (registry.putJob params.jobId { verifiedJob params ctx job with
    settledAt := some ctx.timestamp
    status := .Settled }).release

/-- All that a settlement can do. -/
theorem settle_cases (ctx : BlockContext) (job : JobState) (world : World) :
    (∃ reason after, settle params ctx job world = (.error reason, after) ∧
      OnlyBank (accepted params ctx job world) after ∧
      (chargeFee ctx (verifiedJob params ctx job) (accepted params ctx job world) =
          (.error reason, after) ∨
        ∃ fee charged, chargeFee ctx (verifiedJob params ctx job) (accepted params ctx job world) =
            (.ok fee, charged) ∧
          distribute ctx params.prover (verifiedJob params ctx job)
            (charged.staking.calculateFeeSplit fee) charged = (.error reason, after))) ∨
    ∃ result fee charged paid,
      settle params ctx job world = (.ok result, { paid with
        registry := settledRegistry params ctx job paid.registry }) ∧
      OnlyBank (accepted params ctx job world) paid ∧
      chargeFee ctx (verifiedJob params ctx job) (accepted params ctx job world) =
        (.ok fee, charged) ∧
      distribute ctx params.prover (verifiedJob params ctx job)
        (charged.staking.calculateFeeSplit fee) charged = (.ok (), paid) ∧
      result = ⟨params.jobId, true, (charged.staking.calculateFeeSplit fee).1,
        (charged.staking.calculateFeeSplit fee).2.1,
        (charged.staking.calculateFeeSplit fee).2.2⟩ := by
  have unfolded : settle params ctx job world =
      (chargeFee ctx (verifiedJob params ctx job) >>= fun fee => do
        let split := (← read).staking.calculateFeeSplit fee
        distribute ctx params.prover (verifiedJob params ctx job) split
        modify fun world => { world with
          registry := settledRegistry params ctx job world.registry }
        return (⟨params.jobId, true, split.1, split.2.1, split.2.2⟩ : ProofSubmitResult))
        (accepted params ctx job world) := rfl
  rw [unfolded]
  have first := moves_chargeFee ctx (verifiedJob params ctx job) (accepted params ctx job world)
  cases charge : chargeFee ctx (verifiedJob params ctx job) (accepted params ctx job world) with
  | mk outcome charged =>
    rw [charge] at first
    cases outcome with
    | error reason =>
      rw [bind_of_error charge]
      exact .inl ⟨reason, charged, rfl, first, .inl rfl⟩
    | ok fee =>
      rw [bind_of_ok charge, read_bind]
      have second := moves_distribute ctx params.prover (verifiedJob params ctx job)
        (charged.staking.calculateFeeSplit fee) charged
      cases payments : distribute ctx params.prover (verifiedJob params ctx job)
          (charged.staking.calculateFeeSplit fee) charged with
      | mk outcome paid =>
        rw [payments] at second
        cases outcome with
        | error reason =>
          rw [bind_of_error payments]
          exact .inl ⟨reason, paid, rfl, first.trans second,
            .inr ⟨fee, charged, rfl, payments⟩⟩
        | ok done =>
          rw [bind_of_ok payments]
          exact .inr ⟨_, fee, charged, paid, rfl, first.trans second, rfl, payments, rfl⟩

/-- A slash leaves the registry and the caller's bank alone, and needs the lock of its own bank. -/
theorem punish_cases (offense : Economy.Offense) (prover : Address) (world : World) :
    punish offense prover world = none ∨
    (∃ outcome after, punish offense prover world = some (outcome, after) ∧
      after.registry = world.registry ∧ after.bank = world.bank ∧
      (world.stakingBank = none → after = world ∧ ∃ reason, outcome = .error reason)) := by
  unfold punish
  split
  · exact .inr ⟨_, world, rfl, rfl, rfl, fun _ => ⟨rfl, _, rfl⟩⟩
  · exact .inl rfl
  · rename_i held
    exact .inr ⟨_, _, rfl, rfl, rfl, fun absent => by rw [absent] at held; cases held⟩

theorem reject_cases (offense : Economy.Offense) (prover : Address) (id : JobId) (job : JobState)
    (reason : SystemContractError) (world : World) :
    reject offense prover id job reason world = none ∨
    ∃ other after, reject offense prover id job reason world = some (.error other, after) ∧
      after.bank = world.bank ∧
      (world.stakingBank = none → after = world) ∧
      (after.registry = world.registry ∨
        after.registry = (world.registry.putJob id job).release) := by
  unfold reject
  obtain stuck | ⟨outcome, slashed, done, registry, bank, held⟩ := punish_cases offense prover world
  · rw [stuck]
    exact .inl rfl
  · rw [done]
    refine .inr ?_
    cases outcome with
    | error other => exact ⟨other, slashed, rfl, bank, fun absent => (held absent).1, .inl registry⟩
    | ok taken =>
      refine ⟨reason, _, rfl, bank, fun absent => ?_, .inr ?_⟩
      · obtain ⟨_, other, impossible⟩ := held absent
        cases impossible
      · rw [← registry]

theorem reject_outcome {registry : JobRegistry} (remembers : Remembers world.registry registry)
    (offense : Economy.Offense) (prover : Address) (id : JobId) (job : JobState)
    (reason : SystemContractError) :
    reject offense prover id job reason { world with registry } = none ∨
    (∃ other after, reject offense prover id job reason { world with registry } =
        some (.error other, after) ∧
      Remembers world.registry after.registry ∧ after.bank = world.bank ∧
      (world.stakingBank = none → after.staking = world.staking ∧ after.stakingBank = none)) ∨
    ∃ other after, reject offense prover id job reason { world with registry } =
        some (.error other, after) ∧ world.stakingBank ≠ none ∧
      after.registry = (registry.putJob id job).release := by
  obtain stuck | ⟨other, after, done, bank, held, written⟩ :=
    reject_cases offense prover id job reason { world with registry }
  · exact .inl stuck
  · by_cases absent : world.stakingBank = none
    · obtain rfl := held absent
      exact .inr (.inl ⟨other, _, done, remembers, rfl, fun _ => ⟨rfl, absent⟩⟩)
    · obtain same | closed := written
      · refine .inr (.inl ⟨other, after, done, ?_, bank, fun held => absurd held absent⟩)
        rw [same]
        exact remembers
      · exact .inr (.inr ⟨other, after, done, absent, closed⟩)

/-- The proof is the assigned prover's, in time, and passes every check. -/
structure Accepts (platform : Platform) (params : SubmitProofParams) (ctx : BlockContext)
    (world : World) (job : JobState) (registry : JobRegistry) : Prop where
  found : world.registry.jobs.lookup params.jobId = some job
  assigned : job.assignedProver = some params.prover
  inTime : job.sla.isExpired ctx.timestamp = false
  allowed : allowProof world.registry.config params.proof job = .ok ()
  verified : verifyProof platform params.proof job world.registry = (.ok true, registry)

theorem Accepts.remembers {params : SubmitProofParams} {ctx : BlockContext}
    {registry : JobRegistry} (accepts : Accepts platform params ctx world job registry) :
    Remembers world.registry registry := by
  have moved := moves_verifyProof platform params.proof job world.registry
  rwa [accepts.verified] at moved

/-- All that a proof can do. -/
theorem submitProof_cases (platform : Platform) (params : SubmitProofParams) (ctx : BlockContext)
    (world : World) :
    submitProof platform params ctx world = none ∨
    (∃ reason after, submitProof platform params ctx world = some (.error reason, after) ∧
      Remembers world.registry after.registry ∧ after.bank = world.bank ∧
      (world.stakingBank = none → after.staking = world.staking ∧ after.stakingBank = none)) ∨
    (∃ job status registry reason after,
      submitProof platform params ctx world = some (.error reason, after) ∧
      world.stakingBank ≠ none ∧ world.registry.jobs.lookup params.jobId = some job ∧
      job.assignedProver = some params.prover ∧
      (status = .Expired ∨ status = .Failed) ∧ Remembers world.registry registry ∧
      after.registry = (registry.putJob params.jobId { job with status }).release) ∨
    ∃ job registry, Accepts platform params ctx world job registry ∧
      submitProof platform params ctx world =
        some (settle params ctx job { world with registry }) := by
  unfold submitProof
  cases found : world.registry.jobs.lookup params.jobId with
  | none => exact .inr (.inl ⟨_, world, rfl, .refl _, rfl, fun absent => ⟨rfl, absent⟩⟩)
  | some job =>
    dsimp only
    split
    · exact .inr (.inl ⟨_, world, rfl, .refl _, rfl, fun absent => ⟨rfl, absent⟩⟩)
    · rename_i assigned
      rw [not_not] at assigned
      split
      · obtain stuck | ⟨reason, after, done, turned⟩ | ⟨reason, after, done, held, closed⟩ :=
          reject_outcome (.refl world.registry) .slaViolation params.prover params.jobId
            { job with status := .Expired }
            (.SlaViolation params.jobId job.sla.deadline ctx.timestamp)
        · exact .inl stuck
        · exact .inr (.inl ⟨reason, after, done, turned⟩)
        · exact .inr (.inr (.inl ⟨job, .Expired, _, reason, after, done, held, rfl, assigned,
            .inl rfl, .refl _, closed⟩))
      · rename_i inTime
        rw [Bool.not_eq_true] at inTime
        split
        · exact .inr (.inl ⟨_, world, rfl, .refl _, rfl, fun absent => ⟨rfl, absent⟩⟩)
        · rename_i allowed
          have remembers := moves_verifyProof platform params.proof job world.registry
          cases checked : verifyProof platform params.proof job world.registry with
          | mk outcome registry =>
            rw [checked] at remembers
            rw [onRegistry_of checked]
            cases outcome with
            | error reason =>
              exact .inr (.inl ⟨reason, _, rfl, remembers, rfl, fun absent => ⟨rfl, absent⟩⟩)
            | ok verified =>
              cases verified with
              | true =>
                exact .inr (.inr (.inr ⟨job, registry,
                  ⟨found, assigned, inTime, allowed, checked⟩, rfl⟩))
              | false =>
                obtain stuck | ⟨reason, after, done, turned⟩ |
                    ⟨reason, after, done, held, closed⟩ :=
                  reject_outcome remembers .invalidProof params.prover params.jobId
                    { job with status := .Failed } (.InvalidProof "Verification failed")
                · exact .inl stuck
                · exact .inr (.inl ⟨reason, after, done, turned⟩)
                · exact .inr (.inr (.inl ⟨job, .Failed, registry, reason, after, done,
                    held, rfl, assigned, .inr rfl, remembers, closed⟩))

def cancellationFee (world : World) (job : JobState) : Nat :=
  mulU128 job.bidAmount world.registry.config.cancellationFeeBps / 10000

/-- All that a cancellation can do. -/
theorem cancelJob_cases (id : JobId) (requester : Address) (world : World) :
    (∃ reason bank, cancelJob id requester world = (.error reason, { world with bank }) ∧
      (bank = world.bank ∨ ∃ job freed, world.registry.jobs.lookup id = some job ∧
        job.requester = requester ∧ job.status.canCancel = true ∧
        unlock requester job.bidAmount world.bank = (.ok (), freed) ∧
        burn requester (world.cancellationFee job) freed = (.error reason, bank))) ∨
    ∃ result job freed bank, world.registry.jobs.lookup id = some job ∧
      job.requester = requester ∧ job.status.canCancel = true ∧
      unlock requester job.bidAmount world.bank = (.ok (), freed) ∧
      (world.cancellationFee job = 0 ∧ bank = freed ∨
        burn requester (world.cancellationFee job) freed = (.ok (), bank)) ∧
      cancelJob id requester world = (.ok result, { world with
        bank
        registry := (world.registry.putJob id { job with status := .Cancelled }).release }) := by
  simp only [cancelJob, read_bind, okOr_bind]
  cases found : world.registry.jobs.lookup id with
  | none => exact .inl ⟨_, world.bank, rfl, .inl rfl⟩
  | some job =>
    simp only [ensure_bind]
    split
    · rename_i owner
      split
      · rename_i allowed
        cases unlocked : unlock requester job.bidAmount world.bank with
        | mk outcome freed =>
          cases outcome with
          | error reason =>
            rw [bind_of_error (onBank_of unlocked)]
            have same := eq_of_unlock_error unlocked
            exact .inl ⟨reason, freed, rfl, .inl same⟩
          | ok done =>
            rw [bind_of_ok (onBank_of unlocked)]
            by_cases charged : world.cancellationFee job > 0
            · simp only [if_pos (show mulU128 job.bidAmount
                world.registry.config.cancellationFeeBps / 10000 > 0 from charged)]
              cases burned : burn requester (world.cancellationFee job) freed with
              | mk outcome bank =>
                have paid : onBank (burn requester (world.cancellationFee job))
                    { world with bank := freed } = (outcome, { world with bank }) :=
                  onBank_of burned
                cases outcome with
                | error reason =>
                  exact .inl ⟨reason, bank, bind_of_error paid,
                    .inr ⟨job, freed, rfl, owner, allowed, unlocked, burned⟩⟩
                | ok done =>
                  exact .inr ⟨_, job, freed, bank, rfl, owner, allowed, unlocked,
                    .inr burned, bind_of_ok paid⟩
            · simp only [if_neg (show ¬mulU128 job.bidAmount
                world.registry.config.cancellationFeeBps / 10000 > 0 from charged)]
              exact .inr ⟨_, job, freed, freed, rfl, owner, allowed, unlocked,
                .inl ⟨Nat.eq_zero_of_not_pos charged, rfl⟩, rfl⟩
      · exact .inl ⟨_, world.bank, rfl, .inl rfl⟩
    · exact .inl ⟨_, world.bank, rfl, .inl rfl⟩

end Vm.World
