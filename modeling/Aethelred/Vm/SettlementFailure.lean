import Aethelred.Vm.Settlement

/- What a settlement that fails leaves behind: the job is marked as verified, and the payments
before the one that failed are made. -/
namespace Vm

open Go Attempt Prod

namespace Bank

variable {bank before after : Bank} {sender receiver address other : Address} {amount : Nat}
  {reason : SystemContractError}

/-- A transfer of the amount succeeds. -/
def CanPay (bank : Bank) (address : Address) (amount : Nat) : Prop :=
  amount ≠ 0 ∧ amount ≤ (bank.account address).available ∧
    ¬(bank.account address).isLocked bank.currentBlock

instance (bank : Bank) (address : Address) (amount : Nat) :
    Decidable (bank.CanPay address amount) := inferInstanceAs (Decidable (_ ∧ _))

theorem not_canPay_of_error
    (failed : transfer sender receiver amount before = (.error reason, after)) :
    ¬before.CanPay sender amount ∧ Unchanged before after := by
  obtain ⟨other, last, fails, same⟩ | ⟨-, -, -, paid⟩ :=
    transfer_cases sender receiver amount before
  · have stopped := fails
    rw [failed] at fails
    obtain ⟨-, rfl⟩ := Prod.mk.inj fails
    refine ⟨fun able => ?_, same⟩
    simp only [transfer, ensure_bind, modify_bind, read_bind, account_put_self] at stopped
    have unlocked : ¬(before.account sender).isLocked
        (before.put sender (before.account sender)).currentBlock := able.2.2
    rw [if_pos able.1, if_pos able.2.1, if_pos unlocked] at stopped
    cases congrArg fst stopped
  · rw [paid] at failed
    cases congrArg fst failed

theorem canPay_of_ok (done : transfer sender receiver amount before = (.ok (), after)) :
    before.CanPay sender amount := by
  obtain ⟨other, last, fails, -⟩ | ⟨positive, funded, free, -⟩ :=
    transfer_cases sender receiver amount before
  · rw [fails] at done
    exact nomatch congrArg fst done
  · exact ⟨positive, funded, free⟩

/-- Whatever comes of a payment, locks stay, and who pays gets nothing. -/
theorem moves_transfer : Moves (fun before after : Bank =>
    (∀ other, after.getLockedBalance other = before.getLockedBalance other) ∧
      after.balanceOf sender ≤ before.balanceOf sender) (transfer sender receiver amount) := by
  intro before
  cases ends : transfer sender receiver amount before with
  | mk outcome after =>
    cases outcome with
    | error reason =>
      have same := (not_canPay_of_error ends).2
      exact ⟨fun other => congrArg AccountState.locked (same.account other),
        Nat.le_of_eq (congrArg AccountState.balance (same.account sender))⟩
    | ok done =>
      have moved := transferred_of_ok ends
      exact ⟨moved.locks, moved.bounded⟩

theorem balanceOf_unlock : Moves (fun before after : Bank =>
    after.balanceOf sender ≤ before.balanceOf sender) (unlock address amount) := by
  intro before
  obtain ⟨reason, failed, -⟩ | ⟨-, freed⟩ := unlock_cases address amount before
  · rw [failed]
  · rw [freed]
    exact Nat.le_of_eq ((unlocked_of_ok freed).balances sender)

end Bank

namespace World

variable {platform : Platform} {params : SubmitProofParams} {ctx : BlockContext}
  {world after : World} {job : JobState} {registry : JobRegistry} {reason : SystemContractError}

theorem moves_onBank_of {α : Type} {R : Bank → Bank → Prop} {call : Bank.Call α}
    (moves : Moves R call) :
    Moves (fun before after : World => R before.bank after.bank) (onBank call) :=
  fun world => moves world.bank

theorem onBank_eq_error {α : Type} {call : Bank.Call α}
    (failed : onBank call world = (.error reason, after)) :
    call world.bank = (.error reason, after.bank) := by
  change ((call world.bank).1, { world with bank := (call world.bank).2 }) = (.error reason, after)
    at failed
  obtain ⟨outcome, rfl⟩ := Prod.mk.inj failed
  exact Prod.ext outcome rfl

def payOut (ctx : BlockContext) (prover : Address) (job : JobState) (split : Nat × Nat × Nat) :
    Call Unit := do
  onBank (Bank.transfer job.requester prover split.1)
  onBank (Bank.transfer job.requester ctx.proposer split.2.1)
  onBank (Bank.burn job.requester split.2.2)

theorem distribute_eq (ctx : BlockContext) (prover : Address) (job : JobState)
    (split : Nat × Nat × Nat) : distribute ctx prover job split =
      (onBank (Bank.unlock job.requester job.bidAmount) >>= fun _ =>
        payOut ctx prover job split) := rfl

theorem moves_payOut (ctx : BlockContext) (prover : Address) (job : JobState)
    (split : Nat × Nat × Nat) : Moves (fun before after : World =>
      (∀ other, after.bank.getLockedBalance other = before.bank.getLockedBalance other) ∧
        after.bank.balanceOf job.requester ≤ before.bank.balanceOf job.requester)
      (payOut ctx prover job split) := by
  have trans : ∀ {a b c : World},
      (∀ other, b.bank.getLockedBalance other = a.bank.getLockedBalance other) ∧
        b.bank.balanceOf job.requester ≤ a.bank.balanceOf job.requester →
      (∀ other, c.bank.getLockedBalance other = b.bank.getLockedBalance other) ∧
        c.bank.balanceOf job.requester ≤ b.bank.balanceOf job.requester →
      (∀ other, c.bank.getLockedBalance other = a.bank.getLockedBalance other) ∧
        c.bank.balanceOf job.requester ≤ a.bank.balanceOf job.requester :=
    fun first second => ⟨fun other => (second.1 other).trans (first.1 other),
      second.2.trans first.2⟩
  unfold payOut
  refine .bind trans (moves_onBank_of Bank.moves_transfer) fun _ => ?_
  refine .bind trans (moves_onBank_of Bank.moves_transfer) fun _ => ?_
  exact moves_onBank_of Bank.moves_transfer

/-- Nothing has changed for the job or in the bank, and the proof passes verification again. -/
structure Undone (platform : Platform) (params : SubmitProofParams) (world after : World) :
    Prop where
  record : after.registry.jobs.lookup params.jobId = world.registry.jobs.lookup params.jobId
  active : after.registry.activeJobs = world.registry.activeJobs
  balances : ∀ address, after.bank.balanceOf address = world.bank.balanceOf address
  locks : ∀ address, after.bank.getLockedBalance address = world.bank.getLockedBalance address
  again : ∃ job, after.registry.jobs.lookup params.jobId = some job ∧
    (JobRegistry.verifyProof platform params.proof job after.registry).1 = .ok true

/-- The job carries the marks of this very proof already, the first payment is the one that fails,
and the proof has no attestation. -/
structure Harmless (params : SubmitProofParams) (ctx : BlockContext) (world : World)
    (job : JobState) : Prop where
  marked : job.status = .Verified ∧ job.outputHash = some params.proof.outputHash ∧
    job.proofSubmittedAt = some ctx.timestamp ∧ job.verifiedAt = some ctx.timestamp ∧
    job.result = some params.result
  late : job.sla.isLate ctx.timestamp = true →
    ¬world.bank.CanPay job.requester (job.sla.latePenalty job.bidAmount)
  inTime : job.sla.isLate ctx.timestamp = false →
    job.bidAmount = 0 ∨ world.bank.getLockedBalance job.requester < job.bidAmount
  method : params.proof.method = .ZkProof ∨ params.proof.method = .ReExecution

theorem Accepts.submitProof_eq (accepts : Accepts platform params ctx world job registry) :
    submitProof platform params ctx world =
      some (settle params ctx job { world with registry }) := by
  unfold submitProof
  rw [accepts.found]
  dsimp only
  rw [if_neg (not_not.mpr accepts.assigned), if_neg (by rw [accepts.inTime]; exact nofun),
    accepts.allowed, onRegistry_of accepts.verified]

theorem verifiedJob_eq_iff : verifiedJob params ctx job = job ↔
    job.status = .Verified ∧ job.outputHash = some params.proof.outputHash ∧
      job.proofSubmittedAt = some ctx.timestamp ∧ job.verifiedAt = some ctx.timestamp ∧
      job.result = some params.result := by
  constructor
  · intro same
    rw [← same]
    exact ⟨rfl, rfl, rfl, rfl, rfl⟩
  · rintro ⟨status, outputHash, submitted, verified, result⟩
    cases job
    simp only at status outputHash submitted verified result
    subst status outputHash submitted verified result
    rfl

theorem chargeFee_eq_error (failed : chargeFee ctx job world = (.error reason, after)) :
    job.sla.isLate ctx.timestamp = true ∧
      ¬world.bank.CanPay job.requester (job.sla.latePenalty job.bidAmount) ∧
      Bank.Unchanged world.bank after.bank := by
  unfold chargeFee at failed
  split at failed
  next late =>
    dsimp only at failed
    cases burned : onBank (Bank.burn job.requester (job.sla.latePenalty job.bidAmount)) world with
    | mk outcome between =>
      cases outcome with
      | error other =>
        rw [bind_of_error burned] at failed
        obtain ⟨-, rfl⟩ := Prod.mk.inj failed
        have stopped := Bank.not_canPay_of_error (onBank_eq_error burned)
        exact ⟨late, stopped.1, stopped.2⟩
      | ok done =>
        rw [bind_of_ok burned] at failed
        exact nomatch congrArg fst failed
  next => exact nomatch congrArg fst failed

theorem chargeFee_late {fee : Nat} (late : job.sla.isLate ctx.timestamp = true)
    (done : chargeFee ctx job world = (.ok fee, after)) :
    world.bank.CanPay job.requester (job.sla.latePenalty job.bidAmount) ∧
      after.bank.balanceOf job.requester < world.bank.balanceOf job.requester := by
  unfold chargeFee at done
  rw [if_pos late] at done
  obtain ⟨_, between, burned, done⟩ := of_bind_ok done
  obtain rfl := (Prod.mk.inj done).2
  have paid := onBank_eq_ok burned
  have moved := Bank.transferred_of_ok paid
  have spent := moved.spent (.inr rfl)
  have positive := moved.positive
  exact ⟨Bank.canPay_of_ok paid, by omega⟩

theorem moves_distribute_le (ctx : BlockContext) (prover : Address) (job : JobState)
    (split : Nat × Nat × Nat) : Moves (fun before after : World =>
      after.bank.balanceOf job.requester ≤ before.bank.balanceOf job.requester)
      (distribute ctx prover job split) := by
  rw [distribute_eq]
  refine .bind (fun first second => Nat.le_trans second first)
    (moves_onBank_of Bank.balanceOf_unlock) fun _ => ?_
  exact fun world => (moves_payOut ctx prover job split world).2

theorem payOut_nothing {prover : Address} {split : Nat × Nat × Nat} (nothing : split.1 = 0) :
    payOut ctx prover job split world =
      (.error (.InvalidAmount "Amount must be > 0"), world) := by
  have stopped : Bank.transfer job.requester prover split.1 world.bank =
      (.error (.InvalidAmount "Amount must be > 0"), world.bank) := by
    rw [nothing]
    rfl
  have failed := onBank_of stopped
  exact bind_of_error failed

/-- Balances and locked amounts are as before. -/
def SameFunds (before after : Bank) : Prop :=
  (∀ address, after.balanceOf address = before.balanceOf address) ∧
    ∀ address, after.getLockedBalance address = before.getLockedBalance address

theorem sameFunds_of_unchanged {before after : Bank} (same : Bank.Unchanged before after) :
    SameFunds before after :=
  ⟨fun address => congrArg AccountState.balance (same.account address),
    fun address => congrArg AccountState.locked (same.account address)⟩

/-- A failed distribution keeps the funds exactly if it failed at its start. -/
theorem distribute_error_iff {prover : Address} {split : Nat × Nat × Nat}
    (failed : distribute ctx prover job split world = (.error reason, after))
    (nothing : job.bidAmount = 0 → split.1 = 0) :
    SameFunds world.bank after.bank ↔
      job.bidAmount = 0 ∨ world.bank.getLockedBalance job.requester < job.bidAmount := by
  rw [distribute_eq] at failed
  cases unlocked : onBank (Bank.unlock job.requester job.bidAmount) world with
  | mk outcome between =>
    cases outcome with
    | error other =>
      rw [bind_of_error unlocked] at failed
      obtain ⟨-, rfl⟩ := Prod.mk.inj failed
      have refused := onBank_eq_error unlocked
      have same := Bank.eq_of_unlock_error refused
      refine iff_of_true (same ▸ ⟨fun _ => rfl, fun _ => rfl⟩) ?_
      obtain ⟨-, -, absent | short⟩ | ⟨-, freed⟩ :=
        Bank.unlock_cases job.requester job.bidAmount world.bank
      · rw [Bank.getLockedBalance_of_lookup absent]
        exact Nat.eq_zero_or_pos _
      · exact .inr short
      · rw [refused] at freed
        exact nomatch congrArg fst freed
    | ok done =>
      have freed := Bank.unlocked_of_ok (onBank_eq_ok unlocked)
      rw [bind_of_ok unlocked] at failed
      by_cases empty : job.bidAmount = 0
      · rw [payOut_nothing (nothing empty)] at failed
        obtain ⟨-, rfl⟩ := Prod.mk.inj failed
        refine iff_of_true ⟨freed.balances, fun address => ?_⟩ (.inl empty)
        by_cases own : address = job.requester
        · have sum := freed.freed
          rw [own]
          omega
        · exact freed.others address own
      · have kept := (moves_payOut ctx prover job split).of_eq failed
        have sum := freed.freed
        refine iff_of_false (fun same => ?_) fun either => ?_
        · have equal := same.2 job.requester
          have later := kept.1 job.requester
          omega
        · have short := either.resolve_left empty
          omega

/-- When a failed settlement keeps the funds. -/
theorem settle_error_bank_iff (failed : settle params ctx job world = (.error reason, after)) :
    SameFunds world.bank after.bank ↔
      (job.sla.isLate ctx.timestamp = true →
        ¬world.bank.CanPay job.requester (job.sla.latePenalty job.bidAmount)) ∧
      (job.sla.isLate ctx.timestamp = false →
        job.bidAmount = 0 ∨ world.bank.getLockedBalance job.requester < job.bidAmount) := by
  obtain ⟨other, last, fails, -, stage⟩ | ⟨_, _, _, _, done, -⟩ := settle_cases params ctx job world
  · rw [failed] at fails
    obtain ⟨rfl, rfl⟩ : reason = other ∧ after = last := by
      obtain ⟨first, second⟩ := Prod.mk.inj fails
      exact ⟨Except.error.inj first, second⟩
    obtain stopped | ⟨fee, charged, charges, stopped⟩ := stage
    · obtain ⟨late, cannot, same⟩ := chargeFee_eq_error stopped
      exact iff_of_true (sameFunds_of_unchanged same) ⟨fun _ => cannot, fun inTime =>
        absurd (late.symm.trans inTime) Bool.true_eq_false.mp⟩
    · obtain ⟨fee_eq, -, before⟩ := chargeFee_eq_ok charges
      cases late : job.sla.isLate ctx.timestamp with
      | true =>
        obtain ⟨able, less⟩ := chargeFee_late late charges
        have least := (moves_distribute_le ctx params.prover (verifiedJob params ctx job)
          (charged.staking.calculateFeeSplit fee)).of_eq stopped
        refine iff_of_false (fun same => ?_) fun first => first.1 rfl able
        have equal := same.1 job.requester
        exact absurd (Nat.lt_of_le_of_lt least less) (Nat.not_lt.mpr (Nat.le_of_eq equal.symm))
      | false =>
        have none : penalty ctx (verifiedJob params ctx job) = 0 :=
          if_neg (ne_true_of_eq_false late)
        have bank : charged.bank = world.bank := by
          obtain ⟨-, same⟩ | paid := before
          · exact same
          · exact absurd none paid.positive
        have split : job.bidAmount = 0 → (charged.staking.calculateFeeSplit fee).1 = 0 := by
          intro empty
          have bid : (verifiedJob params ctx job).bidAmount = 0 := empty
          rw [fee_eq, bid, Nat.zero_sub]
          rfl
        have stage := distribute_error_iff stopped split
        rw [bank] at stage
        exact stage.trans ⟨fun either => ⟨nofun, fun _ => either⟩, fun both => both.2 rfl⟩
  · rw [failed] at done
    exact nomatch congrArg fst done

section Again

open JobRegistry

theorem verifyTeeAttestation_eq_ok {attestation : TeeAttestation} {before last : JobRegistry}
    {valid : Bool}
    (done : verifyTeeAttestation platform attestation job before = (.ok valid, last)) :
    platform.sha256 attestation.attestation ∉ before.seenAttestationHashes ∧
      platform.sha256 attestation.attestation ∈ last.seenAttestationHashes := by
  obtain ⟨reason, refused⟩ | ⟨fresh, passed⟩ :=
    verifyTeeAttestation_cases platform attestation job before
  · exact nomatch congrArg fst (refused.symm.trans done)
  · obtain rfl := congrArg snd (passed.symm.trans done)
    exact ⟨fresh, List.mem_cons_self⟩

/-- Which proofs verify a second time. -/
theorem verifyProof_again_iff {proof : Proof} {before last : JobRegistry}
    (passed : verifyProof platform proof job before = (.ok true, last)) (id : JobId) :
    (verifyProof platform proof job (last.putJob id job)).1 = .ok true ↔
      proof.method = .ZkProof ∨ proof.method = .ReExecution := by
  unfold verifyProof at passed ⊢
  cases method : proof.method with
  | TeeAttestation =>
    rw [method] at passed
    refine iff_of_false (fun again => ?_) (by simp)
    cases present : proof.teeAttestation with
    | none =>
      rw [present] at passed
      exact nomatch congrArg fst passed
    | some attestation =>
      rw [present] at passed again
      have seen := (verifyTeeAttestation_eq_ok passed).2
      exact (verifyTeeAttestation_eq_ok (Prod.ext again rfl)).1 seen
  | ZkProof =>
    rw [method] at passed
    refine iff_of_true ?_ (.inl rfl)
    cases present : proof.zkProof with
    | none =>
      rw [present] at passed
      exact nomatch congrArg fst passed
    | some zkProof =>
      rw [present] at passed
      obtain ⟨valid, rfl⟩ := Prod.mk.inj passed
      exact valid
  | Hybrid =>
    rw [method] at passed
    refine iff_of_false (fun again => ?_) (by simp)
    cases present : proof.teeAttestation with
    | none =>
      rw [present] at passed
      exact nomatch congrArg fst passed
    | some attestation =>
      cases other : proof.zkProof with
      | none =>
        rw [present, other] at passed
        exact nomatch congrArg fst passed
      | some zkProof =>
        rw [present, other] at passed again
        simp only [okOr_bind] at passed again
        obtain ⟨_, between, first, passed⟩ := of_bind_ok passed
        obtain ⟨_, same, consulted, passed⟩ := of_bind_ok passed
        obtain rfl := (Prod.mk.inj consulted).2
        obtain rfl := (Prod.mk.inj passed).2
        have seen := (verifyTeeAttestation_eq_ok first).2
        obtain ⟨_, _, second, _⟩ := of_bind_ok (Prod.ext again rfl)
        exact (verifyTeeAttestation_eq_ok second).1 seen
  | ReExecution =>
    rw [method] at passed
    exact iff_of_true (congrArg fst passed) (.inr rfl)

/-- A settlement that fails leaves everything as it was if and only if the job was marked with the
same proof before, and nothing could be paid at all. -/
theorem submitProof_undone_iff (accepts : Accepts platform params ctx world job registry)
    (failed : submitProof platform params ctx world = some (.error reason, after)) :
    Undone platform params world after ↔ Harmless params ctx world job := by
  rw [accepts.submitProof_eq, Option.some.injEq] at failed
  have funds := settle_error_bank_iff failed
  have written : after.registry = registry.putJob params.jobId (verifiedJob params ctx job) := by
    obtain ⟨other, last, fails, same, -⟩ | ⟨_, _, _, _, done, -⟩ :=
      settle_cases params ctx job { world with registry }
    · rw [failed] at fails
      obtain rfl := (Prod.mk.inj fails).2
      exact same.registry
    · rw [failed] at done
      exact nomatch congrArg fst done
  have record : after.registry.jobs.lookup params.jobId = some (verifiedJob params ctx job) := by
    rw [written]
    exact AList.lookup_insert _
  obtain ⟨seen, remembered⟩ := accepts.remembers
  have active : after.registry.activeJobs = world.registry.activeJobs := by
    rw [written, remembered]
    rfl
  constructor
  · intro undone
    have same : verifiedJob params ctx job = job := by
      have equal := undone.record
      rw [record, accepts.found] at equal
      exact Option.some.inj equal
    obtain ⟨late, inTime⟩ := funds.mp ⟨undone.balances, undone.locks⟩
    refine ⟨verifiedJob_eq_iff.mp same, late, inTime, ?_⟩
    obtain ⟨other, present, again⟩ := undone.again
    rw [record, same] at present
    obtain rfl := Option.some.inj present
    rw [written, same] at again
    exact (verifyProof_again_iff accepts.verified params.jobId).mp again
  · intro harmless
    have same := verifiedJob_eq_iff.mpr harmless.marked
    have kept := funds.mpr ⟨harmless.late, harmless.inTime⟩
    rw [same] at record
    refine ⟨record.trans accepts.found.symm, active, kept.1, kept.2, job, record, ?_⟩
    rw [written, same]
    exact (verifyProof_again_iff accepts.verified params.jobId).mpr harmless.method

end Again

/-- A late proof where lateness costs nothing was sent once, and is sent again in the same block. -/
def refusedOnce : World :=
  step localPlatform (assignedWorld .devnet Economy.fundedBank 1000)
    (.submitProof localProof { localContext with timestamp := 1125 })

theorem submitProof_undone_again :
    ∃ reason after, submitProof localPlatform localProof { localContext with timestamp := 1125 }
        refusedOnce = some (.error reason, after) ∧
      Undone localPlatform localProof refusedOnce after := by
  obtain ⟨after, failed⟩ := exists_after (show (submitProof localPlatform localProof
    { localContext with timestamp := 1125 } refusedOnce).map (·.1) =
      some (.error (.InvalidAmount "Amount must be > 0")) by decide +kernel)
  have accepts : Accepts localPlatform localProof { localContext with timestamp := 1125 }
      refusedOnce (verifiedJob localProof { localContext with timestamp := 1125 }
        (assignedJob .devnet 1000)) refusedOnce.registry :=
    ⟨by decide +kernel, by decide, by decide, by decide +kernel, rfl⟩
  refine ⟨_, after, failed, (submitProof_undone_iff accepts failed).mpr ?_⟩
  exact ⟨by decide, fun _ => by decide +kernel, nofun, .inr rfl⟩

/-- A bid so small that nothing of it is burned is paid out, and the job is not settled. -/
theorem smallBid_not_undone :
    ∃ after, Accepts localPlatform localProof localContext
        (assignedWorld .devnet Economy.fundedBank 10) (assignedJob .devnet 10)
        (assignedWorld .devnet Economy.fundedBank 10).registry ∧
      submitProof localPlatform localProof localContext
        (assignedWorld .devnet Economy.fundedBank 10) =
          some (.error (.InvalidAmount "Amount must be > 0"), after) ∧
      ¬Undone localPlatform localProof (assignedWorld .devnet Economy.fundedBank 10) after := by
  obtain ⟨after, failed⟩ := exists_after (show (submitProof localPlatform localProof localContext
    (assignedWorld .devnet Economy.fundedBank 10)).map (·.1) =
      some (.error (.InvalidAmount "Amount must be > 0")) by decide +kernel)
  have paid : (submitProof localPlatform localProof localContext
      (assignedWorld .devnet Economy.fundedBank 10)).map (·.2.bank.balanceOf 2) = some 7 := by
    decide +kernel
  rw [failed] at paid
  refine ⟨after, ⟨by decide +kernel, by decide, by decide, by decide +kernel, rfl⟩, failed,
    fun undone => ?_⟩
  have before : (assignedWorld .devnet Economy.fundedBank 10).bank.balanceOf 2 = 0 := by
    decide +kernel
  have same := undone.balances 2
  rw [before] at same
  exact absurd ((Option.some.inj paid).symm.trans same) (by decide)

end World

end Vm
