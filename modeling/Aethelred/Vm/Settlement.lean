import Aethelred.Vm.JobRun

/- What a settlement pays to whom, and what one that fails leaves behind. -/
namespace Vm

open Go Attempt Nat Prod

namespace Bank

variable {bank before after : Bank} {sender receiver address other : Address} {amount : Nat}

theorem balanceOf_debit : (bank.debit sender amount).balanceOf other =
    if other = sender then bank.balanceOf sender - amount else bank.balanceOf other := by
  simp only [debit, balanceOf, account_put]
  split <;> rfl

theorem balanceOf_credit : (bank.credit receiver amount).balanceOf other =
    if other = receiver then saturatingAdd (bank.balanceOf receiver) amount
    else bank.balanceOf other := by
  simp only [credit, balanceOf, account_put]
  split <;> rfl

theorem getLockedBalance_debit :
    (bank.debit sender amount).getLockedBalance other = bank.getLockedBalance other := by
  simp only [debit, getLockedBalance, account_put]
  split
  next same => rw [same]
  · rfl

theorem getLockedBalance_credit :
    (bank.credit receiver amount).getLockedBalance other = bank.getLockedBalance other := by
  simp only [credit, getLockedBalance, account_put]
  split
  next same => rw [same]
  · rfl

/-- What a payment takes and gives. A payment to the burn address gives nothing. -/
structure Transferred (sender receiver : Address) (amount : Nat) (before after : Bank) : Prop where
  positive : amount ≠ 0
  funded : amount ≤ before.balanceOf sender
  locks : ∀ other, after.getLockedBalance other = before.getLockedBalance other
  others : ∀ other, other ≠ sender → other ≠ receiver →
    after.balanceOf other = before.balanceOf other
  received : receiver ≠ sender → after.balanceOf receiver =
    if receiver = BURN_ADDRESS then before.balanceOf receiver
    else saturatingAdd (before.balanceOf receiver) amount
  spent : receiver ≠ sender ∨ receiver = BURN_ADDRESS →
    after.balanceOf sender + amount = before.balanceOf sender
  bounded : after.balanceOf sender ≤ before.balanceOf sender

/-- All that a transfer does. -/
theorem transferred_of_ok (done : transfer sender receiver amount before = (.ok (), after)) :
    Transferred sender receiver amount before after := by
  obtain ⟨reason, last, failed, -⟩ | ⟨positive, available, -, paid⟩ :=
    transfer_cases sender receiver amount before
  · rw [failed] at done
    cases done
  · rw [paid] at done
    obtain rfl := (Prod.mk.inj done).2
    have same : Unchanged before (before.put sender (before.account sender)) := unchanged_open
    have balances : ∀ other, (before.put sender (before.account sender)).balanceOf other =
        before.balanceOf other := fun other => congrArg AccountState.balance (same.account other)
    have locks : ∀ other, (before.put sender (before.account sender)).getLockedBalance other =
        before.getLockedBalance other :=
      fun other => congrArg AccountState.locked (same.account other)
    have funded : amount ≤ before.balanceOf sender := available.trans (sub_le _ _)
    generalize before.put sender (before.account sender) = opened at balances locks
    unfold Bank.paid
    by_cases burned : receiver = BURN_ADDRESS
    · rw [if_pos burned]
      have left := @balanceOf_debit opened sender sender amount
      rw [if_pos rfl, balances] at left
      have kept : ((opened.debit sender amount).destroy amount).balanceOf sender =
          before.balanceOf sender - amount := left
      refine ⟨positive, funded, ?_, ?_, ?_, ?_, ?_⟩
      · intro other
        exact getLockedBalance_debit.trans (locks other)
      · intro other notSender _
        refine balanceOf_debit.trans ?_
        rw [if_neg notSender, balances]
      · intro differ
        refine balanceOf_debit.trans ?_
        rw [if_neg differ, if_pos burned, balances]
      · intro _
        omega
      · omega
    · rw [if_neg burned]
      refine ⟨positive, funded, ?_, ?_, ?_, ?_, ?_⟩
      · intro other
        rw [getLockedBalance_credit, getLockedBalance_debit, locks]
      · intro other notSender notReceiver
        rw [balanceOf_credit, if_neg notReceiver, balanceOf_debit, if_neg notSender, balances]
      · intro differ
        rw [balanceOf_credit, if_pos rfl, balanceOf_debit, if_neg differ, if_neg burned, balances]
      · intro either
        have differ := either.resolve_right burned
        rw [balanceOf_credit, if_neg (Ne.symm differ), balanceOf_debit, if_pos rfl, balances]
        omega
      · rw [balanceOf_credit]
        split
        next same =>
          subst same
          have sum := saturatingAdd_le (before.balanceOf sender - amount) amount
          rw [balanceOf_debit, if_pos rfl, balances]
          omega
        · rw [balanceOf_debit, if_pos rfl, balances]
          exact sub_le _ _

theorem Transferred.burned_others (burned : Transferred sender BURN_ADDRESS amount before after)
    (differ : other ≠ sender) : after.balanceOf other = before.balanceOf other := by
  by_cases ash : other = BURN_ADDRESS
  · subst ash
    rw [burned.received differ, if_pos rfl]
  · exact burned.others other differ ash

/-- The amount is free again, all balances are as before. -/
structure Unlocked (address : Address) (amount : Nat) (before after : Bank) : Prop where
  freed : after.getLockedBalance address + amount = before.getLockedBalance address
  others : ∀ other, other ≠ address →
    after.getLockedBalance other = before.getLockedBalance other
  balances : ∀ other, after.balanceOf other = before.balanceOf other

theorem unlocked_of_ok (done : unlock address amount before = (.ok (), after)) :
    Unlocked address amount before after := by
  obtain ⟨reason, failed, -⟩ | ⟨enough, freed⟩ := unlock_cases address amount before
  · rw [failed] at done
    cases done
  · rw [freed] at done
    obtain rfl := (Prod.mk.inj done).2
    refine ⟨?_, fun other differ => ?_, fun other => ?_⟩
    · simp only [getLockedBalance, account_put_self, saturatingSub]
      omega
    · simp only [getLockedBalance, account_put_of_ne differ]
    · simp only [balanceOf, account_put]
      split
      next same => rw [same]
      · rfl

end Bank

namespace World

variable {platform : Platform} {params : SubmitProofParams} {ctx : BlockContext}
  {world after : World} {job : JobState}

theorem onBank_eq_ok {α : Type} {call : Bank.Call α} {value : α}
    (done : onBank call world = (.ok value, after)) :
    call world.bank = (.ok value, after.bank) := by
  change ((call world.bank).1, { world with bank := (call world.bank).2 }) = (.ok value, after)
    at done
  obtain ⟨outcome, rfl⟩ := Prod.mk.inj done
  exact Prod.ext outcome rfl

theorem distribute_eq_ok {prover : Address} {split : Nat × Nat × Nat}
    (done : distribute ctx prover job split world = (.ok (), after)) :
    ∃ freed paid shared, Bank.Unlocked job.requester job.bidAmount world.bank freed ∧
      Bank.Transferred job.requester prover split.1 freed paid ∧
      Bank.Transferred job.requester ctx.proposer split.2.1 paid shared ∧
      Bank.Transferred job.requester BURN_ADDRESS split.2.2 shared after.bank := by
  obtain ⟨_, first, unlocked, done⟩ := of_bind_ok done
  obtain ⟨_, second, toProver, done⟩ := of_bind_ok done
  obtain ⟨_, third, toProposer, burned⟩ := of_bind_ok done
  exact ⟨first.bank, second.bank, third.bank, Bank.unlocked_of_ok (onBank_eq_ok unlocked),
    Bank.transferred_of_ok (onBank_eq_ok toProver),
    Bank.transferred_of_ok (onBank_eq_ok toProposer), Bank.transferred_of_ok (onBank_eq_ok burned)⟩

def penalty (ctx : BlockContext) (job : JobState) : Nat :=
  if job.sla.isLate ctx.timestamp then job.sla.latePenalty job.bidAmount else 0

theorem chargeFee_eq_ok {fee : Nat} (done : chargeFee ctx job world = (.ok fee, after)) :
    fee = job.bidAmount - penalty ctx job ∧ after.staking = world.staking ∧
      (job.sla.isLate ctx.timestamp = false ∧ after.bank = world.bank ∨
        Bank.Transferred job.requester BURN_ADDRESS (penalty ctx job) world.bank after.bank) := by
  have same := (moves_chargeFee ctx job).of_eq done
  refine ⟨?_, same.staking, ?_⟩ <;> unfold chargeFee at done <;> unfold penalty
  · split at done
    next late =>
      obtain ⟨_, between, _, done⟩ := of_bind_ok done
      rw [if_pos late]
      exact (Except.ok.inj (Prod.mk.inj done).1).symm
    next inTime =>
      rw [if_neg inTime]
      exact (Except.ok.inj (Prod.mk.inj done).1).symm
  · split at done
    next late =>
      obtain ⟨_, between, burned, done⟩ := of_bind_ok done
      obtain rfl := (Prod.mk.inj done).2
      rw [if_pos late]
      exact .inr (Bank.transferred_of_ok (onBank_eq_ok burned))
    next inTime =>
      obtain rfl := (Prod.mk.inj done).2
      exact .inl ⟨Bool.eq_false_of_not_eq_true inTime, rfl⟩

variable {result : ProofSubmitResult}

/-- The payments an accepted proof makes. -/
theorem submitProof_eq_ok (done : submitProof platform params ctx world = some (.ok result, after))
    (found : world.registry.jobs.lookup params.jobId = some job) :
    ∃ charged freed paid shared,
      (job.sla.isLate ctx.timestamp = false ∧ charged = world.bank ∨
        Bank.Transferred job.requester BURN_ADDRESS (penalty ctx job) world.bank charged) ∧
      Bank.Unlocked job.requester job.bidAmount charged freed ∧
      Bank.Transferred job.requester params.prover result.proverReward freed paid ∧
      Bank.Transferred job.requester ctx.proposer result.validatorReward paid shared ∧
      Bank.Transferred job.requester BURN_ADDRESS result.burned shared after.bank ∧
      (result.proverReward, result.validatorReward, result.burned) =
        world.staking.calculateFeeSplit (job.bidAmount - penalty ctx job) := by
  obtain stuck | ⟨reason, last, turned, -⟩ | ⟨_, _, _, reason, last, closed, -⟩ |
    ⟨other, registry, accepts, settled⟩ := submitProof_cases platform params ctx world
  · rw [stuck] at done
    cases done
  · rw [turned] at done
    cases done
  · rw [closed] at done
    cases done
  · have same := accepts.found
    rw [found] at same
    obtain rfl := Option.some.inj same
    rw [settled] at done
    obtain ⟨reason, last, failed, -⟩ | ⟨answer, fee, charged, paid, settles, -, charges,
      distributes, answered⟩ := settle_cases params ctx job { world with registry }
    · rw [failed] at done
      cases done
    · rw [settles] at done
      obtain ⟨returned, rfl⟩ := Prod.mk.inj (Option.some.inj done)
      obtain rfl := Except.ok.inj returned
      obtain ⟨fee_eq, staking, before⟩ := chargeFee_eq_ok charges
      obtain ⟨freed, first, second, unlocked, toProver, toProposer, burned⟩ :=
        distribute_eq_ok distributes
      subst answered
      have split : charged.staking.calculateFeeSplit fee =
          world.staking.calculateFeeSplit (job.bidAmount - penalty ctx job) := by
        rw [fee_eq, staking]
        rfl
      exact ⟨charged.bank, freed, first, second, before, unlocked, toProver, toProposer, burned,
        split⟩

def exactPenalty (ctx : BlockContext) (job : JobState) : Nat :=
  if job.sla.isLate ctx.timestamp then job.bidAmount * job.sla.latePenaltyBps / 10000 else 0

def exactFee (ctx : BlockContext) (job : JobState) : Nat := job.bidAmount - exactPenalty ctx job

def exactShare (ctx : BlockContext) (job : JobState) : Nat := exactFee ctx job * 70 / 100

def exactBurn (staking : StakingManager) (ctx : BlockContext) (job : JobState) : Nat :=
  exactFee ctx job * staking.currentBurnRateBps / 10000

/-- The bid has left the requester's balance and lock, and was paid out without a rest, in the parts
that the rates ask for. -/
structure SettledExactly (params : SubmitProofParams) (ctx : BlockContext) (job : JobState)
    (world : World) (result : ProofSubmitResult) (after : World) : Prop where
  balance : after.bank.balanceOf job.requester + job.bidAmount =
    world.bank.balanceOf job.requester
  locked : after.bank.getLockedBalance job.requester + job.bidAmount =
    world.bank.getLockedBalance job.requester
  prover : after.bank.balanceOf params.prover =
    world.bank.balanceOf params.prover + result.proverReward
  validator : after.bank.balanceOf ctx.proposer =
    world.bank.balanceOf ctx.proposer + result.validatorReward
  sum : penalty ctx job + result.proverReward + result.validatorReward + result.burned =
    job.bidAmount
  penalized : penalty ctx job = exactPenalty ctx job
  share : result.proverReward = exactShare ctx job
  burned : result.burned = exactBurn world.staking ctx job

/-- The products of the fee fit a `u128`, and so do the balances of the prover and the proposer with
their rewards. -/
structure Representable (params : SubmitProofParams) (ctx : BlockContext) (job : JobState)
    (world : World) : Prop where
  penalty : job.sla.isLate ctx.timestamp → job.bidAmount * job.sla.latePenaltyBps < 2 ^ 128
  share : exactFee ctx job * 70 < 2 ^ 128
  burned : exactFee ctx job * world.staking.currentBurnRateBps < 2 ^ 128
  prover : params.prover ≠ BURN_ADDRESS ∧
    world.bank.balanceOf params.prover + exactShare ctx job ≤ MAX_U128
  proposer : ctx.proposer ≠ BURN_ADDRESS ∧
    world.bank.balanceOf ctx.proposer + (exactFee ctx job - exactShare ctx job -
      exactBurn world.staking ctx job) ≤ MAX_U128

theorem fits_of_mulU128_div {a b divisor : Nat} (positive : 0 < divisor) (small : divisor ≤ 2 ^ 128)
    (same : mulU128 a b / divisor = a * b / divisor) : a * b < 2 ^ 128 := by
  by_contra large
  unfold mulU128 at same
  generalize a * b = product at same large
  have rounds : 1 ≤ product / 2 ^ 128 := Nat.div_pos (Nat.le_of_not_lt large) (by decide)
  have least : product % 2 ^ 128 + divisor ≤ product := by omega
  have more := Nat.div_le_div_right (c := divisor) least
  rw [add_div_right _ positive] at more
  omega

/-- What a settlement pays, whether or not something overflows. -/
structure Payout (params : SubmitProofParams) (ctx : BlockContext) (job : JobState)
    (world : World) (result : ProofSubmitResult) (after : World) : Prop where
  balance : after.bank.balanceOf job.requester + job.bidAmount =
    world.bank.balanceOf job.requester
  locked : after.bank.getLockedBalance job.requester + job.bidAmount =
    world.bank.getLockedBalance job.requester
  prover : after.bank.balanceOf params.prover = if params.prover = BURN_ADDRESS
    then world.bank.balanceOf params.prover
    else saturatingAdd (world.bank.balanceOf params.prover) result.proverReward
  proposer : after.bank.balanceOf ctx.proposer = if ctx.proposer = BURN_ADDRESS
    then world.bank.balanceOf ctx.proposer
    else saturatingAdd (world.bank.balanceOf ctx.proposer) result.validatorReward
  positive : result.proverReward ≠ 0 ∧ result.validatorReward ≠ 0
  sum : penalty ctx job + result.proverReward + result.validatorReward + result.burned =
    job.bidAmount
  split : (result.proverReward, result.validatorReward, result.burned) =
    world.staking.calculateFeeSplit (job.bidAmount - penalty ctx job)

/-- What they come to, for parties that are apart. -/
theorem submitProof_payout (done : submitProof platform params ctx world = some (.ok result, after))
    (found : world.registry.jobs.lookup params.jobId = some job)
    (notProver : job.requester ≠ params.prover) (notProposer : job.requester ≠ ctx.proposer)
    (apart : params.prover ≠ ctx.proposer) : Payout params ctx job world result after := by
  obtain ⟨charged, freed, paid, shared, penalized, unlocked, toProver, toProposer, burned, split⟩ :=
    submitProof_eq_ok done found
  -- nobody but the requester gains or loses by the penalty
  have others : ∀ other, other ≠ job.requester →
      charged.balanceOf other = world.bank.balanceOf other := by
    intro other differ
    obtain ⟨-, rfl⟩ | transferred := penalized
    · rfl
    · exact transferred.burned_others differ
  have paidPenalty : charged.balanceOf job.requester + penalty ctx job =
      world.bank.balanceOf job.requester := by
    obtain ⟨inTime, rfl⟩ | transferred := penalized
    · rw [penalty, if_neg (by rw [inTime]; exact Bool.false_ne_true), Nat.add_zero]
    · exact transferred.spent (.inr rfl)
  have heldLock : charged.getLockedBalance job.requester =
      world.bank.getLockedBalance job.requester := by
    obtain ⟨-, rfl⟩ | transferred := penalized
    · rfl
    · exact transferred.locks job.requester
  have sum : penalty ctx job + result.proverReward + result.validatorReward + result.burned =
      job.bidAmount := by
    have rest := toProposer.positive
    have share := toProver.positive
    simp only [StakingManager.calculateFeeSplit, saturatingSub, Prod.mk.injEq] at split
    have part := mulU128_le (job.bidAmount - penalty ctx job) 70
    omega
  refine {
    balance := ?_
    locked := ?_
    prover := ?_
    proposer := ?_
    positive := ⟨toProver.positive, toProposer.positive⟩
    sum
    split }
  · have first := toProver.spent (.inl (Ne.symm notProver))
    have second := toProposer.spent (.inl (Ne.symm notProposer))
    have last := burned.spent (.inr rfl)
    have same := unlocked.balances job.requester
    omega
  · rw [burned.locks, toProposer.locks, toProver.locks, unlocked.freed, heldLock]
  · rw [burned.burned_others (Ne.symm notProver), toProposer.others _ (Ne.symm notProver) apart,
      toProver.received (Ne.symm notProver), unlocked.balances, others _ (Ne.symm notProver)]
  · rw [burned.burned_others (Ne.symm notProposer), toProposer.received (Ne.symm notProposer),
      toProver.others _ (Ne.symm notProposer) (Ne.symm apart), unlocked.balances,
      others _ (Ne.symm notProposer)]

theorem credited_iff {address : Address} {before reward now : Nat} (positive : reward ≠ 0)
    (gets : now = if address = BURN_ADDRESS then before else saturatingAdd before reward) :
    now = before + reward ↔ address ≠ BURN_ADDRESS ∧ before + reward ≤ MAX_U128 := by
  rw [gets]
  by_cases ash : address = BURN_ADDRESS
  · rw [if_pos ash]
    constructor
    · intro same
      omega
    · exact fun fits => absurd ash fits.1
  · rw [if_neg ash, saturatingAdd]
    constructor
    · exact fun same => ⟨ash, same ▸ min_le_right _ _⟩
    · exact fun fits => min_eq_left fits.2

/-- A settlement moves exactly the bid, in the parts that the rates ask for, if and only if nothing
overflows. -/
theorem submitProof_settles_exactly_iff {result : ProofSubmitResult}
    (done : submitProof platform params ctx world = some (.ok result, after))
    (found : world.registry.jobs.lookup params.jobId = some job)
    (notProver : job.requester ≠ params.prover) (notProposer : job.requester ≠ ctx.proposer)
    (apart : params.prover ≠ ctx.proposer) :
    SettledExactly params ctx job world result after ↔ Representable params ctx job world := by
  have payout := submitProof_payout done found notProver notProposer apart
  have shares := payout.split
  simp only [StakingManager.calculateFeeSplit, saturatingSub, Prod.mk.injEq] at shares
  obtain ⟨share, rest, burned⟩ := shares
  have ofProver := credited_iff payout.positive.1 payout.prover
  have ofProposer := credited_iff payout.positive.2 payout.proposer
  constructor
  · intro settled
    have fee : job.bidAmount - penalty ctx job = exactFee ctx job := by
      rw [exactFee, settled.penalized]
    rw [fee] at share burned rest
    refine {
      penalty := fun late => ?_
      share := ?_
      burned := ?_
      prover := ?_
      proposer := ?_ }
    · have same := settled.penalized
      rw [penalty, exactPenalty, if_pos late, if_pos late] at same
      exact fits_of_mulU128_div (by decide) (by decide) same
    · exact fits_of_mulU128_div (by decide) (by decide) (share.symm.trans settled.share)
    · exact fits_of_mulU128_div (by decide) (by decide) (burned.symm.trans settled.burned)
    · rw [← settled.share]
      exact ofProver.mp settled.prover
    · rw [← settled.share, ← settled.burned, share, burned, ← rest]
      exact ofProposer.mp settled.validator
  · intro fits
    have penalized : penalty ctx job = exactPenalty ctx job := by
      unfold penalty exactPenalty
      split
      next late => rw [SlaPolicy.latePenalty, mulU128_eq (fits.penalty late)]
      · rfl
    have fee : job.bidAmount - penalty ctx job = exactFee ctx job := by
      rw [exactFee, penalized]
    rw [fee, mulU128_eq fits.share] at share
    rw [fee, mulU128_eq fits.burned] at burned
    rw [fee, mulU128_eq fits.share, mulU128_eq fits.burned] at rest
    refine {
      balance := payout.balance
      locked := payout.locked
      prover := ofProver.mpr ?_
      validator := ofProposer.mpr ?_
      sum := payout.sum
      penalized
      share
      burned }
    · rw [share]
      exact fits.prover
    · rw [rest]
      exact fits.proposer

def strictConfig : JobConfig := { JobConfig.devnet with latePenaltyBps := 500 }

/-- A world in which a job of account 1 is assigned to account 2. -/
def assignedWorld (config : JobConfig) (bank : Bank) (bid : Nat) : World :=
  Run.exec (step localPlatform) ⟨.new config, .new .devnet, none, bank⟩
    [.submitJob { localParams with bidAmount := bid } localContext,
      .assignJob firstJob 2 localContext]

def assignedJob (config : JobConfig) (bid : Nat) : JobState where
  jobId := firstJob
  requester := 1
  assignedProver := some 2
  status := .Assigned
  bidAmount := bid
  modelHash := 5
  inputHash := 6
  verificationMethod := .ReExecution
  sla := ⟨1120, 1130, config.latePenaltyBps⟩
  submittedAt := 1000
  assignedAt := some 1000

theorem exists_after {α : Type} {call : Option (α × World)} {outcome : α}
    (ends : call.map (·.1) = some outcome) : ∃ after, call = some (outcome, after) := by
  obtain ⟨⟨_, after⟩, done, rfl⟩ := Option.map_eq_some_iff.mp ends
  exact ⟨after, done⟩

/-- A late job of a thousand, settled by the proposer at 10. -/
theorem submitProof_settles_exactly_late :
    ∃ after, submitProof localPlatform localProof { localContext with timestamp := 1125 }
        (assignedWorld strictConfig Economy.fundedBank 1000) =
          some (.ok ⟨firstJob, true, 665, 238, 47⟩, after) ∧
      SettledExactly localProof { localContext with timestamp := 1125 }
        (assignedJob strictConfig 1000) (assignedWorld strictConfig Economy.fundedBank 1000)
        ⟨firstJob, true, 665, 238, 47⟩ after := by
  obtain ⟨after, done⟩ : ∃ after, submitProof localPlatform localProof
      { localContext with timestamp := 1125 } (assignedWorld strictConfig Economy.fundedBank 1000) =
        some (.ok ⟨firstJob, true, 665, 238, 47⟩, after) := exists_after (by decide +kernel)
  have found : (assignedWorld strictConfig Economy.fundedBank 1000).registry.jobs.lookup firstJob =
      some (assignedJob strictConfig 1000) := by decide +kernel
  refine ⟨after, done, (submitProof_settles_exactly_iff done found (by decide) (by decide)
    (by decide)).mpr ?_⟩
  exact ⟨fun _ => by decide, by decide, by decide, by decide +kernel, by decide +kernel⟩

/-- A bank whose account 1 holds more than the fee split can multiply. -/
def richBank : Bank := (Bank.new ⟨0, 0⟩).step (.mint 1 (10 ^ 37))

def wrappedSplit : ProofSubmitResult :=
  ⟨firstJob, true, 97176330790615365366253925682317885, 4891021326054041559058108299519919864,
    11802343155343075575637774797762251⟩

/-- The prover of a bid that the configuration allows gets two percent of it. -/
theorem overflow_not_settled_exactly :
    JobConfig.devnet.validate = .ok () ∧ StakingConfig.devnet.validate = .ok () ∧
      5 * 10 ^ 36 ≤ JobConfig.devnet.maxBid ∧ ∃ after,
        submitProof localPlatform localProof localContext
          (assignedWorld .devnet richBank (5 * 10 ^ 36)) = some (.ok wrappedSplit, after) ∧
        (assignedWorld .devnet richBank (5 * 10 ^ 36)).registry.jobs.lookup firstJob =
          some (assignedJob .devnet (5 * 10 ^ 36)) ∧
        ¬SettledExactly localProof localContext (assignedJob .devnet (5 * 10 ^ 36))
          (assignedWorld .devnet richBank (5 * 10 ^ 36)) wrappedSplit after := by
  obtain ⟨after, done⟩ : ∃ after, submitProof localPlatform localProof localContext
      (assignedWorld .devnet richBank (5 * 10 ^ 36)) = some (.ok wrappedSplit, after) :=
    exists_after (by decide +kernel)
  refine ⟨by decide, by decide, by decide, after, done, by decide +kernel, fun settled => ?_⟩
  exact absurd settled.share (by decide)

end World

end Vm
