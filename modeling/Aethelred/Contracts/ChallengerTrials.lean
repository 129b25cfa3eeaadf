import Aethelred.Contracts.ChallengerBonds

/- What becomes of the roots that are challenged, and who gets the bonds of the challengers. -/
namespace Cruzible

open Evm List Delegation

/-- A root that was committed stands, enough challenges have revoked it, or the guardian has
determined that it was fraudulent. -/
inductive Verdict where
  | standing
  | lifted (time : Nat)
  | fraud
  deriving DecidableEq

def Verdict.isLifted : Verdict → Bool
  | lifted _ => true
  | _ => false

/-- A root that was committed, with everybody who challenged it. -/
structure Trial where
  epoch : Key
  committed : Nat
  challengers : List Address
  verdict : Verdict

namespace Trial

def onStanding (epoch : Key) (change : Trial → Trial) (trial : Trial) : Trial :=
  if trial.epoch = epoch ∧ trial.verdict = .standing then change trial else trial

def challenged (challenger : Address) (verdict : Verdict) (trial : Trial) : Trial :=
  { trial with challengers := challenger :: trial.challengers, verdict }

variable (trial : Trial)

def convicted : Trial := { trial with verdict := .fraud }

/-- The root survived its challenge period, or the guardian has let the time to rule on it pass. -/
def Cleared (now : Nat) : Prop :=
  match trial.verdict with
  | .standing => trial.committed + DELEGATION_CHALLENGE_PERIOD < now
  | .lifted time => time + CHALLENGE_ADJUDICATION_PERIOD < now
  | .fraud => False

instance (now : Nat) : Decidable (trial.Cleared now) := by
  unfold Cleared
  split <;> infer_instance

/-- Only one root of an epoch stands, and nobody challenges two. -/
def Apart (one two : Trial) : Prop :=
  one.epoch = two.epoch → (one.verdict = .standing → two.verdict ≠ .standing) ∧
    ∀ challenger ∈ one.challengers, challenger ∉ two.challengers

def convictLatest (epoch : Key) : List Trial → List Trial
  | [] => []
  | trial :: earlier =>
    if trial.epoch = epoch ∧ trial.verdict.isLifted = true then trial.convicted :: earlier
    else trial :: convictLatest epoch earlier

variable {trials : List Trial}

theorem mem_convictLatest {epoch : Key} {trial : Trial}
    (member : trial ∈ convictLatest epoch trials) :
    trial ∈ trials ∨ ∃ before ∈ trials, before.epoch = epoch ∧
      before.verdict.isLifted = true ∧ trial = before.convicted := by
  induction trials with
  | nil => cases member
  | cons first earlier ih =>
    unfold convictLatest at member
    split at member
    next last =>
      cases mem_cons.mp member with
      | inl same => exact .inr ⟨first, mem_cons_self, last.1, last.2, same⟩
      | inr old => exact .inl (mem_cons_of_mem _ old)
    next =>
      cases mem_cons.mp member with
      | inl same => exact .inl (same ▸ mem_cons_self)
      | inr old =>
        cases ih old with
        | inl kept => exact .inl (mem_cons_of_mem _ kept)
        | inr changed =>
          obtain ⟨before, inside, rest⟩ := changed
          exact .inr ⟨before, mem_cons_of_mem _ inside, rest⟩

theorem exists_mem_convictLatest {epoch : Key} {trial : Trial}
    (member : trial ∈ trials) : ∃ after ∈ convictLatest epoch trials,
      after.epoch = trial.epoch ∧ after.challengers = trial.challengers ∧
        (trial.verdict = .standing → after.verdict = .standing) := by
  induction trials with
  | nil => cases member
  | cons first earlier ih =>
    unfold convictLatest
    split
    next last =>
      cases mem_cons.mp member with
      | inl same =>
        subst same
        refine ⟨trial.convicted, mem_cons_self, rfl, rfl, fun standing => ?_⟩
        rw [standing] at last
        exact nomatch last.2
      | inr old => exact ⟨trial, mem_cons_of_mem _ old, rfl, rfl, id⟩
    next =>
      cases mem_cons.mp member with
      | inl same => exact ⟨trial, same ▸ mem_cons_self, rfl, rfl, id⟩
      | inr old =>
        obtain ⟨after, inside, rest⟩ := ih old
        exact ⟨after, mem_cons_of_mem _ inside, rest⟩

theorem pairwise_convictLatest {epoch : Key}
    (apart : trials.Pairwise Apart) : (convictLatest epoch trials).Pairwise Apart := by
  induction trials with
  | nil => exact Pairwise.nil
  | cons first earlier ih =>
    obtain ⟨from', rest⟩ := pairwise_cons.mp apart
    unfold convictLatest
    split
    · refine pairwise_cons.mpr ⟨fun old member same => ?_, rest⟩
      exact ⟨nofun, (from' old member same).2⟩
    · refine pairwise_cons.mpr ⟨fun old member same => ?_, ih rest⟩
      cases mem_convictLatest member with
      | inl kept => exact from' old kept same
      | inr changed =>
        obtain ⟨before, inside, -, -, rfl⟩ := changed
        exact ⟨fun _ => nofun, (from' before inside same).2⟩

end Trial

/-- A claim that was paid: the root the bond was posted against as it was then, where the treasury
was, and the token before and after the payment. -/
structure Payment where
  epoch : Key
  challenger : Address
  treasury : Address
  time : Nat
  trial : Option Trial
  before : Erc20
  after : Erc20

/-- The bond went back to the challenger of a root that was determined to be fraudulent, or to the
treasury where the root was cleared. -/
def Payment.Right (vault : Address) (payment : Payment) : Prop :=
  ∃ trial, payment.trial = some trial ∧
    (trial.verdict = .fraud ∧
        payment.before.transfer vault payment.challenger CHALLENGE_BOND = .ok payment.after ∨
      trial.Cleared payment.time ∧
        payment.before.transfer vault payment.treasury CHALLENGE_BOND = .ok payment.after)

/-- All roots that were committed, the last one first, and all claims that were paid. -/
structure Proceedings where
  trials : List Trial
  payments : List Payment

namespace Proceedings

def empty : Proceedings := ⟨[], []⟩

variable (record : Proceedings)

def commit (epoch : Key) (root : Bytes32) (now : Nat) : Proceedings :=
  if root = 0 then record
  else { record with trials := ⟨epoch, now, [], .standing⟩ :: record.trials }

def judge (epoch : Key) (change : Trial → Trial) : Proceedings :=
  { record with trials := record.trials.map (Trial.onStanding epoch change) }

def convict (epoch : Key) : Proceedings :=
  { record with trials := Trial.convictLatest epoch record.trials }

def trialOf (epoch : Key) (challenger : Address) : Option Trial :=
  record.trials.find? fun trial => trial.epoch = epoch ∧ challenger ∈ trial.challengers

def file (chain next : Chain) (sender : Address) : Function → Proceedings
  | .submitDelegationVote _ epoch root _ _ =>
    if DELEGATION_QUORUM ≤ chain.vault.delegationVoteCount epoch root + 1 then
      record.commit epoch root chain.block.timestamp
    else record
  | .commitDelegationSnapshot _ epoch root _ _ => record.commit epoch root chain.block.timestamp
  | .challengeDelegationCommitment epoch =>
    record.judge epoch (Trial.challenged sender
      (if DELEGATION_CHALLENGE_THRESHOLD ≤ chain.vault.delegationChallengeCount epoch + 1 then
        .lifted chain.block.timestamp else .standing))
  | .revokeDelegationSnapshot epoch => record.judge epoch Trial.convicted
  | .confirmDelegationFraud epoch => record.convict epoch
  | .claimChallengerBond epoch =>
    { record with payments :=
        { epoch, challenger := sender, treasury := chain.vault.treasury,
          time := chain.block.timestamp, trial := record.trialOf epoch sender,
          before := chain.aethel, after := next.aethel } :: record.payments }
  | _ => record

variable (env : Environment)

def after (chain : Chain) (record : Proceedings) : Action → Proceedings
  | .call sender function =>
    match function.execute env sender chain with
    | .ok next => record.file chain next sender function
    | .error _ => record
  | _ => record

variable (chain : Chain)

/-- Every unpaid bond of the epoch was posted against a root that is now known to be fraudulent. -/
def Rightful (epoch : Key) : Prop :=
  ∀ trial ∈ record.trials, trial.epoch = epoch → ∀ challenger ∈ trial.challengers,
    chain.vault.challengerBonds epoch challenger ≠ 0 → trial.verdict = .fraud

instance (epoch : Key) :
    Decidable (record.Rightful chain epoch) :=
  have (trial : Trial) : Decidable (∀ challenger ∈ trial.challengers,
      chain.vault.challengerBonds epoch challenger ≠ 0 → trial.verdict = .fraud) :=
    decidableBAll _ trial.challengers
  inferInstanceAs (Decidable (∀ _ ∈ _, _))

/-- Nobody challenges a root in an epoch where fraud was determined before, and fraud is determined
in an epoch only of the root that all its unpaid bonds were posted against. -/
def Safe : Function → Prop
  | .challengeDelegationCommitment epoch => chain.vault.delegationChallengeSucceeded epoch = false
  | .revokeDelegationSnapshot epoch => (record.judge epoch Trial.convicted).Rightful chain epoch
  | .confirmDelegationFraud epoch => (record.convict epoch).Rightful chain epoch
  | _ => True

instance : (function : Function) →
    Decidable (record.Safe chain function)
  | .challengeDelegationCommitment _ => inferInstanceAs (Decidable (_ = _))
  | .revokeDelegationSnapshot _ => inferInstanceAs (Decidable (Rightful ..))
  | .confirmDelegationFraud _ => inferInstanceAs (Decidable (Rightful ..))
  | .stake _ | .unstake _ | .withdraw _ | .batchWithdraw _ | .updateValidatorSet _ _ _
  | .slashValidator _ | .distributeRewards _ _ _ _ _ | .submitMEVRevenue _ _ _
  | .claimRewards _ _ _ | .commitUniverseHash _ _ | .commitStakeSnapshot _ _ _
  | .commitDelegationSnapshot _ _ _ _ _ | .submitDelegationVote _ _ _ _ _ | .depositKeeperBond _
  | .withdrawKeeperBond _ | .slashKeeperBond _ _ _ | .releaseKeeperBondFreeze _
  | .claimChallengerBond _ | .setTreasury _ | .setTEEVerifier _ | .setSelectionPolicyHash _
  | .setDelegationQuorumEnabled _ | .pause | .unpause | .grantRole _ _ | .revokeRole _ _
  | .renounceRole _ _ => .isTrue trivial

def SafeStep (state : Chain × Proceedings) : Action → Prop
  | .call sender function =>
    (function.execute env sender state.1).toOption.isSome → state.2.Safe state.1 function
  | _ => True

instance (state : Chain × Proceedings) :
    (action : Action) → Decidable (SafeStep env state action)
  | .call _ _ => inferInstanceAs (Decidable (_ → _))
  | .advance _ _ | .aethel _ _ | .stAethel _ _ => .isTrue trivial

/-- Each address has challenged one root of an epoch at most and was paid for it at most once, and
every bond went where it belongs. -/
structure Settled (vault : Address) (record : Proceedings) : Prop where
  distinct : ∀ trial ∈ record.trials, trial.challengers.Nodup
  apart : record.trials.Pairwise Trial.Apart
  once : (record.payments.map fun payment => (payment.epoch, payment.challenger)).Nodup
  right : ∀ payment ∈ record.payments, payment.Right vault

end Proceedings

structure Trial.Known (state : Delegation) (deposits : Deposits) (trial : Trial) : Prop where
  flagged : ∀ challenger ∈ trial.challengers, state.challengers trial.epoch challenger = true
  standing : trial.verdict = .standing → state.root trial.epoch ≠ 0 ∧
    deposits.committedAt trial.epoch = trial.committed ∧ 0 < trial.committed ∧
    (0 < state.revokedAt trial.epoch → trial.challengers = [])
  lifted : ∀ time, trial.verdict = .lifted time → 0 < time ∧ time ≤ state.revokedAt trial.epoch
  fraud : trial.verdict = .fraud → state.succeeded trial.epoch = true
  due : state.succeeded trial.epoch = true → ∀ challenger ∈ trial.challengers,
    deposits.posted trial.epoch challenger ≠ 0 → trial.verdict = .fraud

namespace Proceedings

/-- The vault's storage tells the trials and the payments apart. -/
structure Tracked (vault : Address) (state : Delegation) (deposits : Deposits)
    (record : Proceedings) : Prop where
  started : 0 < state.now
  judged : ∀ epoch, state.revokedAt epoch ≤ state.now
  counted : ∀ epoch, 0 < state.revokedAt epoch →
    DELEGATION_CHALLENGE_THRESHOLD ≤ state.challengeCount epoch
  heard : ∀ epoch, state.root epoch ≠ 0 →
    ∃ trial ∈ record.trials, trial.epoch = epoch ∧ trial.verdict = .standing
  known : ∀ trial ∈ record.trials, trial.Known state deposits
  posted : ∀ epoch challenger, deposits.posted epoch challenger ≠ 0 →
    deposits.posted epoch challenger = CHALLENGE_BOND ∧
      ∃ trial ∈ record.trials, trial.epoch = epoch ∧ challenger ∈ trial.challengers
  paid : ∀ payment ∈ record.payments,
    state.challengers payment.epoch payment.challenger = true ∧
      deposits.posted payment.epoch payment.challenger = 0
  settled : record.Settled vault

end Proceedings

section Steps

variable {vault : Address} {state next : Delegation} {deposits : Deposits} {record : Proceedings}
  {epoch : Key} {root : Bytes32}

section

variable (tracked : record.Tracked vault state deposits)
include tracked

/-- Steps that leave roots and rulings alone keep the record. -/
theorem Proceedings.Tracked.keep (now : state.now ≤ next.now) (roots : next.root = state.root)
    (counts : next.challengeCount = state.challengeCount)
    (flags : next.challengers = state.challengers) (succeeded : next.succeeded = state.succeeded)
    (revoked : next.revokedAt = state.revokedAt) : record.Tracked vault next deposits where
  started := tracked.started.trans_le now
  judged epoch := by
    rw [revoked]
    exact (tracked.judged epoch).trans now
  counted epoch := by
    rw [revoked, counts]
    exact tracked.counted epoch
  heard epoch := by
    rw [roots]
    exact tracked.heard epoch
  known trial member := by
    have known := tracked.known trial member
    exact {
      flagged := by rw [flags]; exact known.flagged
      standing := by rw [roots, revoked]; exact known.standing
      lifted := by rw [revoked]; exact known.lifted
      fraud := by rw [succeeded]; exact known.fraud
      due := by rw [succeeded]; exact known.due }
  posted := tracked.posted
  paid payment member := by
    rw [flags]
    exact tracked.paid payment member
  settled := tracked.settled

theorem Proceedings.Tracked.vacant (empty : state.root epoch = 0) {trial : Trial}
    (member : trial ∈ record.trials) (same : trial.epoch = epoch) : trial.verdict ≠ .standing := by
  intro standing
  have committed := ((tracked.known trial member).standing standing).1
  rw [same] at committed
  exact committed empty

/-- A new root opens a new trial. -/
theorem Proceedings.Tracked.commit
    (empty : state.root epoch = 0) (roots : next.root = Function.update state.root epoch root)
    (now : next.now = state.now) (counts : next.challengeCount = state.challengeCount)
    (flags : next.challengers = state.challengers) (succeeded : next.succeeded = state.succeeded)
    (revoked : next.revokedAt = state.revokedAt) :
    (record.commit epoch root state.now).Tracked vault next (deposits.stamp epoch state.now) := by
  have known : ∀ trial ∈ record.trials,
      trial.Known next (deposits.stamp epoch state.now) := by
    intro trial member
    have before := tracked.known trial member
    refine { flagged := ?_, standing := ?_, lifted := ?_, fraud := ?_, due := ?_ }
    · rw [flags]
      exact before.flagged
    · intro standing
      have other : trial.epoch ≠ epoch := fun same => tracked.vacant empty member same standing
      obtain ⟨committed, time⟩ := before.standing standing
      rw [roots, revoked, Function.update_of_ne other, Deposits.committedAt_stamp, if_neg other]
      exact ⟨committed, time⟩
    · rw [revoked]
      exact before.lifted
    · rw [succeeded]
      exact before.fraud
    · rw [succeeded]
      exact before.due
  have paid : ∀ payment ∈ record.payments,
      next.challengers payment.epoch payment.challenger = true ∧
        deposits.posted payment.epoch payment.challenger = 0 := by
    rw [flags]
    exact tracked.paid
  have judged : ∀ other, next.revokedAt other ≤ next.now := by
    rw [revoked, now]
    exact tracked.judged
  have counted : ∀ other, 0 < next.revokedAt other →
      DELEGATION_CHALLENGE_THRESHOLD ≤ next.challengeCount other := by
    rw [revoked, counts]
    exact tracked.counted
  have started : 0 < next.now := now.symm ▸ tracked.started
  unfold Proceedings.commit
  by_cases zero : root = 0
  · rw [if_pos zero]
    refine { started, judged, counted, known, paid, heard := ?_, posted := ?_, settled := ?_ }
    · intro other committed
      rw [roots] at committed
      by_cases same : other = epoch
      · rw [same, Function.update_self] at committed
        exact absurd zero committed
      · rw [Function.update_of_ne same] at committed
        exact tracked.heard other committed
    · exact tracked.posted
    · exact tracked.settled
  · rw [if_neg zero]
    refine { started, judged, counted, paid, heard := ?_, known := ?_, posted := ?_, settled := ?_ }
    · intro other committed
      by_cases same : other = epoch
      · exact ⟨_, mem_cons_self, same.symm, rfl⟩
      · rw [roots, Function.update_of_ne same] at committed
        obtain ⟨trial, member, both⟩ := tracked.heard other committed
        exact ⟨trial, mem_cons_of_mem _ member, both⟩
    · intro trial member
      cases mem_cons.mp member with
      | inr old => exact known trial old
      | inl new =>
        subst new
        refine ⟨nofun, fun _ => ?_, nofun, nofun, fun _ => nofun⟩
        dsimp only
        rw [roots, Function.update_self, Deposits.committedAt_stamp, if_pos rfl]
        exact ⟨zero, rfl, tracked.started, fun _ => rfl⟩
    · intro other challenger owed
      obtain ⟨bond, trial, member, both⟩ := tracked.posted other challenger owed
      exact ⟨bond, trial, mem_cons_of_mem _ member, both⟩
    · have settled := tracked.settled
      refine { distinct := ?_, apart := ?_, once := settled.once, right := settled.right }
      · intro trial member
        cases mem_cons.mp member with
        | inl new => exact new ▸ nodup_nil
        | inr old => exact settled.distinct trial old
      · refine pairwise_cons.mpr ⟨fun trial member same => ?_, settled.apart⟩
        exact ⟨fun _ => tracked.vacant empty member same.symm, nofun⟩

end

variable {challenger : Address} {trial : Trial}

theorem Delegation.challengers_afterChallenge (state : Delegation) (other : Key)
    (account : Address) : (state.afterChallenge challenger epoch).challengers other account =
      if other = epoch ∧ account = challenger then true else state.challengers other account := by
  have flags : (state.afterChallenge challenger epoch).challengers =
      Function.update state.challengers epoch
        (Function.update (state.challengers epoch) challenger true) := by
    unfold afterChallenge
    simp only
    split <;> rfl
  rw [flags, Function.update_apply]
  by_cases same : other = epoch
  · subst same
    simp [Function.update_apply]
  · simp [same]

theorem Delegation.flagged_afterChallenge {other : Key} {account : Address}
    (flagged : state.challengers other account = true) :
    (state.afterChallenge challenger epoch).challengers other account = true := by
  rw [challengers_afterChallenge, flagged, ite_self]

theorem Delegation.succeeded_afterChallenge (state : Delegation) :
    (state.afterChallenge challenger epoch).succeeded = state.succeeded := by
  unfold afterChallenge
  simp only
  split <;> rfl

theorem Delegation.now_afterChallenge (state : Delegation) :
    (state.afterChallenge challenger epoch).now = state.now := by
  unfold afterChallenge
  simp only
  split <;> rfl

def Delegation.Tips (state : Delegation) (epoch : Key) : Prop :=
  DELEGATION_CHALLENGE_THRESHOLD ≤ state.challengeCount epoch + 1

instance (state : Delegation) (epoch : Key) : Decidable (state.Tips epoch) :=
  inferInstanceAs (Decidable (_ ≤ _))

theorem Delegation.revokedAt_afterChallenge (state : Delegation) (other : Key) :
    (state.afterChallenge challenger epoch).revokedAt other =
      if other = epoch ∧ state.Tips epoch then state.now else state.revokedAt other := by
  by_cases tips : state.Tips epoch
  · have reached : DELEGATION_CHALLENGE_THRESHOLD ≤ state.challengeCount epoch + 1 := tips
    simp only [afterChallenge, if_pos reached, tips, and_true, Function.update_apply]
  · have short : ¬DELEGATION_CHALLENGE_THRESHOLD ≤ state.challengeCount epoch + 1 := tips
    simp only [afterChallenge, if_neg short, tips, and_false, if_false]

theorem Delegation.root_afterChallenge (state : Delegation) (other : Key) :
    (state.afterChallenge challenger epoch).root other =
      if other = epoch ∧ state.Tips epoch then 0 else state.root other := by
  by_cases tips : state.Tips epoch
  · have reached : DELEGATION_CHALLENGE_THRESHOLD ≤ state.challengeCount epoch + 1 := tips
    simp only [afterChallenge, if_pos reached, tips, and_true, Function.update_apply]
  · have short : ¬DELEGATION_CHALLENGE_THRESHOLD ≤ state.challengeCount epoch + 1 := tips
    simp only [afterChallenge, if_neg short, tips, and_false, if_false]

theorem Delegation.challengeCount_afterChallenge (state : Delegation) (other : Key) :
    (state.afterChallenge challenger epoch).challengeCount other =
      if other = epoch then state.challengeCount epoch + 1 else state.challengeCount other := by
  have counts : (state.afterChallenge challenger epoch).challengeCount =
      Function.update state.challengeCount epoch (state.challengeCount epoch + 1) := by
    unfold afterChallenge
    simp only
    split <;> rfl
  rw [counts, Function.update_apply]

def Deposits.challenged (state : Delegation) (deposits : Deposits) (challenger : Address)
    (epoch : Key) : Deposits :=
  deposits.after state challenger (.challengeDelegationCommitment epoch)

theorem Deposits.posted_challenged (other : Key) (account : Address) :
    (deposits.challenged state challenger epoch).posted other account =
      if other = epoch ∧ account = challenger then CHALLENGE_BOND
      else deposits.posted other account := by
  have posted : (deposits.challenged state challenger epoch).posted =
      (deposits.post epoch challenger CHALLENGE_BOND).posted := by
    unfold Deposits.challenged Deposits.after
    simp only
    split <;> rfl
  rw [posted, Deposits.posted_post]

theorem Deposits.committedAt_challenged (other : Key) :
    (deposits.challenged state challenger epoch).committedAt other =
      if other = epoch ∧ state.Tips epoch then 0 else deposits.committedAt other := by
  unfold Deposits.challenged Deposits.after
  by_cases tips : state.Tips epoch
  · have reached : DELEGATION_CHALLENGE_THRESHOLD ≤ state.challengeCount epoch + 1 := tips
    simp only [if_pos reached, tips, and_true, Deposits.committedAt_stamp,
      Deposits.committedAt_post]
  · have short : ¬DELEGATION_CHALLENGE_THRESHOLD ≤ state.challengeCount epoch + 1 := tips
    simp only [if_neg short, tips, and_false, if_false, Deposits.committedAt_post]

def Delegation.ruling (state : Delegation) (epoch : Key) : Verdict :=
  if state.Tips epoch then .lifted state.now else .standing

theorem Trial.epoch_onStanding (change : Trial → Trial)
    (keeps : (change trial).epoch = trial.epoch) :
    (trial.onStanding epoch change).epoch = trial.epoch := by
  unfold Trial.onStanding
  split
  · exact keeps
  · rfl

section

variable (tracked : record.Tracked vault state deposits)
  (undetermined : state.succeeded epoch = false) (member : trial ∈ record.trials)
include tracked undetermined member

/-- The standing trial knows of the new challenge. -/
theorem Proceedings.Tracked.known_challenged
    (same : trial.epoch = epoch) (standing : trial.verdict = .standing) :
    (trial.challenged challenger (state.ruling epoch)).Known
      (state.afterChallenge challenger epoch) (deposits.challenged state challenger epoch) := by
  have before := tracked.known trial member
  subst same
  refine { flagged := ?_, standing := ?_, lifted := ?_, fraud := ?_, due := ?_ }
  · intro account inside
    cases mem_cons.mp inside with
    | inl new =>
      rw [new, challengers_afterChallenge]
      exact if_pos ⟨rfl, rfl⟩
    | inr old => exact flagged_afterChallenge (before.flagged account old)
  · intro stands
    have calm : ¬state.Tips trial.epoch := by
      intro tips
      rw [Trial.challenged, ruling, if_pos tips] at stands
      exact nomatch stands
    obtain ⟨root, time, positive, -⟩ := before.standing standing
    rw [root_afterChallenge, Deposits.committedAt_challenged,
      revokedAt_afterChallenge]
    simp only [Trial.challenged, calm, and_false, if_false]
    refine ⟨root, time, positive, fun revoked => absurd ?_ calm⟩
    exact (tracked.counted trial.epoch revoked).trans (Nat.le_succ _)
  · intro time lifted
    rw [revokedAt_afterChallenge]
    simp only [Trial.challenged, ruling] at lifted ⊢
    split at lifted
    next tips =>
      obtain rfl := Verdict.lifted.inj lifted
      simp only [tips, and_self, if_true]
      exact ⟨tracked.started, Nat.le_refl _⟩
    next => exact nomatch lifted
  · intro fraud
    simp only [Trial.challenged, ruling] at fraud
    split at fraud <;> exact nomatch fraud
  · intro succeeded
    rw [succeeded_afterChallenge] at succeeded
    exact absurd (undetermined.symm.trans succeeded) nofun

/-- All other trials are as they were. -/
theorem Proceedings.Tracked.known_unchallenged
    (other : ¬(trial.epoch = epoch ∧ trial.verdict = .standing)) :
    trial.Known (state.afterChallenge challenger epoch)
      (deposits.challenged state challenger epoch) := by
  have before := tracked.known trial member
  refine { flagged := ?_, standing := ?_, lifted := ?_, fraud := ?_, due := ?_ }
  · exact fun account inside => flagged_afterChallenge (before.flagged account inside)
  · intro standing
    have apart : trial.epoch ≠ epoch := fun same => other ⟨same, standing⟩
    rw [root_afterChallenge, Deposits.committedAt_challenged,
      revokedAt_afterChallenge]
    simp only [apart, false_and, if_false]
    exact before.standing standing
  · intro time lifted
    obtain ⟨positive, earlier⟩ := before.lifted time lifted
    rw [revokedAt_afterChallenge]
    split
    · exact ⟨positive, earlier.trans (tracked.judged _)⟩
    · exact ⟨positive, earlier⟩
  · rw [succeeded_afterChallenge]
    exact before.fraud
  · rw [succeeded_afterChallenge]
    intro succeeded account inside owed
    have apart : trial.epoch ≠ epoch := by
      rintro rfl
      exact absurd (undetermined.symm.trans succeeded) nofun
    rw [Deposits.posted_challenged, if_neg fun both => apart both.1] at owed
    exact before.due succeeded account inside owed

end

/-- A first challenge of a live root is put on record. -/
theorem Proceedings.Tracked.challenge (tracked : record.Tracked vault state deposits)
    (live : state.root epoch ≠ 0) (fresh : state.challengers epoch challenger = false)
    (undetermined : state.succeeded epoch = false) :
    (record.judge epoch (Trial.challenged challenger (state.ruling epoch))).Tracked vault
      (state.afterChallenge challenger epoch) (deposits.challenged state challenger epoch) := by
  have absent : ∀ trial ∈ record.trials, trial.epoch = epoch → challenger ∉ trial.challengers := by
    intro trial member same inside
    have flagged := (tracked.known trial member).flagged challenger inside
    rw [same, fresh] at flagged
    exact nomatch flagged
  have same : ∀ trial : Trial, (trial.onStanding epoch
      (Trial.challenged challenger (state.ruling epoch))).epoch = trial.epoch :=
    fun trial => Trial.epoch_onStanding _ rfl
  have more : ∀ trial : Trial, ∀ account ∈ trial.challengers, account ∈ (trial.onStanding epoch
      (Trial.challenged challenger (state.ruling epoch))).challengers := by
    intro trial account inside
    unfold Trial.onStanding
    split
    · exact mem_cons_of_mem _ inside
    · exact inside
  obtain ⟨heard, attending, here, standing⟩ := tracked.heard epoch live
  refine {
    started := ?_
    judged := ?_
    counted := ?_
    heard := ?_
    known := ?_
    posted := ?_
    paid := ?_
    settled := ?_ }
  · rw [now_afterChallenge]
    exact tracked.started
  · intro other
    rw [revokedAt_afterChallenge, now_afterChallenge]
    split
    · exact Nat.le_refl _
    · exact tracked.judged other
  · intro other revoked
    rw [revokedAt_afterChallenge] at revoked
    rw [challengeCount_afterChallenge]
    by_cases this : other = epoch
    · subst this
      rw [if_pos rfl]
      split at revoked
      next tips => exact tips.2
      next => exact (tracked.counted other revoked).trans (Nat.le_succ _)
    · rw [if_neg this]
      rw [if_neg fun both => this both.1] at revoked
      exact tracked.counted other revoked
  · intro other committed
    rw [root_afterChallenge] at committed
    split at committed
    · exact absurd rfl committed
    next calm =>
      obtain ⟨trial, member, there, stands⟩ := tracked.heard other committed
      refine ⟨_, mem_map_of_mem member, (same trial).trans there, ?_⟩
      unfold Trial.onStanding
      split
      next changed =>
        have quiet : ¬state.Tips epoch := fun tips => calm ⟨there.symm.trans changed.1, tips⟩
        rw [Trial.challenged, ruling, if_neg quiet]
      next => exact stands
  · intro trial member
    obtain ⟨before, inside, rfl⟩ := mem_map.mp member
    unfold Trial.onStanding
    split
    next changed => exact tracked.known_challenged undetermined inside changed.1 changed.2
    next kept => exact tracked.known_unchallenged undetermined inside kept
  · intro other account owed
    rw [Deposits.posted_challenged] at owed ⊢
    split at owed
    next this =>
      rw [if_pos this]
      refine ⟨rfl, _, mem_map_of_mem attending, (same heard).trans (here.trans this.1.symm),
        ?_⟩
      rw [Trial.onStanding, if_pos ⟨here, standing⟩, this.2]
      exact mem_cons_self
    next this =>
      rw [if_neg this]
      obtain ⟨bond, trial, member, there, inside⟩ := tracked.posted other account owed
      exact ⟨bond, _, mem_map_of_mem member, (same trial).trans there,
        more trial account inside⟩
  · intro payment member
    obtain ⟨flagged, cleared⟩ := tracked.paid payment member
    refine ⟨flagged_afterChallenge flagged, ?_⟩
    rw [Deposits.posted_challenged, if_neg]
    · exact cleared
    · rintro ⟨this, that⟩
      rw [this, that, fresh] at flagged
      exact nomatch flagged
  · have settled := tracked.settled
    refine { distinct := ?_, apart := ?_, once := settled.once, right := settled.right }
    · intro trial member
      obtain ⟨before, inside, rfl⟩ := mem_map.mp member
      unfold Trial.onStanding
      split
      next changed =>
        exact nodup_cons.mpr ⟨absent before inside changed.1, settled.distinct before inside⟩
      next => exact settled.distinct before inside
    · refine pairwise_map.mpr (settled.apart.imp_of_mem ?_)
      intro one two first second apart alike
      rw [same, same] at alike
      obtain ⟨alone, disjoint⟩ := apart alike
      unfold Trial.onStanding
      by_cases left : one.epoch = epoch ∧ one.verdict = .standing
      · have right : ¬(two.epoch = epoch ∧ two.verdict = .standing) :=
          fun both => alone left.2 both.2
        rw [if_pos left, if_neg right]
        refine ⟨fun _ => alone left.2, fun account inside => ?_⟩
        cases mem_cons.mp inside with
        | inl new => exact new ▸ absent two second (alike.symm.trans left.1)
        | inr old => exact disjoint account old
      · rw [if_neg left]
        by_cases right : two.epoch = epoch ∧ two.verdict = .standing
        · rw [if_pos right]
          refine ⟨fun stands => absurd ⟨alike.trans right.1, stands⟩ left, ?_⟩
          intro account inside listed
          cases mem_cons.mp listed with
          | inl new => exact absent one first (alike.trans right.1) (new ▸ inside)
          | inr old => exact disjoint account inside old
        · rw [if_neg right]
          exact ⟨alone, disjoint⟩

end Steps

end Cruzible
