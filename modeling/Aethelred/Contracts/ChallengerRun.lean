import Aethelred.Contracts.ChallengerTrials

/- Determinations of fraud and claims, and the bonds of the challengers over whole runs. -/
namespace Cruzible

open Evm List

section Steps

variable {vault : Address} {state next : Delegation} {deposits : Deposits} {record : Proceedings}
  {epoch : Key}

section

variable (tracked : record.Tracked vault state deposits)
include tracked

/-- A confirmed root turns its challenges down. -/
theorem Proceedings.Tracked.determine
    {trials : List Trial} {left : Deposits} (now : next.now = state.now)
    (succeeded : next.succeeded = Function.update state.succeeded epoch true)
    (revoked : next.revokedAt = state.revokedAt)
    (counts : next.challengeCount = state.challengeCount)
    (flags : next.challengers = state.challengers) (posted : left.posted = deposits.posted)
    (origin : ∀ after ∈ trials, ∃ before ∈ record.trials, after.epoch = before.epoch ∧
      after.challengers = before.challengers ∧
      (after = before ∨ before.epoch = epoch ∧ after.verdict = .fraud))
    (kept : ∀ before ∈ record.trials, ∃ after ∈ trials, after.epoch = before.epoch ∧
      after.challengers = before.challengers)
    (stands : ∀ after ∈ trials, after.verdict = .standing →
      next.root after.epoch = state.root after.epoch ∧
        left.committedAt after.epoch = deposits.committedAt after.epoch)
    (heard : ∀ other, next.root other ≠ 0 →
      ∃ after ∈ trials, after.epoch = other ∧ after.verdict = .standing)
    (apart : trials.Pairwise Trial.Apart)
    (rightful : ∀ after ∈ trials, after.epoch = epoch → ∀ account ∈ after.challengers,
      deposits.posted epoch account ≠ 0 → after.verdict = .fraud) :
    Proceedings.Tracked vault next left { record with trials } where
  started := now.symm ▸ tracked.started
  judged other := by
    rw [revoked, now]
    exact tracked.judged other
  counted other := by
    rw [revoked, counts]
    exact tracked.counted other
  heard := heard
  known after member := by
    obtain ⟨before, inside, same, all, either⟩ := origin after member
    have known := tracked.known before inside
    refine { flagged := ?_, standing := ?_, lifted := ?_, fraud := ?_, due := ?_ }
    · rw [flags, same, all]
      exact known.flagged
    · intro standing
      obtain ⟨root, time⟩ := stands after member standing
      rw [root, time, revoked]
      cases either with
      | inl unchanged => exact unchanged ▸ known.standing (unchanged ▸ standing)
      | inr ruled => exact nomatch standing.symm.trans ruled.2
    · intro time lifted
      rw [revoked]
      cases either with
      | inl unchanged => exact unchanged ▸ known.lifted time (unchanged ▸ lifted)
      | inr ruled => exact nomatch lifted.symm.trans ruled.2
    · intro fraud
      rw [succeeded, Function.update_apply]
      split
      · rfl
      next other =>
        cases either with
        | inl unchanged => exact unchanged ▸ known.fraud (unchanged ▸ fraud)
        | inr ruled => exact absurd (same.trans ruled.1) other
    · intro determined account listed owed
      rw [posted] at owed
      by_cases here : after.epoch = epoch
      · exact rightful after member here account listed (here ▸ owed)
      · rw [succeeded, Function.update_of_ne here] at determined
        cases either with
        | inl unchanged =>
          subst unchanged
          exact known.due determined account listed owed
        | inr ruled => exact ruled.2
  posted other account owed := by
    rw [posted] at owed ⊢
    obtain ⟨bond, before, inside, there, listed⟩ := tracked.posted other account owed
    obtain ⟨after, member, same, all⟩ := kept before inside
    exact ⟨bond, after, member, same.trans there, all ▸ listed⟩
  paid payment member := by
    rw [flags, posted]
    exact tracked.paid payment member
  settled := by
    have settled := tracked.settled
    refine { distinct := ?_, apart, once := settled.once, right := settled.right }
    intro after member
    obtain ⟨before, inside, -, all, -⟩ := origin after member
    exact all ▸ settled.distinct before inside

/-- A revoked root convicts, if the challengers with bonds meant it. -/
theorem Proceedings.Tracked.revoke
    (rightful : ∀ trial ∈ (record.judge epoch Trial.convicted).trials, trial.epoch = epoch →
      ∀ account ∈ trial.challengers, deposits.posted epoch account ≠ 0 →
        trial.verdict = .fraud) :
    (record.judge epoch Trial.convicted).Tracked vault (state.afterRevoke epoch)
      (deposits.stamp epoch 0) := by
  have same : ∀ trial : Trial, (trial.onStanding epoch Trial.convicted).epoch = trial.epoch :=
    fun trial => Trial.epoch_onStanding _ rfl
  have all : ∀ trial : Trial,
      (trial.onStanding epoch Trial.convicted).challengers = trial.challengers := by
    intro trial
    unfold Trial.onStanding
    split <;> rfl
  refine tracked.determine rfl rfl rfl rfl rfl rfl ?_ ?_ ?_ ?_ ?_ rightful
  · intro after member
    obtain ⟨before, inside, rfl⟩ := mem_map.mp member
    refine ⟨before, inside, same before, all before, ?_⟩
    unfold Trial.onStanding
    split
    next ruled => exact .inr ⟨ruled.1, rfl⟩
    next => exact .inl rfl
  · exact fun before inside => ⟨_, mem_map_of_mem inside, same before, all before⟩
  · intro after member standing
    obtain ⟨before, inside, rfl⟩ := mem_map.mp member
    have other : before.epoch ≠ epoch := by
      intro here
      unfold Trial.onStanding at standing
      split at standing
      next => exact nomatch standing
      next kept => exact kept ⟨here, standing⟩
    rw [same, Deposits.committedAt_stamp, if_neg other]
    exact ⟨Function.update_of_ne other .., rfl⟩
  · intro other committed
    by_cases here : other = epoch
    · rw [here] at committed
      exact absurd (Function.update_self ..) committed
    · have before : state.root other ≠ 0 := by
        have unchanged : (state.afterRevoke epoch).root other = state.root other :=
          Function.update_of_ne here ..
        rwa [unchanged] at committed
      obtain ⟨trial, member, there, standing⟩ := tracked.heard other before
      refine ⟨_, mem_map_of_mem member, (same trial).trans there, ?_⟩
      rw [Trial.onStanding, if_neg fun both => here (there.symm.trans both.1)]
      exact standing
  · refine pairwise_map.mpr (tracked.settled.apart.imp fun {one two} apart alike => ?_)
    rw [same, same] at alike
    rw [all, all]
    obtain ⟨alone, disjoint⟩ := apart alike
    refine ⟨fun stands stands' => ?_, disjoint⟩
    unfold Trial.onStanding at stands stands'
    split at stands
    · exact nomatch stands
    · split at stands'
      · exact nomatch stands'
      · exact alone stands stands'

theorem Proceedings.Tracked.confirm
    (rightful : ∀ trial ∈ (record.convict epoch).trials, trial.epoch = epoch →
      ∀ account ∈ trial.challengers, deposits.posted epoch account ≠ 0 →
        trial.verdict = .fraud) :
    (record.convict epoch).Tracked vault (state.afterConfirm epoch) deposits := by
  refine tracked.determine rfl rfl rfl rfl rfl rfl ?_ ?_ ?_ ?_ ?_ rightful
  · intro after member
    cases Trial.mem_convictLatest member with
    | inl old => exact ⟨after, old, rfl, rfl, .inl rfl⟩
    | inr ruled =>
      obtain ⟨before, inside, here, -, rfl⟩ := ruled
      exact ⟨before, inside, rfl, rfl, .inr ⟨here, rfl⟩⟩
  · intro before inside
    obtain ⟨after, member, same, all, -⟩ := Trial.exists_mem_convictLatest inside
    exact ⟨after, member, same, all⟩
  · exact fun _ _ _ => ⟨rfl, rfl⟩
  · intro other committed
    obtain ⟨trial, inside, there, standing⟩ := tracked.heard other committed
    obtain ⟨after, member, same, -, stands⟩ := Trial.exists_mem_convictLatest inside
    exact ⟨after, member, same.trans there, stands standing⟩
  · exact Trial.pairwise_convictLatest tracked.settled.apart

/-- A bond that can be claimed belongs to a trial that allows it. -/
theorem Proceedings.Tracked.claimed {challenger : Address}
    (owed : deposits.posted epoch challenger ≠ 0) (decided : state.succeeded epoch = true ∨
      0 < state.revokedAt epoch ∧
        state.revokedAt epoch + CHALLENGE_ADJUDICATION_PERIOD < state.now ∨
      state.revokedAt epoch = 0 ∧ (0 < deposits.committedAt epoch →
        deposits.committedAt epoch + DELEGATION_CHALLENGE_PERIOD < state.now)) :
    ∃ trial, record.trialOf epoch challenger = some trial ∧
      if state.succeeded epoch then trial.verdict = .fraud else trial.Cleared state.now := by
  obtain ⟨-, listed, inside, there, member⟩ := tracked.posted epoch challenger owed
  have found : (record.trialOf epoch challenger).isSome = true := by
    rw [Proceedings.trialOf, find?_isSome]
    exact ⟨listed, inside, decide_eq_true ⟨there, member⟩⟩
  obtain ⟨trial, same⟩ := Option.isSome_iff_exists.mp found
  refine ⟨trial, same, ?_⟩
  have known := tracked.known trial (mem_of_find?_eq_some same)
  have matched := find?_some same
  obtain ⟨rfl, challenged⟩ := of_decide_eq_true matched
  by_cases determined : state.succeeded trial.epoch = true
  · rw [if_pos determined]
    exact known.due determined challenger challenged owed
  · rw [if_neg determined]
    cases verdict : trial.verdict with
    | fraud => exact absurd (known.fraud verdict) determined
    | standing =>
      obtain ⟨-, time, positive, quiet⟩ := known.standing verdict
      obtain revoked | survived := decided.resolve_left determined
      · rw [quiet revoked.1] at challenged
        cases challenged
      · rw [time] at survived
        rw [Trial.Cleared, verdict]
        exact survived.2 positive
    | lifted time =>
      obtain ⟨positive, earlier⟩ := known.lifted time verdict
      obtain expired | never := decided.resolve_left determined
      · rw [Trial.Cleared, verdict]
        exact (Nat.add_le_add_right earlier _).trans_lt expired.2
      · rw [never.1] at earlier
        exact absurd (positive.trans_le earlier) (Nat.lt_irrefl 0)

/-- A rightful claim settles the bond. -/
theorem Proceedings.Tracked.claim (payment : Payment)
    (owed : deposits.posted payment.epoch payment.challenger ≠ 0) (right : payment.Right vault) :
    Proceedings.Tracked vault state (deposits.post payment.epoch payment.challenger 0)
      { record with payments := payment :: record.payments } := by
  obtain ⟨-, listed, inside, there, member⟩ := tracked.posted _ _ owed
  have cleared : ∀ epoch account, (deposits.post payment.epoch payment.challenger 0).posted epoch
      account ≠ 0 → deposits.posted epoch account ≠ 0 ∧
        (deposits.post payment.epoch payment.challenger 0).posted epoch account =
          deposits.posted epoch account := by
    intro epoch account still
    rw [Deposits.posted_post] at still ⊢
    split at still
    · exact absurd rfl still
    next other =>
      rw [if_neg other]
      exact ⟨still, rfl⟩
  refine { tracked with known := ?_, posted := ?_, paid := ?_, settled := ?_ }
  · intro trial member
    have known := tracked.known trial member
    exact { known with
      due := fun determined account listed still =>
        known.due determined account listed (cleared _ _ still).1 }
  · intro epoch account still
    obtain ⟨before, same⟩ := cleared epoch account still
    rw [same]
    exact tracked.posted epoch account before
  · intro earlier member
    cases mem_cons.mp member with
    | inl new =>
      subst new
      refine ⟨there ▸ (tracked.known listed inside).flagged _ ‹_›, ?_⟩
      rw [Deposits.posted_post, if_pos ⟨rfl, rfl⟩]
    | inr old =>
      obtain ⟨flagged, settled⟩ := tracked.paid earlier old
      refine ⟨flagged, ?_⟩
      rw [Deposits.posted_post, settled, ite_self]
  · have settled := tracked.settled
    refine { distinct := settled.distinct, apart := settled.apart, once := ?_, right := ?_ }
    · rw [map_cons]
      refine nodup_cons.mpr ⟨fun twice => ?_, settled.once⟩
      obtain ⟨earlier, old, same⟩ := mem_map.mp twice
      obtain ⟨epochs, accounts⟩ := Prod.mk.inj same
      have spent := (tracked.paid earlier old).2
      rw [epochs, accounts] at spent
      exact owed spent
    · intro earlier member
      cases mem_cons.mp member with
      | inl new => exact new ▸ right
      | inr old => exact settled.right earlier old

end

end Steps

section Runs

variable {env : Environment} {chain next : Chain} {sender : Address} {record : Proceedings}

theorem Proceedings.Tracked.quiet {vault : Address} {state after : Delegation} {deposits : Deposits}
    {move : Move} (tracked : record.Tracked vault state deposits) (moved : state.Moves move after)
    (votes : ∀ attestor epoch root, move ≠ .vote attestor epoch root)
    (commits : ∀ keeper epoch root, move ≠ .commit keeper epoch root)
    (challenges : ∀ challenger epoch, move ≠ .challenge challenger epoch)
    (revokes : ∀ epoch, move ≠ .revoke epoch) (confirms : ∀ epoch, move ≠ .confirm epoch) :
    record.Tracked vault after deposits := by
  cases moved with
  | vote => exact absurd rfl (votes _ _ _)
  | commit => exact absurd rfl (commits _ _ _)
  | challenge => exact absurd rfl (challenges _ _)
  | revoke => exact absurd rfl (revokes _)
  | confirm => exact absurd rfl (confirms _)
  | advance => exact tracked.keep (Nat.le_add_right _ _) rfl rfl rfl rfl rfl
  | _ => exact tracked.keep (Nat.le_refl _) rfl rfl rfl rfl rfl

section

variable (tracked : record.Tracked env.address chain.delegation chain.deposits)
include tracked

/-- A safe call keeps the record of the trials. -/
theorem Proceedings.Tracked.execute {function : Function}
    (done : function.execute env sender chain = .ok next) (safe : record.Safe chain function) :
    (record.file chain next sender function).Tracked env.address next.delegation
      next.deposits := by
  have kept := deposits_execute done
  have moved := moves_execute done
  rw [kept]
  generalize next.delegation = after at moved ⊢
  cases function with
  | submitDelegationVote attestation epoch root registry count =>
    cases moved with
    | vote current vacant bonded fresh =>
      simp only [Proceedings.file, Deposits.after]
      by_cases reached : DELEGATION_QUORUM ≤ chain.delegation.voteCount epoch root + 1
      · have reached' : DELEGATION_QUORUM ≤
            chain.vault.delegationVoteCount epoch root + 1 := reached
        rw [if_pos reached, if_pos reached']
        refine tracked.commit vacant ?_ rfl rfl rfl rfl rfl
        exact if_pos reached
      · have short : ¬DELEGATION_QUORUM ≤
            chain.vault.delegationVoteCount epoch root + 1 := reached
        rw [if_neg reached, if_neg short]
        refine tracked.keep (Nat.le_refl _) ?_ rfl rfl rfl rfl
        exact if_neg reached
  | commitDelegationSnapshot attestation epoch root registry count =>
    cases moved with
    | commit current vacant bonded => exact tracked.commit vacant rfl rfl rfl rfl rfl rfl
  | challengeDelegationCommitment epoch =>
    cases moved with
    | challenge current live fresh => exact tracked.challenge live.1 fresh safe
  | revokeDelegationSnapshot epoch =>
    cases moved with
    | revoke current live => exact tracked.revoke safe
  | confirmDelegationFraud epoch =>
    cases moved with
    | confirm revoked soon => exact tracked.confirm safe
  | claimChallengerBond epoch =>
    cases moved with
    | idle =>
      obtain ⟨owed, decided, transferred, -⟩ := claimChallengerBond_eq_ok done
      obtain ⟨trial, found, outcome⟩ :=
        tracked.claimed owed (challengeDecided_eq_ok decided)
      have bond := (tracked.posted epoch sender owed).1
      rw [bond] at transferred
      refine tracked.claim (Payment.mk epoch sender chain.vault.treasury chain.block.timestamp
        (record.trialOf epoch sender) chain.aethel next.aethel) owed ⟨trial, found, ?_⟩
      split at outcome
      next determined =>
        rw [if_pos determined] at transferred
        exact .inl ⟨outcome, transferred⟩
      next undetermined =>
        rw [if_neg undetermined] at transferred
        exact .inr ⟨outcome, transferred⟩
  | _ => refine tracked.quiet moved ?_ ?_ ?_ ?_ ?_ <;> intros <;> simp [Function.move]

theorem Proceedings.Tracked.step (action : Action)
    (safe : Proceedings.SafeStep env (chain, record) action) :
    (record.after env chain action).Tracked env.address (step env chain action).delegation
      (step env chain action).deposits := by
  cases action with
  | advance blocks seconds => exact tracked.keep (Nat.le_add_right _ _) rfl rfl rfl rfl rfl
  | call sender function =>
    simp only [Proceedings.SafeStep] at safe
    simp only [Proceedings.after, Cruzible.step]
    cases done : function.execute env sender chain with
    | ok after =>
      rw [done] at safe
      exact tracked.execute done (safe rfl)
    | error reason => exact tracked
  | aethel sender call =>
    simp only [Proceedings.after, Cruzible.step]
    split <;> exact tracked
  | stAethel sender call =>
    simp only [Proceedings.after, Cruzible.step]
    split <;> exact tracked

end

theorem deposits_initialized (initialized : Initialized env chain) :
    chain.deposits.posted = fun _ _ => 0 := by
  obtain ⟨block, aethel, stAethel, access, treasury, -, rfl⟩ := initialized_eq initialized
  rfl

theorem tracked_initialized (initialized : Initialized env chain) :
    Proceedings.empty.Tracked env.address chain.delegation chain.deposits := by
  obtain ⟨block, aethel, stAethel, same⟩ := delegation_initialized initialized
  have unposted := deposits_initialized initialized
  rw [same]
  exact {
    started := block.started
    judged := fun _ => Nat.zero_le _
    counted := fun _ revoked => absurd revoked (Nat.lt_irrefl 0)
    heard := fun _ committed => absurd rfl committed
    known := nofun
    posted := fun epoch challenger owed =>
      absurd (congrFun (congrFun unposted epoch) challenger) owed
    paid := nofun
    settled := ⟨nofun, Pairwise.nil, nodup_nil, nofun⟩ }

def attend (env : Environment) (state : Chain × Proceedings) (action : Action) :
    Chain × Proceedings :=
  (step env state.1 action, state.2.after env state.1 action)

/-- In every run of safe steps every bond of a challenger is paid at most once, and to whom it
belongs. -/
theorem run_settled (initialized : Initialized env chain) (actions : List Action)
    (along : Run.Along (attend env) (Proceedings.SafeStep env) (chain, .empty) actions) :
    (Run.exec (attend env) (chain, .empty) actions).2.Settled env.address := by
  have tracked := Run.invariant
    (fun state : Chain × Proceedings =>
      state.2.Tracked env.address state.1.delegation state.1.deposits)
    (fun _ action safe before => before.step action safe) (tracked_initialized initialized) along
  exact tracked.settled

def refundedChallenge : List Action :=
  delegationSetup ++ [commitDirectly 33, challengeBy 1, .call 0xa (.revokeDelegationSnapshot 1),
    .call 1 (.claimChallengerBond 1)]

theorem run_settled_local :
    (Run.exec (attend localnet) (localVault, .empty) refundedChallenge).2.payments.map
        (·.trial.map (·.verdict)) = [some .fraud] ∧
      (Run.exec (attend localnet) (localVault, .empty) refundedChallenge).2.Settled
        localnet.address :=
  ⟨by decide +kernel, run_settled localVault_initialized _ (by decide +kernel)⟩

def refundedEarly : List Action :=
  delegationSetup ++ [commitDirectly 33, .call 0xa (.revokeDelegationSnapshot 1),
    commitDirectly 34, challengeBy 1, .call 1 (.claimChallengerBond 1)]

def Proceedings.outcomes (record : Proceedings) : List (Option (Verdict × Bool)) :=
  record.payments.map fun payment =>
    payment.trial.map fun trial => (trial.verdict, decide (trial.Cleared payment.time))

/-- The bond goes back to the challenger of a root that nobody has found to be fraudulent. -/
theorem refunded_not_settled :
    Initialized localnet localVault ∧
      ¬(Run.exec (attend localnet) (localVault, .empty) refundedEarly).2.Settled
        localnet.address := by
  refine ⟨localVault_initialized, fun settled => ?_⟩
  have outcomes : (Run.exec (attend localnet) (localVault, .empty) refundedEarly).2.outcomes =
      [some (.standing, false)] := by decide +kernel
  have listed : some (Verdict.standing, false) ∈
      (Run.exec (attend localnet) (localVault, .empty) refundedEarly).2.outcomes := by
    rw [outcomes]
    exact mem_singleton_self _
  obtain ⟨payment, member, same⟩ := mem_map.mp listed
  obtain ⟨trial, found, outcome⟩ := settled.right payment member
  rw [found, Option.map_some, Option.some.injEq, Prod.mk.injEq, decide_eq_false_iff_not] at same
  obtain fraud | cleared := outcome
  · rw [fraud.1] at same
    exact nomatch same.1
  · exact same.2 cleared.1

end Runs

end Cruzible
