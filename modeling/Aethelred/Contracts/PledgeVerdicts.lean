import Aethelred.Contracts.PledgeMoves
import Aethelred.Contracts.DelegationQuorum

/- Challenges, revocations, verdicts and slashes keep the bonds behind the roots held. -/
namespace Cruzible

open Evm List Delegation Commitment

section Verdicts

variable {state : Delegation} {pledges : Pledges} {epoch : Key}

/-- A challenge leaves the bonds behind the pledges. -/
theorem Pledges.Backed.challenge (backed : pledges.Backed state) {challenger : Address}
    (current : epoch = state.epoch) (safe : Pledges.Safe state (.challenge challenger epoch)) :
    (pledges.after state (.challenge challenger epoch)).Backed
      (state.afterChallenge challenger epoch) := by
  simp only [Pledges.after, afterChallenge]
  split
  next reached =>
    have undecided := safe reached
    exact { backed with
      judged := fun other => by
        simp only
        by_cases same : other = epoch
        · rw [same, Function.update_self]
        · rw [Function.update_of_ne same]
          exact backed.judged other
      recorded := fun pledge member => { backed.recorded pledge member with }
      held := by
        intro changed member pledge backer
        obtain ⟨commitment, earlier, rfl⟩ := mem_map.mp member
        unfold revoke at backer ⊢
        split at backer
        next live =>
          obtain ⟨someone, holds⟩ := backed.held commitment earlier pledge backer
          rw [if_pos live]
          refine ⟨someone, fun _ => ?_⟩
          unfold Holds at holds
          rw [live.1] at holds
          refine ⟨holds.1, .inr ⟨holds.2.1, ?_, backed.started, ?_, holds.2.2.2⟩⟩
          · simp only [live.2]
            exact undecided
          · simp only [live.2, Function.update_self, Nat.le_refl]
        next settled =>
          obtain ⟨someone, holds⟩ := backed.held commitment earlier pledge backer
          rw [if_neg settled]
          refine ⟨someone, holds.keep (fun live _ => ?_) ?_⟩
          · unfold Holds at holds
            rw [live] at holds
            exact absurd ⟨live, holds.2.1.trans current.symm⟩ settled
          · refine { revokedAt := ?_ }
            simp only
            by_cases same : commitment.epoch = epoch
            · rw [same, Function.update_self]
              exact backed.judged epoch
            · rw [Function.update_of_ne same] }
  next =>
    exact { backed with
      recorded := fun pledge member => { backed.recorded pledge member with } }

variable {pledge : Pledge}

theorem Commitment.Holds.frozen {commitment : Commitment} {time : Nat}
    (holds : commitment.Holds state pledge) (someone : pledge.supporter ≠ 0)
    (fate : commitment.fate = .revoked time)
    (soon : state.now ≤ time + CHALLENGE_ADJUDICATION_PERIOD) :
    pledge.Bonded state ∧ state.freezeSubmitters commitment.epoch pledge.supporter = true := by
  unfold Holds at holds
  rw [fate] at holds
  obtain ⟨bonded, frozen | ⟨-, -, -, -, backs⟩⟩ := holds soon
  · exact ⟨bonded, frozen_freezeSubmitters frozen⟩
  · exact ⟨bonded, backs.frozen someone⟩

section

variable (backed : pledges.Backed state)
include backed

/-- A revocation sets the commitment's pledges free. -/
theorem Pledges.Backed.revoke (current : epoch = state.epoch) :
    (pledges.after state (.revoke epoch)).Backed (state.afterRevoke epoch) := { backed with
  recorded := fun pledge member => { backed.recorded pledge member with }
  held := by
    intro changed member pledge backer
    obtain ⟨commitment, earlier, rfl⟩ := mem_map.mp member
    unfold Commitment.revoke at backer ⊢
    split at backer
    next live =>
      obtain ⟨someone, holds⟩ := backed.held commitment earlier pledge backer
      rw [if_pos live]
      unfold Holds at holds
      rw [live.1] at holds
      obtain ⟨bonded, -, -, backs⟩ := holds
      rw [live.2] at backs
      exact ⟨someone, bonded, backs.frozen someone⟩
    next settled =>
      obtain ⟨someone, holds⟩ := backed.held commitment earlier pledge backer
      rw [if_neg settled]
      refine ⟨someone, ?_⟩
      unfold Holds at holds ⊢
      cases fate : commitment.fate with
      | live =>
        rw [fate] at holds
        exact absurd ⟨fate, holds.2.1.trans current.symm⟩ settled
      | revoked time =>
        rw [fate] at holds
        intro soon
        obtain ⟨bonded, frozen | ⟨same, -, -, -, backs⟩⟩ := holds soon
        · exact ⟨bonded, .inl (frozen_freezeSubmitters frozen)⟩
        · rw [same, ← current] at backs
          exact ⟨bonded, .inl (backs.frozen someone)⟩
      | convicted =>
        rw [fate] at holds
        exact ⟨holds.1, frozen_freezeSubmitters holds.2⟩ }

/-- A confirmation keeps the bonds behind the pledges. -/
theorem Pledges.Backed.confirm :
    (pledges.after state (.confirm epoch)).Backed (state.afterConfirm epoch) := { backed with
  recorded := fun pledge member => { backed.recorded pledge member with }
  held := by
    intro changed member pledge backer
    obtain ⟨commitment, earlier, rfl⟩ := mem_map.mp member
    have supporters : (commitment.convict epoch state.now).supporters = commitment.supporters := by
      unfold convict
      split
      · split <;> rfl
      · rfl
    rw [supporters] at backer
    obtain ⟨someone, holds⟩ := backed.held commitment earlier pledge backer
    refine ⟨someone, ?_⟩
    unfold convict
    cases fate : commitment.fate with
    | revoked time =>
      simp only
      split
      next ruled =>
        obtain ⟨bonded, frozen⟩ := holds.frozen someone fate ruled.2
        rw [ruled.1] at frozen
        exact ⟨bonded, frozen⟩
      next other =>
        unfold Holds
        rw [fate]
        intro soon
        have elsewhere : commitment.epoch ≠ epoch := fun same => other ⟨same, soon⟩
        unfold Holds at holds
        rw [fate] at holds
        obtain ⟨bonded, frozen | rest⟩ := holds soon
        · exact ⟨bonded, .inl (frozen_freezeSubmitters frozen)⟩
        · refine ⟨bonded, .inr ?_⟩
          simp only [afterConfirm]
          rw [Function.update_of_ne elsewhere]
          exact rest
    | live =>
      unfold Holds at holds ⊢
      rw [fate] at holds
      rw [fate]
      exact holds
    | convicted =>
      unfold Holds at holds ⊢
      rw [fate] at holds
      rw [fate]
      exact ⟨holds.1, frozen_freezeSubmitters holds.2⟩ }

/-- A dismissed keeper no longer answers for what was revoked, so its bond may thaw. -/
theorem Pledges.Backed.release (keeper : Address) :
    (pledges.after state (.release keeper)).Backed (state.afterRelease keeper) := { backed with
  recorded := fun pledge member => { backed.recorded pledge member with }
  held := by
    intro changed member pledge backer
    obtain ⟨commitment, earlier, rfl⟩ := mem_map.mp member
    unfold dismiss at backer ⊢
    split at backer
    next live =>
      obtain ⟨someone, holds⟩ := backed.held commitment earlier pledge backer
      rw [if_pos live]
      refine ⟨someone, ?_⟩
      unfold Holds at holds ⊢
      rw [live] at holds
      rw [live]
      exact holds
    next settled =>
      obtain ⟨inside, other⟩ := mem_filter.mp backer
      obtain ⟨someone, holds⟩ := backed.held commitment earlier pledge inside
      rw [if_neg settled]
      refine ⟨someone, ?_⟩
      have thawed : state.frozen pledge.supporter = true →
          (state.afterRelease keeper).frozen pledge.supporter = true := by
        intro frozen
        simp only [afterRelease]
        rw [Function.update_of_ne (of_decide_eq_true other)]
        exact frozen
      have kept : commitment.Holds (state.afterRelease keeper) pledge := by
        exact holds.keep (fun live => absurd live settled) { frozen := thawed }
      exact kept }

/-- The end of an epoch settles its pledges. -/
theorem Pledges.Backed.finalize {following : Key}
    (current : epoch = state.epoch) (later : following.val = epoch.val + 1)
    (safe : Pledges.Safe state (.finalize epoch)) :
    (pledges.after state (.finalize epoch)).Backed (state.afterFinalize epoch following) := { backed with
  unused := fun other least => by
    have after : epoch < other := by
      have bound : following.val ≤ other.val := Fin.le_def.mp least
      exact Fin.lt_def.mpr (by omega)
    simp only [afterFinalize]
    rw [Function.update_of_ne after.ne']
    exact backed.unused other (current ▸ after.le)
  recorded := fun pledge member => by
    have before := backed.recorded pledge member
    have earlier : pledge.epoch < following := by
      have past : pledge.epoch ≤ epoch := current ▸ before.past
      exact Fin.lt_def.mpr (later ▸ Nat.lt_succ_of_le (Fin.le_def.mp past))
    exact { before with past := earlier.le, bonded := fun _ same => absurd same earlier.ne }
  held := by
    intro commitment member pledge backer
    obtain ⟨earlier, settled⟩ := mem_filter.mp member
    obtain ⟨someone, holds⟩ := backed.held commitment earlier pledge backer
    refine ⟨someone, ?_⟩
    unfold Holds at holds ⊢
    cases fate : commitment.fate with
    | live =>
      rw [fate] at holds
      exact absurd ⟨fate, holds.2.1.trans current.symm⟩ (of_decide_eq_true settled)
    | revoked time =>
      rw [fate] at holds
      intro soon
      obtain ⟨bonded, frozen | ⟨same, undecided, positive, past, -⟩⟩ := holds soon
      · exact ⟨bonded, .inl frozen⟩
      · have judged : state.Adjudicating commitment.epoch :=
          ⟨positive.trans_le past, undecided, soon.trans (Nat.add_le_add_right past _)⟩
        rw [same, ← current] at judged
        exact absurd judged safe
    | convicted =>
      rw [fate] at holds
      exact holds }

end

variable {keeper : Address}

theorem Pledge.Bonded.slash (bonded : pledge.Bonded state)
    {amount : Nat} (enough : amount ≤ state.bonds keeper) :
    (pledge.mark keeper amount).Bonded
      ((state.afterBond keeper (state.bonds keeper - amount)).afterRelease keeper) := by
  simp only [Pledge.Bonded, Pledge.mark, afterBond, afterRelease] at bonded ⊢
  split
  next same =>
    rw [same] at bonded
    simp only [same, Function.update_self]
    omega
  next other => rwa [Function.update_of_ne other]

@[simp] theorem Pledge.supporter_mark (keeper : Address) (amount : Nat) (pledge : Pledge) :
    (pledge.mark keeper amount).supporter = pledge.supporter := by
  unfold Pledge.mark
  split <;> rfl

theorem Pledge.Recorded.slash (recorded : pledge.Recorded state)
    {amount : Nat} (enough : amount ≤ state.bonds keeper) :
    (pledge.mark keeper amount).Recorded
      ((state.afterBond keeper (state.bonds keeper - amount)).afterRelease keeper) := by
  have same : (pledge.mark keeper amount).epoch = pledge.epoch ∧
      (pledge.mark keeper amount).direct = pledge.direct := by
    unfold Pledge.mark
    split <;> exact ⟨rfl, rfl⟩
  refine ⟨?_, ?_, ?_, ?_⟩
  · rw [Pledge.supporter_mark]
    exact recorded.someone
  · rw [same.1]
    exact recorded.past
  · rw [same.1, same.2, Pledge.supporter_mark]
    exact recorded.voted
  · rw [same.1, same.2]
    exact fun vote current => (recorded.bonded vote current).slash enough

/-- What is slashed of a bond still counts for its pledges. -/
theorem Pledges.Backed.slash (backed : pledges.Backed state) {amount : Nat}
    (enough : amount ≤ state.bonds keeper) :
    (pledges.after state (.slash keeper amount)).Backed
      ((state.afterBond keeper (state.bonds keeper - amount)).afterRelease keeper) := by
  have supported : ∀ other account, pledges.Supported other account →
      (pledges.after state (.slash keeper amount)).Supported other account := by
    rintro other account ⟨pledge, member, epoch, supporter⟩
    refine ⟨pledge.mark keeper amount, mem_map_of_mem member, ?_, ?_⟩
    · unfold Pledge.mark
      split <;> exact epoch
    · rw [Pledge.supporter_mark]
      exact supporter
  exact { backed with
    nobody := by
      simp only [afterRelease, afterBond]
      by_cases zero : keeper = 0
      · rw [zero, Function.update_self, backed.nobody, Nat.zero_sub]
      · rw [Function.update_of_ne (Ne.symm zero)]
        exact backed.nobody
    recorded := by
      intro changed member
      obtain ⟨pledge, earlier, rfl⟩ := mem_map.mp member
      exact (backed.recorded pledge earlier).slash enough
    attested := fun other account listed => supported _ _ (backed.attested other account listed)
    committed := fun other someone => supported _ _ (backed.committed other someone)
    held := by
      intro changed member marked backer
      obtain ⟨commitment, earlier, rfl⟩ := mem_map.mp member
      unfold dismiss at backer ⊢
      split at backer
      next live =>
        rw [if_pos live]
        obtain ⟨pledge, inside, rfl⟩ := mem_map.mp backer
        obtain ⟨someone, holds⟩ := backed.held commitment earlier pledge inside
        have alive : commitment.fate = .live := live
        unfold Holds at holds ⊢
        rw [alive] at holds
        rw [live, Pledge.supporter_mark]
        exact ⟨someone, holds.1.slash enough, holds.2⟩
      next settled =>
        rw [if_neg settled]
        obtain ⟨backer, unnamed⟩ := mem_filter.mp backer
        obtain ⟨pledge, inside, rfl⟩ := mem_map.mp backer
        have other : pledge.supporter ≠ keeper := by
          have named := of_decide_eq_true unnamed
          rwa [Pledge.supporter_mark] at named
        obtain ⟨someone, holds⟩ := backed.held commitment earlier pledge inside
        rw [Pledge.mark, if_neg other]
        refine ⟨someone, ?_⟩
        have kept : commitment.Holds
            ((state.afterBond keeper (state.bonds keeper - amount)).afterRelease keeper)
            pledge := by
          refine holds.keep (fun live => absurd live settled) ?_
          exact {
            bonds := by
              simp only [afterRelease, afterBond]
              rw [Function.update_of_ne other]
            frozen := fun frozen => by
              simp only [afterRelease, afterBond]
              rw [Function.update_of_ne other]
              exact frozen }
        exact kept }

end Verdicts

section Moves

variable {state next : Delegation} {pledges : Pledges} {move : Move}

section

variable (backed : pledges.Backed state) (made : state.Moves move next)
include backed made

theorem Pledges.Backed.moves
    (safe : Pledges.Safe state move) : (pledges.after state move).Backed next := by
  cases made with
  | idle => exact backed
  | advance => exact backed.advance _
  | vote current vacant bonded fresh => exact backed.vote current vacant bonded
  | commit current vacant bonded => exact backed.commit current vacant bonded safe
  | challenge current live fresh => exact backed.challenge current safe
  | revoke current live => exact backed.revoke current
  | confirm revoked soon => exact backed.confirm
  | deposit someone =>
    exact backed.bond (fun zero => absurd zero someone) (fun _ => .inl (Nat.le_add_right _ _))
      (.inl (Nat.le_add_right _ _))
  | withdraw held thawed unlocked =>
    refine backed.bond ?_ (fun voted => .inr (safe voted)) (.inr ⟨thawed, unlocked⟩)
    rintro rfl
    rw [backed.nobody, Nat.zero_sub]
  | slash held => exact backed.slash held
  | release => exact backed.release _
  | finalize current unused later => exact backed.finalize current later safe

/-- Whoever supported a root is frozen when the guardian rules against it, and nobody else. -/
theorem Pledges.Backed.convicts :
    pledges.Convicts state next move := by
  cases made with
  | @revoke epoch current live =>
    refine ⟨?_, fun account frozen => backed.frozen_supported frozen⟩
    intro commitment member alive same pledge backer
    obtain ⟨someone, holds⟩ := backed.held commitment member pledge backer
    unfold Holds at holds
    rw [alive] at holds
    obtain ⟨-, -, -, backs⟩ := holds
    rw [same] at backs
    exact backs.frozen someone
  | @confirm epoch revoked soon =>
    refine ⟨?_, fun account frozen => backed.frozen_supported frozen⟩
    intro commitment member time fate same still pledge backer
    obtain ⟨someone, holds⟩ := backed.held commitment member pledge backer
    have frozen := (holds.frozen someone fate still).2
    rwa [same] at frozen
  | _ => trivial

end

end Moves

/- The bonds behind delegation roots over whole runs of the vault. -/

def watch (env : Environment) (state : Chain × Pledges) (action : Action) : Chain × Pledges :=
  (step env state.1 action,
    state.2.after state.1.delegation (moveOf env state.1 action))

/-- In a state, the bonds that have to be there are there, and whatever comes next, a determination
of fraud freezes the right ones. -/
structure BondsHeld (env : Environment) (state : Chain × Pledges) : Prop where
  slashable : state.2.Slashable state.1.delegation
  convicts : ∀ action, state.2.Convicts state.1.delegation (step env state.1 action).delegation
    (moveOf env state.1 action)

section Runs

variable {env : Environment} {chain : Chain}

theorem backed_initialized (initialized : Initialized env chain) :
    Pledges.empty.Backed chain.delegation := by
  obtain ⟨block, aethel, stAethel, same⟩ := delegation_initialized initialized
  rw [same]
  exact {
    started := block.started
    nobody := rfl
    judged := fun _ => Nat.zero_le _
    unused := fun _ _ => rfl
    recorded := fun _ member => nomatch member
    attested := fun _ _ member => nomatch member
    committed := fun _ nonzero => absurd rfl nonzero
    held := fun _ member => nomatch member }

/-- In every run of safe steps the bonds behind the roots are held in every state. -/
theorem run_bondsHeld (initialized : Initialized env chain) (actions : List Action)
    (along : Run.Along (watch env)
      (fun state action => Pledges.Safe state.1.delegation (moveOf env state.1 action))
      (chain, .empty) actions) : BondsHeld env (Run.exec (watch env) (chain, .empty) actions) := by
  have backed := Run.invariant (fun state : Chain × Pledges => state.2.Backed state.1.delegation)
    (fun state action safe before => before.moves (moves_step env state.1 action) safe)
    (backed_initialized initialized) along
  exact ⟨backed.slashable, fun action => backed.convicts (moves_step env _ action)⟩

theorem run_bondsHeld_local :
    ((Run.exec (watch localnet) (localVault, .empty)
        (delegationSetup ++ [voteFor 7 33, voteFor 8 33])).2.commitments.map
          (·.supporters.map (·.supporter))) = [[8, 7]] ∧
      BondsHeld localnet (Run.exec (watch localnet) (localVault, .empty)
        (delegationSetup ++ [voteFor 7 33, voteFor 8 33])) :=
  ⟨by decide +kernel, run_bondsHeld localVault_initialized _ (by decide +kernel)⟩

/-- Attestor 7 votes, withdraws its bond, and the vote of attestor 8 commits the root. -/
def voteAndWithdraw : List Action :=
  delegationSetup ++ [voteFor 7 33, .call 7 (.withdrawKeeperBond KEEPER_BOND_MINIMUM),
    voteFor 8 33]

/-- Keeper 0xa commits a root, which three challenges revoke. -/
def revokedByChallenges : List Action :=
  delegationSetup ++ [.call 0xa (.grantRole KEEPER_ROLE 7), commitDirectly 33, challengeBy 1,
    challengeBy 2, challengeBy 3]

def replacedCommitter : List Action :=
  revokedByChallenges ++
    [.call 7 (.commitDelegationSnapshot ⟨true, [1, 34, 0], 0⟩ 1 34 0 3),
      .call 0xa (.withdrawKeeperBond KEEPER_BOND_MINIMUM)]

def endedEpoch : List Action :=
  revokedByChallenges ++
    [.call 0xa (.grantRole ORACLE_ROLE 7),
      .call 7 (.distributeRewards ⟨true, [1, 0, 0, 0, 5, 0, 0, 0], 0⟩ 1 0 0 0),
      .call 0xa (.withdrawKeeperBond KEEPER_BOND_MINIMUM)]

/-- After a determination of fraud another keeper's root is revoked by challenges, and that keeper
withdraws its bond. -/
def secondRevocation : List Action :=
  delegationSetup ++ [.call 0xa (.grantRole KEEPER_ROLE 7), commitDirectly 33,
    .call 0xa (.revokeDelegationSnapshot 1),
    .call 7 (.commitDelegationSnapshot ⟨true, [1, 34, 0], 0⟩ 1 34 0 3), challengeBy 1,
    challengeBy 2, challengeBy 3, .call 7 (.withdrawKeeperBond KEEPER_BOND_MINIMUM)]

/-- Four ways out for a bond that should stay. -/
theorem escapes_not_bondsHeld :
    Initialized localnet localVault ∧
      ∀ actions ∈ [voteAndWithdraw, replacedCommitter, endedEpoch, secondRevocation],
        ¬BondsHeld localnet (Run.exec (watch localnet) (localVault, .empty) actions) := by
  refine ⟨localVault_initialized, ?_⟩
  have short : ∀ actions ∈ [voteAndWithdraw, replacedCommitter, endedEpoch, secondRevocation],
      ¬(Run.exec (watch localnet) (localVault, .empty) actions).2.Slashable
        (Run.exec (watch localnet) (localVault, .empty) actions).1.delegation := by
    decide +kernel
  exact fun actions member held => short actions member held.slashable

end Runs

end Cruzible
