import Aethelred.Contracts.CruzibleMoves

/- Who stands behind a delegation root and who has challenged it, told apart by commitment, and
what the counters of the vault make of it. -/
namespace Cruzible

open Evm List Delegation

/-- Votes and challenges of an epoch: those since its last revocation, and whether there were any
before. -/
structure Ballot where
  votes : Bytes32 → List Address
  staleVotes : Bytes32 → Bool
  challenges : List Address
  staleChallenges : Bool

namespace Ballot

def empty : Ballot where
  votes := fun _ => []
  staleVotes := fun _ => false
  challenges := []
  staleChallenges := false

variable (ballot : Ballot)

def close : Ballot where
  votes := fun _ => []
  staleVotes := fun root => ballot.staleVotes root || !(ballot.votes root).isEmpty
  challenges := []
  staleChallenges := ballot.staleChallenges || !ballot.challenges.isEmpty

def cast (attestor : Address) (root : Bytes32) : Ballot :=
  { ballot with votes := Function.update ballot.votes root (attestor :: ballot.votes root) }

def flag (challenger : Address) : Ballot :=
  { ballot with challenges := challenger :: ballot.challenges }

/-- The counters and marks of an epoch, with nothing left in the counters from before. -/
structure Tallied (voteCount : Bytes32 → Nat) (voted : Address → Bool) (challengeCount : Nat)
    (challengers : Address → Bool) (ballot : Ballot) : Prop where
  votes : ∀ root, ballot.staleVotes root = false → voteCount root = (ballot.votes root).length
  voted : ∀ root, ∀ attestor ∈ ballot.votes root, voted attestor = true
  voters : ∀ root, (ballot.votes root).Nodup
  challenges : ballot.staleChallenges = false → challengeCount = ballot.challenges.length
  flagged : ∀ challenger ∈ ballot.challenges, challengers challenger = true
  challengers : ballot.challenges.Nodup

section Tallying

variable {voteCount : Bytes32 → Nat} {voted challengers : Address → Bool} {challengeCount : Nat}
  {ballot : Ballot}

section

variable (tallied : ballot.Tallied voteCount voted challengeCount challengers)
include tallied

theorem Tallied.close :
    ballot.close.Tallied voteCount voted challengeCount challengers where
  votes root fresh := by
    simp only [Ballot.close, Bool.or_eq_false_iff, Bool.not_eq_false', List.isEmpty_iff] at fresh
    rw [tallied.votes root fresh.1, fresh.2]
    rfl
  voted _ _ member := nomatch member
  voters _ := nodup_nil
  challenges fresh := by
    simp only [Ballot.close, Bool.or_eq_false_iff, Bool.not_eq_false', List.isEmpty_iff] at fresh
    rw [tallied.challenges fresh.1, fresh.2]
    rfl
  flagged _ member := nomatch member
  challengers := nodup_nil

/-- A first vote is counted once. -/
theorem Tallied.cast {attestor : Address} (fresh : voted attestor = false) (root : Bytes32) :
    (ballot.cast attestor root).Tallied
      (Function.update voteCount root (voteCount root + 1)) (Function.update voted attestor true)
      challengeCount challengers where
  votes other clean := by
    have before := tallied.votes other clean
    simp only [Ballot.cast]
    by_cases same : other = root
    · subst same
      rw [Function.update_self, Function.update_self, length_cons, before]
    · rw [Function.update_of_ne same, Function.update_of_ne same]
      exact before
  voted other voter member := by
    by_cases named : voter = attestor
    · rw [named, Function.update_self]
    · rw [Function.update_of_ne named]
      simp only [Ballot.cast] at member
      by_cases same : other = root
      · subst same
        rw [Function.update_self] at member
        obtain rfl | earlier := mem_cons.mp member
        · contradiction
        · exact tallied.voted other voter earlier
      · rw [Function.update_of_ne same] at member
        exact tallied.voted other voter member
  voters other := by
    simp only [Ballot.cast]
    by_cases same : other = root
    · subst same
      rw [Function.update_self]
      refine nodup_cons.mpr ⟨fun member => ?_, tallied.voters other⟩
      rw [tallied.voted other attestor member] at fresh
      contradiction
    · rw [Function.update_of_ne same]
      exact tallied.voters other
  challenges := tallied.challenges
  flagged := tallied.flagged
  challengers := tallied.challengers

theorem Tallied.flag {challenger : Address} (fresh : challengers challenger = false) :
    (ballot.flag challenger).Tallied voteCount voted (challengeCount + 1)
      (Function.update challengers challenger true) where
  votes := tallied.votes
  voted := tallied.voted
  voters := tallied.voters
  challenges clean := congrArg (· + 1) (tallied.challenges clean)
  flagged other member := by
    by_cases named : other = challenger
    · rw [named, Function.update_self]
    · rw [Function.update_of_ne named]
      obtain rfl | earlier := mem_cons.mp member
      · contradiction
      · exact tallied.flagged other earlier
  challengers := by
    refine nodup_cons.mpr ⟨fun member => ?_, tallied.challengers⟩
    rw [tallied.flagged challenger member] at fresh
    contradiction

end

end Tallying

end Ballot

abbrev Ballots := Key → Ballot

namespace Ballots

variable (state : Delegation) (ballots : Ballots)

def after : Move → Ballots
  | .vote attestor epoch root =>
    Function.update ballots epoch ((ballots epoch).cast attestor root)
  | .challenge challenger epoch =>
    let flagged := (ballots epoch).flag challenger
    Function.update ballots epoch
      (if DELEGATION_CHALLENGE_THRESHOLD ≤ state.challengeCount epoch + 1 then flagged.close
        else flagged)
  | .revoke epoch => Function.update ballots epoch (ballots epoch).close
  | _ => ballots

/-- A root that a vote commits has enough attestors who voted for it since the last revocation, and
a root that a challenge revokes has enough challengers. -/
def Supported : Move → Prop
  | .vote attestor epoch root => DELEGATION_QUORUM ≤ state.voteCount epoch root + 1 →
      DELEGATION_QUORUM ≤ (attestor :: (ballots epoch).votes root).toFinset.card
  | .challenge challenger epoch =>
    DELEGATION_CHALLENGE_THRESHOLD ≤ state.challengeCount epoch + 1 →
      DELEGATION_CHALLENGE_THRESHOLD ≤ (challenger :: (ballots epoch).challenges).toFinset.card
  | _ => True

/-- Nobody votes for a root that had votes before the last revocation of its epoch, or challenges
in an epoch that had challenges before it. -/
def Fresh : Move → Prop
  | .vote _ epoch root => (ballots epoch).staleVotes root = false
  | .challenge _ epoch => (ballots epoch).staleChallenges = false
  | _ => True

instance :
    (move : Move) → Decidable (ballots.Supported state move)
  | .vote _ _ _ => inferInstanceAs (Decidable (_ → _))
  | .challenge _ _ => inferInstanceAs (Decidable (_ → _))
  | .idle | .advance _ | .commit _ _ _ | .revoke _ | .confirm _ | .deposit _ _ | .withdraw _ _
  | .slash _ _ | .release _ | .finalize _ => .isTrue trivial

instance : (move : Move) → Decidable (ballots.Fresh move)
  | .vote _ _ _ => inferInstanceAs (Decidable (_ = _))
  | .challenge _ _ => inferInstanceAs (Decidable (_ = _))
  | .idle | .advance _ | .commit _ _ _ | .revoke _ | .confirm _ | .deposit _ _ | .withdraw _ _
  | .slash _ _ | .release _ | .finalize _ => .isTrue trivial

/-- Every epoch's counters are those of its ballots. -/
def Tallied : Prop :=
  ∀ epoch, (ballots epoch).Tallied (state.voteCount epoch) (state.voted epoch)
    (state.challengeCount epoch) (state.challengers epoch)

section Moves

variable {state next : Delegation} {ballots : Ballots} {move : Move}

section

variable (tallied : ballots.Tallied state) (made : state.Moves move next)
include tallied made

/-- Every move of the state is counted. -/
theorem Tallied.moves :
    (ballots.after state move).Tallied next := by
  intro other
  cases made with
  | @vote attestor epoch root current vacant bonded fresh =>
    simp only [after, afterVote]
    by_cases same : other = epoch
    · subst same
      simp only [Function.update_self]
      exact (tallied other).cast fresh root
    · simp only [Function.update_of_ne same]
      exact tallied other
  | @challenge challenger epoch current live fresh =>
    simp only [after, afterChallenge]
    by_cases same : other = epoch
    · subst same
      have flagged := (tallied other).flag fresh
      split
      · simp only [Function.update_self]
        exact flagged.close
      · simp only [Function.update_self]
        exact flagged
    · split
      · simp only [Function.update_of_ne same]
        exact tallied other
      · simp only [Function.update_of_ne same]
        exact tallied other
  | @revoke epoch current live =>
    simp only [after, afterRevoke]
    by_cases same : other = epoch
    · subst same
      rw [Function.update_self]
      exact (tallied other).close
    · rw [Function.update_of_ne same]
      exact tallied other
  | _ => exact tallied other

/-- A vote or a challenge that meets nothing stale is counted with its like only. -/
theorem Tallied.supported
    (fresh : ballots.Fresh move) : ballots.Supported state move := by
  cases made with
  | @vote attestor epoch root current vacant bonded unmarked =>
    intro enough
    have distinct := ((tallied epoch).cast unmarked root).voters root
    simp only [Ballot.cast, Function.update_self] at distinct
    rwa [toFinset_card_of_nodup distinct, length_cons,
      ← (tallied epoch).votes root fresh]
  | @challenge challenger epoch current live unmarked =>
    intro enough
    have distinct := ((tallied epoch).flag unmarked).challengers
    simp only [Ballot.flag] at distinct
    rwa [toFinset_card_of_nodup distinct, length_cons,
      ← (tallied epoch).challenges fresh]
  | _ => trivial

end

end Moves

end Ballots

/- Quorums and challenges over whole runs of the vault. -/

def audit (env : Environment) (state : Chain × Ballots) (action : Action) : Chain × Ballots :=
  (step env state.1 action,
    state.2.after state.1.delegation (moveOf env state.1 action))

section Runs

variable {env : Environment} {chain : Chain}

theorem tallied_audit {state : Chain × Ballots} (tallied : state.2.Tallied state.1.delegation)
    (action : Action) : (audit env state action).2.Tallied (audit env state action).1.delegation :=
  tallied.moves (moves_step env state.1 action)

theorem delegation_initialized (initialized : Initialized env chain) : ∃ block aethel stAethel,
    chain.delegation = { (Chain.blank block aethel stAethel).delegation with epoch := 1 } := by
  obtain ⟨block, aethel, stAethel, access, treasury, -, rfl⟩ := initialized_eq initialized
  exact ⟨block, aethel, stAethel, rfl⟩

theorem tallied_initialized (initialized : Initialized env chain) :
    Ballots.Tallied chain.delegation fun _ => Ballot.empty := by
  obtain ⟨block, aethel, stAethel, same⟩ := delegation_initialized initialized
  intro epoch
  rw [same]
  exact {
    votes := fun _ _ => rfl
    voted := fun _ _ member => nomatch member
    voters := fun _ => nodup_nil
    challenges := fun _ => rfl
    flagged := fun _ member => nomatch member
    challengers := nodup_nil }

/-- Where nothing stale is voted for or challenged, every root a vote commits has its quorum since
the last revocation, and every root challenges revoke has its challengers. -/
theorem run_supported (initialized : Initialized env chain) (actions : List Action)
    (along : Run.Along (audit env)
      (fun state action => state.2.Fresh (moveOf env state.1 action))
      (chain, fun _ => Ballot.empty) actions) :
    Run.Along (audit env)
      (fun state action => state.2.Supported state.1.delegation (moveOf env state.1 action))
      (chain, fun _ => Ballot.empty) actions :=
  along.of_invariant (fun state : Chain × Ballots => state.2.Tallied state.1.delegation)
    (fun _ action _ tallied => tallied_audit tallied action)
    (fun state action tallied fresh =>
      tallied.supported (moves_step env state.1 action) fresh)
    (tallied_initialized initialized)

/-- Bonded attestors 7, 8 and 9 and keeper 0xa of the local vault, and a stake snapshot. -/
def delegationSetup : List Action :=
  [.call 0xa (.grantRole DELEGATION_ATTESTOR_ROLE 7),
    .call 0xa (.grantRole DELEGATION_ATTESTOR_ROLE 8),
    .call 0xa (.grantRole DELEGATION_ATTESTOR_ROLE 9),
    .call 7 (.depositKeeperBond KEEPER_BOND_MINIMUM),
    .call 8 (.depositKeeperBond KEEPER_BOND_MINIMUM),
    .call 9 (.depositKeeperBond KEEPER_BOND_MINIMUM),
    .call 0xa (.depositKeeperBond KEEPER_BOND_MINIMUM),
    .call 0xa (.commitStakeSnapshot 1 5 0)]

/-- A vote in epoch 1 with an attestation of the root. -/
def voteFor (attestor : Address) (root : Bytes32) : Action :=
  .call attestor (.submitDelegationVote ⟨true, [1, root, 0], 0⟩ 1 root 0 3)

def commitDirectly (root : Bytes32) : Action :=
  .call 0xa (.commitDelegationSnapshot ⟨true, [1, root, 0], 0⟩ 1 root 0 3)

def challengeBy (challenger : Address) : Action :=
  .call challenger (.challengeDelegationCommitment 1)

theorem run_supported_local :
    ((Run.exec (audit localnet) (localVault, fun _ => Ballot.empty)
        (delegationSetup ++ [voteFor 7 33, voteFor 8 33])).1.vault.epochSnapshots
          1).delegationRegistryRoot = 33 ∧
      Run.Along (audit localnet)
        (fun state action => state.2.Supported state.1.delegation (moveOf localnet state.1 action))
        (localVault, fun _ => Ballot.empty) (delegationSetup ++ [voteFor 7 33, voteFor 8 33]) :=
  ⟨by decide +kernel, run_supported localVault_initialized _ (by decide +kernel)⟩

/-- After a revocation, one more vote commits the revoked root again, and one challenge revokes the
next one. -/
theorem stale_not_supported :
    Initialized localnet localVault ∧
      ¬Run.Along (audit localnet)
        (fun state action => state.2.Supported state.1.delegation (moveOf localnet state.1 action))
        (localVault, fun _ => Ballot.empty)
        (delegationSetup ++ [voteFor 7 33, voteFor 8 33, .call 0xa (.revokeDelegationSnapshot 1),
          voteFor 9 33]) ∧
      ¬Run.Along (audit localnet)
        (fun state action => state.2.Supported state.1.delegation (moveOf localnet state.1 action))
        (localVault, fun _ => Ballot.empty)
        (delegationSetup ++ [voteFor 7 33, voteFor 8 33, challengeBy 1, challengeBy 2,
          .call 0xa (.revokeDelegationSnapshot 1), commitDirectly 34, challengeBy 3]) :=
  ⟨localVault_initialized, by decide +kernel, by decide +kernel⟩

/-- The finalized epochs are those before the current one. -/
structure Delegation.InOrder (state : Delegation) : Prop where
  started : 1 ≤ state.epoch.val
  finalized : ∀ epoch, state.finalized epoch = true ↔ 1 ≤ epoch.val ∧ epoch.val < state.epoch.val

/-- Finalized epochs stay finalized, with the root they had. -/
def Delegation.KeepsFinal (state after : Delegation) : Prop :=
  ∀ epoch, state.finalized epoch = true →
    after.finalized epoch = true ∧ after.root epoch = state.root epoch

/-- Only the root of the current epoch is written, which is not finalized. -/
theorem Delegation.InOrder.moves {state after : Delegation} {move : Move}
    (ordered : state.InOrder) (moves : state.Moves move after) :
    after.InOrder ∧ state.KeepsFinal after := by
  have still {epoch : Key} (root : Bytes32) (done : state.finalized epoch = true) :
      Function.update state.root state.epoch root epoch = state.root epoch := by
    apply Function.update_of_ne
    rintro rfl
    exact Nat.lt_irrefl _ ((ordered.finalized _).mp done).2
  cases moves with
  | vote current vacant bonded fresh =>
    subst current
    refine ⟨⟨ordered.1, ordered.2⟩, fun epoch done => ⟨done, ?_⟩⟩
    unfold afterVote
    dsimp only
    split
    · exact still _ done
    · rfl
  | commit current | revoke current =>
    subst current
    exact ⟨⟨ordered.1, ordered.2⟩, fun epoch done => ⟨done, still _ done⟩⟩
  | challenge current live fresh =>
    subst current
    unfold afterChallenge
    dsimp only
    split
    · exact ⟨⟨ordered.1, ordered.2⟩, fun epoch done => ⟨done, still _ done⟩⟩
    · exact ⟨⟨ordered.1, ordered.2⟩, fun epoch done => ⟨done, rfl⟩⟩
  | @finalize epoch following current unused later =>
    subst current
    have started := ordered.started
    refine ⟨⟨later ▸ Nat.le_add_left 1 _, fun other => ?_⟩, fun other done => ⟨?_, rfl⟩⟩
    · have before := ordered.finalized other
      simp only [afterFinalize, later, Function.update_apply]
      split
      next same => simp [same, started]
      next other =>
        have apart := Fin.val_ne_of_ne other
        rw [before]
        omega
    · exact (Function.update_apply ..).trans (ite_eq_left_iff.mpr fun _ => done)
  | _ => exact ⟨⟨ordered.1, ordered.2⟩, fun _ done => ⟨done, rfl⟩⟩

/-- Epochs are finalized one after the other, and nothing that happens later changes the delegation
root of a finalized epoch. -/
theorem run_epochs_final {env : Environment} {chain : Chain} (initialized : Initialized env chain)
    (first later : List Action) :
    (run env chain first).delegation.InOrder ∧
      (run env chain first).delegation.KeepsFinal (run env chain (first ++ later)).delegation := by
  have start : chain.delegation.InOrder := by
    obtain ⟨block, aethel, stAethel, access, treasury, -, rfl⟩ := initialized_eq initialized
    exact ⟨Nat.le_refl 1, fun epoch => ⟨nofun, fun passed => absurd passed.2 passed.1.not_gt⟩⟩
  have reached : (run env chain first).delegation.InOrder :=
    Run.invariant_of_step (fun chain : Chain => chain.delegation.InOrder)
      (fun chain action ordered => (ordered.moves (moves_step env chain action)).1) first start
  refine ⟨reached, ?_⟩
  rw [run, Run.exec_append]
  refine (Run.invariant_of_step (fun after : Chain => after.delegation.InOrder ∧
      (run env chain first).delegation.KeepsFinal after.delegation)
    (fun after action both => ?_) later ⟨reached, fun _ done => ⟨done, rfl⟩⟩).2
  have moved := both.1.moves (moves_step env after action)
  refine ⟨moved.1, fun epoch done => ?_⟩
  have earlier := both.2 epoch done
  have now := moved.2 epoch earlier.1
  exact ⟨now.1, now.2.trans earlier.2⟩

/-- After the time for challenges, the rewards of epoch 1 are distributed. -/
def finalizing : List Action :=
  delegationSetup ++ [commitDirectly 34, .call 0xa (.grantRole ORACLE_ROLE 0xa), .advance 10 3600,
    .call 0xa (.distributeRewards ⟨true, [1, 1000, 77, 50, 5, 0, 0, 34], 0⟩ 1 1000 77 50)]

theorem run_epochs_final_local :
    (run localnet localVault finalizing).delegation.finalized 1 = true ∧
      (run localnet localVault finalizing).delegation.InOrder ∧
      (run localnet localVault (finalizing ++ [commitDirectly 35])).delegation.root 1 = 34 := by
  have final := run_epochs_final localVault_initialized finalizing [commitDirectly 35]
  have done : (run localnet localVault finalizing).delegation.finalized 1 = true := by
    decide +kernel
  refine ⟨done, final.1, (final.2 1 done).2.trans ?_⟩
  decide +kernel

end Runs

end Cruzible
