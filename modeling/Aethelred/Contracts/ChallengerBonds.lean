import Aethelred.Contracts.DelegationQuorum

/- The bonds of the challengers, and the commitment times their claims are checked against. -/
namespace Cruzible

open Evm AccessControl

variable {env : Environment} {chain next : Chain} {sender : Address} {epoch : Key}

theorem challengeDecided_eq_ok {done : Unit} (decided : challengeDecided epoch chain = .ok done) :
    chain.delegation.succeeded epoch = true ∨
      0 < chain.delegation.revokedAt epoch ∧
        chain.delegation.revokedAt epoch + CHALLENGE_ADJUDICATION_PERIOD < chain.delegation.now ∨
      chain.delegation.revokedAt epoch = 0 ∧ (0 < chain.deposits.committedAt epoch →
        chain.deposits.committedAt epoch + DELEGATION_CHALLENGE_PERIOD < chain.delegation.now) := by
  simp only [challengeDecided] at decided
  split at decided
  next succeeded => exact .inl succeeded
  next =>
    split at decided
    next revoked =>
      obtain ⟨-, decided⟩ := checkedAdd_bind_eq_ok.mp decided
      have expired := revertIf_eq_ok.mp decided
      exact .inr (.inl ⟨revoked, Nat.lt_of_not_le expired⟩)
    next never =>
      apply Or.inr
      apply Or.inr
      refine ⟨Nat.eq_zero_of_not_pos never, fun committed => ?_⟩
      rw [if_pos (show 0 < chain.vault.delegationCommitTimestamp epoch from committed)] at decided
      obtain ⟨-, decided⟩ := checkedAdd_bind_eq_ok.mp decided
      exact Nat.lt_of_not_le (revertIf_eq_ok.mp decided)

end Cruzible
