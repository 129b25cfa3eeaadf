import Aethelred.Contracts.CruzibleMoves

/- The vault can pay what it owes, in every state and whoever calls it. -/
namespace Cruzible

open Evm AccessControl

section Runs

variable {env : Environment} {chain next : Chain} {sender : Address}

/-- Nobody else can take the vault's tokens or let anyone spend them. -/
theorem Covered.aethelCall (covered : Covered env 0 chain) {call : AethelCall} {token : Erc20}
    (other : sender ≠ env.address) (done : call.execute sender chain.aethel = .ok token) :
    Covered env 0 { chain with aethel := token } := by
  have unapproved := covered.unapproved
  cases call with
  | transfer recipient amount =>
    exact Funds.Covered.grow covered (Erc20.balanceOf_transfer_le done other.symm)
      (unapproved.transfer done)
  | transferFrom owner recipient amount =>
    exact Funds.Covered.grow covered (Erc20.balanceOf_transferFrom_le unapproved done)
      (unapproved.transferFrom done)
  | approve spender amount =>
    obtain ⟨balances, kept⟩ := Erc20.approve_spec done other.symm
    refine Funds.Covered.grow covered (Nat.le_of_eq ?_) (kept unapproved)
    rw [balances]
    rfl

theorem Covered.step (covered : Covered env 0 chain) (action : Action) :
    Covered env 0 (Cruzible.step env chain action) := by
  cases action with
  | advance blocks seconds => exact covered.of_funds rfl
  | call sender function =>
    simp only [Cruzible.step]
    cases done : function.execute env sender chain with
    | ok after => exact covered.execute done
    | error reason => exact covered
  | aethel sender call =>
    simp only [Cruzible.step]
    split
    · exact covered
    next other =>
      cases done : call.execute sender chain.aethel with
      | ok token => exact covered.aethelCall other done
      | error reason => exact covered
  | stAethel sender call =>
    simp only [Cruzible.step]
    split
    · exact covered
    · exact covered.of_funds rfl

theorem covered_initialized (initialized : Initialized env chain) : Covered env 0 chain := by
  obtain ⟨block, aethel, stAethel, access, treasury, unapproved, rfl⟩ := initialized_eq initialized
  exact {
    covered := Nat.zero_le _
    pending := (total_eq_zero fun _ => rfl).symm
    reserved := (total_eq_zero fun _ => rfl).symm
    keepers := (total_eq_zero fun _ => rfl).symm
    challengers := (total_eq_zero fun _ => total_eq_zero fun _ => rfl).symm
    unrequested := fun _ _ => rfl
    unreserved := fun _ _ => rfl
    unbonded := fun _ _ _ => rfl
    unapproved := unapproved }

theorem covered_run (initialized : Initialized env chain) (actions : List Action) :
    Covered env 0 (run env chain actions) :=
  Run.invariant_of_step (Covered env 0) (fun _ action covered => covered.step action) actions
    (covered_initialized initialized)

/-- The vault's tokens cover its five debts, and four of the totals are the sums of their records. -/
structure Solvent (env : Environment) (chain : Chain) : Prop where
  covered : chain.vault.totalPooledAethel + chain.vault.totalPendingWithdrawals +
    chain.vault.totalReservedForClaims + chain.vault.totalKeeperBonds +
    chain.vault.totalChallengerBonds ≤ chain.aethel.balanceOf env.address
  pending : chain.vault.totalPendingWithdrawals =
    total WithdrawalRequest.due chain.vault.withdrawalRequests
  reserved : chain.vault.totalReservedForClaims = total id chain.vault.epochReservedForClaims
  keepers : chain.vault.totalKeeperBonds = total id chain.vault.keeperBonds
  challengers : chain.vault.totalChallengerBonds = total (total id) chain.vault.challengerBonds

theorem Covered.solvent (covered : Covered env 0 chain) : Solvent env chain where
  covered := Funds.Covered.covered covered
  pending := Funds.Covered.pending covered
  reserved := Funds.Covered.reserved covered
  keepers := Funds.Covered.keepers covered
  challengers := Funds.Covered.challengers covered

theorem pay_ne_insufficient {recipient : Address} {amount requested available : Nat} :
    pay env chain recipient amount ≠ .error (.InsufficientVaultBalance requested available) := by
  intro failed
  unfold pay at failed
  cases moved : chain.aethel.transfer env.address recipient amount with
  | ok token =>
    rw [moved] at failed
    exact nomatch failed
  | error reason =>
    rw [moved] at failed
    exact nomatch failed

theorem claimRequest_ne_insufficient {id : Key} {requested available : Nat} :
    claimRequest sender id chain ≠ .error (.InsufficientVaultBalance requested available) := by
  intro failed
  simp only [claimRequest, revertIf, checkedSub] at failed
  split at failed
  · cases failed
  · split at failed
    · cases failed
    · split at failed
      · cases failed
      · split at failed <;> cases failed

theorem Covered.withdraw_ne_insufficient (covered : Covered env 0 chain) (sender : Address)
    (id : Key) (requested available : Nat) :
    Cruzible.withdraw env sender id chain ≠
      .error (.InsufficientVaultBalance requested available) := by
  intro failed
  unfold Cruzible.withdraw at failed
  cases claimed : Cruzible.claimRequest sender id chain with
  | error reason =>
    rw [claimed] at failed
    exact claimRequest_ne_insufficient (claimed.trans failed)
  | ok drawn =>
    have held := (claimRequest_eq_ok claimed).covered covered
    rw [Nat.zero_add] at held
    rw [claimed] at failed
    change (Cruzible.payOut env sender drawn.2 drawn.1 >>= _) = _ at failed
    rw [payOut_eq held] at failed
    cases paid : Cruzible.pay env drawn.1 sender drawn.2 with
    | error reason =>
      rw [paid] at failed
      exact pay_ne_insufficient (paid.trans (congrArg _ (Except.error.inj failed)))
    | ok after =>
      rw [paid] at failed
      exact nomatch failed

/-- However the vault is used, it stays solvent and can pay every withdrawal. -/
theorem run_solvent (initialized : Initialized env chain) (actions : List Action) :
    Solvent env (run env chain actions) ∧
      ∀ sender id requested available, withdraw env sender id (run env chain actions) ≠
        .error (.InsufficientVaultBalance requested available) :=
  ⟨(covered_run initialized actions).solvent,
    (covered_run initialized actions).withdraw_ne_insufficient⟩

theorem run_solvent_local :
    (run localnet localVault [.call 7 (.depositKeeperBond KEEPER_BOND_MINIMUM)]).vault.totalKeeperBonds =
        KEEPER_BOND_MINIMUM ∧
      Solvent localnet
        (run localnet localVault [.call 7 (.depositKeeperBond KEEPER_BOND_MINIMUM)]) :=
  ⟨by decide +kernel, (run_solvent localVault_initialized _).1⟩

end Runs

end Cruzible
