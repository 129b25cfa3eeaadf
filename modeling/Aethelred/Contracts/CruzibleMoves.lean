import Aethelred.Contracts.CruzibleFunds

/- What each function of the vault does to its tokens and debts, to the share token and the pool, to
the delegation protocol and to the bonds of the challengers, said once. -/
namespace Cruzible

open Evm AccessControl Except Delegation Nat Chain

/-- The share token, the pool and the delegation protocol. -/
structure View where
  stAethel : StAethel.Storage
  pooled : Nat
  delegation : Delegation

def Chain.view (chain : Chain) : View where
  stAethel := chain.stAethel
  pooled := chain.vault.totalPooledAethel
  delegation := chain.delegation

section Snapshots

variable (chain : Chain) (epoch : Key)

theorem view_withSnapshot (change : EpochSnapshot → EpochSnapshot)
    (root : ∀ snapshot, (change snapshot).delegationRegistryRoot = snapshot.delegationRegistryRoot)
    (finalized : ∀ snapshot, (change snapshot).finalized = snapshot.finalized) :
    (withSnapshot chain epoch change).view = chain.view := by
  have roots : EpochSnapshot.delegationRegistryRoot ∘ Function.update chain.vault.epochSnapshots
      epoch (change (chain.vault.epochSnapshots epoch)) =
      EpochSnapshot.delegationRegistryRoot ∘ chain.vault.epochSnapshots := by
    rw [Function.comp_update, root]
    exact Function.update_eq_self epoch _
  have finals : EpochSnapshot.finalized ∘ Function.update chain.vault.epochSnapshots epoch
      (change (chain.vault.epochSnapshots epoch)) =
      EpochSnapshot.finalized ∘ chain.vault.epochSnapshots := by
    rw [Function.comp_update, finalized]
    exact Function.update_eq_self epoch _
  simp only [view, delegation, withSnapshot, roots, finals]

theorem view_withRoot (root : Bytes32) :
    (withSnapshot chain epoch fun snapshot =>
      { snapshot with delegationRegistryRoot := root }).view =
      { chain.view with
        delegation := { chain.delegation with
          root := Function.update chain.delegation.root epoch root } } := by
  have finals : EpochSnapshot.finalized ∘ Function.update chain.vault.epochSnapshots epoch
      { chain.vault.epochSnapshots epoch with delegationRegistryRoot := root } =
      EpochSnapshot.finalized ∘ chain.vault.epochSnapshots := by
    rw [Function.comp_update]
    exact Function.update_eq_self epoch _
  simp only [view, delegation, withSnapshot, Function.comp_update, finals]

end Snapshots

structure Deposits where
  committedAt : Key → Nat
  posted : Key → Address → Nat

def Chain.deposits (chain : Chain) : Deposits where
  committedAt := chain.vault.delegationCommitTimestamp
  posted := chain.vault.challengerBonds

namespace Deposits

def stamp (deposits : Deposits) (epoch : Key) (time : Nat) : Deposits :=
  { deposits with committedAt := Function.update deposits.committedAt epoch time }

def post (deposits : Deposits) (epoch : Key) (challenger : Address) (bond : Nat) : Deposits :=
  { deposits with
    posted := Function.update deposits.posted epoch
      (Function.update (deposits.posted epoch) challenger bond) }

def after (state : Delegation) (deposits : Deposits) (sender : Address) : Function → Deposits
  | .submitDelegationVote _ epoch root _ _ =>
    if DELEGATION_QUORUM ≤ state.voteCount epoch root + 1 then deposits.stamp epoch state.now
    else deposits
  | .commitDelegationSnapshot _ epoch _ _ _ => deposits.stamp epoch state.now
  | .challengeDelegationCommitment epoch =>
    let flagged := deposits.post epoch sender CHALLENGE_BOND
    if DELEGATION_CHALLENGE_THRESHOLD ≤ state.challengeCount epoch + 1 then flagged.stamp epoch 0
    else flagged
  | .revokeDelegationSnapshot epoch => deposits.stamp epoch 0
  | .claimChallengerBond epoch => deposits.post epoch sender 0
  | _ => deposits

section

variable (deposits : Deposits)
include deposits

theorem committedAt_stamp (epoch other : Key) (time : Nat) :
    (deposits.stamp epoch time).committedAt other =
      if other = epoch then time else deposits.committedAt other := Function.update_apply ..

@[simp] theorem posted_stamp (epoch : Key) (time : Nat) :
    (deposits.stamp epoch time).posted = deposits.posted := rfl

@[simp] theorem committedAt_post (epoch : Key) (challenger : Address)
    (bond : Nat) : (deposits.post epoch challenger bond).committedAt = deposits.committedAt := rfl

theorem posted_post (epoch other : Key) (challenger account : Address)
    (bond : Nat) : (deposits.post epoch challenger bond).posted other account =
      if other = epoch ∧ account = challenger then bond else deposits.posted other account := by
  simp only [post, Function.update_apply]
  by_cases same : other = epoch
  · subst same
    simp [Function.update_apply]
  · simp [same]

end

end Deposits

/-- What a function that does not revert does, unless it changes the share token or the pool. -/
structure Effect (env : Environment) (sender : Address) (chain : Chain) (function : Function)
    (next : Chain) : Prop where
  view : ∃ after, chain.delegation.Moves (function.move sender) after ∧
    next.view = { chain.view with delegation := after }
  deposits : next.deposits = chain.deposits.after chain.delegation sender function
  covered : Covered env 0 chain → Covered env 0 next

section Staking

variable {env : Environment} {chain next : Chain} {sender : Address} {amount shares : Nat}

/-- All that a stake does. -/
theorem stake_eq_ok (done : stake env sender amount chain = .ok (next, shares)) :
    (0 < shares ∧
      shares = (if chain.vault.totalPooledAethel = 0 then amount
        else amount * chain.stAethel.totalShares / chain.vault.totalPooledAethel) ∧
      ∃ minted, chain.stAethel.mintShares env.keccak256 env.address sender shares = .ok minted ∧
        next.view = { chain.view with
          stAethel := { minted with
            totalPooledAethel := chain.vault.totalPooledAethel + amount }
          pooled := chain.vault.totalPooledAethel + amount }) ∧
      next.deposits = chain.deposits ∧ (Covered env 0 chain → Covered env 0 next) := by
  simp only [stake, whenNotPaused, revertIf_bind_eq_ok, checkedAdd_bind_eq_ok] at done
  obtain ⟨-, -, -, -, -, -, done⟩ := done
  obtain ⟨pulled, received, done⟩ := bind_eq_ok.mp done
  have held (covered : Covered env 0 chain) : Covered env (0 + amount) pulled := by
    refine Covered.pull ?_ received
    exact covered.of_funds rfl
  obtain ⟨token, -, rfl⟩ := pull_eq_ok received
  obtain ⟨worth, valued, done⟩ := bind_eq_ok.mp done
  simp only [revertIf_bind_eq_ok, checkedAdd_bind_eq_ok] at done
  obtain ⟨some, -, done⟩ := done
  obtain ⟨minted, minting, done⟩ := bind_eq_ok.mp done
  obtain ⟨synced, synchronized, done⟩ := bind_eq_ok.mp done
  obtain rfl := syncPool_eq_ok synchronized
  obtain ⟨rfl, rfl⟩ := Prod.mk.inj (ok.inj done)
  refine ⟨⟨pos_of_ne_zero some, ?_, minted, mapError_eq_ok minting, rfl⟩, rfl,
    fun covered => ?_⟩
  · unfold sharesFor at valued
    split at valued
    next empty => rw [if_pos empty, ok.inj valued]
    next full =>
      obtain ⟨-, valued⟩ := checkedMul_bind_eq_ok.mp valued
      rw [if_neg full, ← ok.inj valued]
  · refine Covered.syncPool ?_ synchronized
    exact Funds.Covered.pooled (held covered)

/-- All that an unstaking does. -/
theorem unstake_eq_ok {id : Key} (done : unstake env sender shares chain = .ok (next, id, amount)) :
    (chain.stAethel.getAethelByShares shares = .ok amount ∧
      amount ≤ chain.vault.totalPooledAethel ∧
      ∃ burned, chain.stAethel.burnShares env.keccak256 env.address sender shares = .ok burned ∧
        next.view = { chain.view with
          stAethel := { burned with
            totalPooledAethel := chain.vault.totalPooledAethel - amount }
          pooled := chain.vault.totalPooledAethel - amount }) ∧
      next.deposits = chain.deposits ∧ (Covered env 0 chain → Covered env 0 next) := by
  simp only [unstake, whenNotPaused, revertIf_bind_eq_ok] at done
  obtain ⟨-, -, -, -, done⟩ := done
  obtain ⟨worth, valued, done⟩ := bind_eq_ok.mp done
  rw [revertIf_bind_eq_ok] at done
  obtain ⟨burned, burning, done⟩ := bind_eq_ok.mp done.2
  simp only [checkedSub_bind_eq_ok, checkedAdd_bind_eq_ok] at done
  obtain ⟨enough, -, done⟩ := done
  obtain ⟨synced, synchronized, done⟩ := bind_eq_ok.mp done
  obtain rfl := syncPool_eq_ok synchronized
  obtain ⟨following, advanced, done⟩ := bind_eq_ok.mp done
  obtain ⟨-, done⟩ := checkedAdd_bind_eq_ok.mp done
  obtain ⟨rfl, same⟩ := Prod.mk.inj (ok.inj done)
  obtain ⟨-, rfl⟩ := Prod.mk.inj same
  exact ⟨⟨mapError_eq_ok valued, enough, burned, mapError_eq_ok burning, rfl⟩, rfl,
    fun covered => Funds.Covered.requested covered rfl enough (nextKey_eq_ok advanced)⟩

/-- Only requests and what is pending differ, and what has been claimed is covered. -/
structure Claimed (env : Environment) (chain : Chain) (before : Nat) (next : Chain)
    (after : Nat) : Prop where
  view : next.view = chain.view
  deposits : next.deposits = chain.deposits
  covered : Covered env before chain → Covered env after next

theorem claimRequest_eq_ok {id : Key} {slack : Nat}
    (done : claimRequest sender id chain = .ok (next, amount)) :
    Claimed env chain slack next (slack + amount) := by
  simp only [claimRequest, revertIf_bind_eq_ok, checkedSub_bind_eq_ok] at done
  obtain ⟨-, unclaimed, -, bounded, done⟩ := done
  obtain ⟨rfl, rfl⟩ := Prod.mk.inj (ok.inj done)
  exact ⟨rfl, rfl, fun covered =>
    Funds.Covered.claimed covered (Bool.eq_false_of_not_eq_true unclaimed) bounded⟩

theorem claimRequests_eq_ok {ids : List Key} {start : Nat}
    (done : claimRequests sender ids start chain = .ok (next, amount)) :
    Claimed env chain start next amount := by
  induction ids generalizing start chain with
  | nil =>
    obtain ⟨rfl, rfl⟩ := Prod.mk.inj (ok.inj done)
    exact ⟨rfl, rfl, id⟩
  | cons id rest ih =>
    obtain ⟨⟨claimed, drawn⟩, first, done⟩ := bind_eq_ok.mp done
    obtain ⟨-, done⟩ := checkedAdd_bind_eq_ok.mp done
    have one : Claimed env chain start claimed (start + drawn) := claimRequest_eq_ok first
    have rest := ih done
    exact ⟨rest.view.trans one.view, rest.deposits.trans one.deposits,
      fun covered => rest.covered (one.covered covered)⟩

section

variable (covered : Covered env amount chain)
include covered

theorem Covered.balance :
    amount ≤ chain.aethel.balanceOf env.address := by
  have held := Funds.Covered.covered covered
  exact (le_add_left ..).trans held

theorem payOut_eq :
    payOut env sender amount chain = pay env chain sender amount := by
  simp only [payOut, revertIf, not_lt.mpr covered.balance, if_false]
  rfl

theorem Covered.payOut
    (done : Cruzible.payOut env sender amount chain = .ok next) : Covered env 0 next := by
  rw [payOut_eq covered] at done
  refine Covered.pay ?_ done
  rwa [zero_add]

end

theorem Claimed.payOut {function : Function} {claimed : Chain}
    (claims : Claimed env chain 0 claimed amount) (none : function.move sender = .idle)
    (same : chain.deposits.after chain.delegation sender function = chain.deposits)
    (payment : Cruzible.payOut env sender amount claimed = .ok next) :
    Effect env sender chain function next := by
  have paid := payment
  obtain ⟨-, paid⟩ := revertIf_bind_eq_ok.mp paid
  obtain ⟨token, -, rfl⟩ := pay_eq_ok paid
  refine ⟨⟨_, none ▸ .idle, claims.view⟩, claims.deposits.trans same.symm, fun covered => ?_⟩
  exact (claims.covered covered).payOut payment

theorem effect_withdraw {id : Key} (done : withdraw env sender id chain = .ok (next, amount)) :
    Effect env sender chain (.withdraw id) next := by
  obtain ⟨⟨claimed, drawn⟩, first, done⟩ := bind_eq_ok.mp done
  obtain ⟨paid, payment, done⟩ := bind_eq_ok.mp done
  obtain ⟨rfl, rfl⟩ := Prod.mk.inj (ok.inj done)
  have claims : Claimed env chain 0 claimed (0 + drawn) := claimRequest_eq_ok first
  rw [zero_add] at claims
  exact claims.payOut rfl rfl payment

theorem effect_batchWithdraw {ids : List Key}
    (done : batchWithdraw env sender ids chain = .ok (next, amount)) :
    Effect env sender chain (.batchWithdraw ids) next := by
  obtain ⟨-, done⟩ := revertIf_bind_eq_ok.mp done
  obtain ⟨⟨claimed, drawn⟩, all, done⟩ := bind_eq_ok.mp done
  obtain ⟨-, done⟩ := revertIf_bind_eq_ok.mp done
  obtain ⟨paid, payment, done⟩ := bind_eq_ok.mp done
  obtain ⟨rfl, rfl⟩ := Prod.mk.inj (ok.inj done)
  exact (claimRequests_eq_ok all).payOut rfl rfl payment

end Staking

section Rewards

variable {env : Environment} {chain next : Chain} {sender : Address} {attestation : Attestation}
  {epoch : Key} {amount : Nat}

theorem view_payTreasury (done : payTreasury env chain amount = .ok next) :
    next.view = chain.view := by
  obtain ⟨token, rfl, -⟩ := payTreasury_eq_ok done
  rfl

/-- All that submitted revenue does. -/
theorem submitMEVRevenue_eq_ok
    (done : submitMEVRevenue env sender attestation epoch amount chain = .ok next) :
    next.view = { chain.view with
      stAethel := { chain.stAethel with
        totalPooledAethel := chain.vault.totalPooledAethel +
          amount * MEV_STAKER_SHARE_BPS / BPS_DENOMINATOR }
      pooled := chain.vault.totalPooledAethel +
        amount * MEV_STAKER_SHARE_BPS / BPS_DENOMINATOR } ∧
      next.deposits = chain.deposits ∧ (Covered env 0 chain → Covered env 0 next) := by
  simp only [submitMEVRevenue, onlyRole, whenNotPaused, currentEpochOnly,
    revertIf_bind_eq_ok] at done
  obtain ⟨-, -, -, -, -, done⟩ := done
  obtain ⟨pulled, received, done⟩ := bind_eq_ok.mp done
  have taken (covered : Covered env 0 chain) : Covered env (0 + amount) pulled :=
    covered.pull received
  obtain ⟨token, -, rfl⟩ := pull_eq_ok received
  simp only [checkedMul_bind_eq_ok, checkedSub_bind_eq_ok, checkedAdd_bind_eq_ok] at done
  obtain ⟨-, part, -, done⟩ := done
  obtain ⟨synced, synchronized, done⟩ := bind_eq_ok.mp done
  obtain rfl := syncPool_eq_ok synchronized
  obtain ⟨paid, payment, done⟩ := bind_eq_ok.mp done
  simp only [checkedAdd_bind_eq_ok] at done
  obtain ⟨-, -, done⟩ := done
  obtain rfl := ok.inj done
  refine ⟨?_, ?_, fun covered => ?_⟩
  · refine Eq.trans ?_ (view_payTreasury payment)
    exact view_withSnapshot { paid with vault.totalMEVRevenue := _ } epoch
      (fun snapshot => { snapshot with mevRedistributed := _ }) (fun _ => rfl) fun _ => rfl
  · obtain ⟨token, rfl, -⟩ := payTreasury_eq_ok payment
    rfl
  · generalize amount * MEV_STAKER_SHARE_BPS / BPS_DENOMINATOR = share at part synchronized payment
    have held := taken covered
    rw [← Nat.sub_add_cancel part, ← Nat.add_assoc] at held
    refine Covered.of_funds (Covered.payTreasury (Covered.syncPool ?_ synchronized) payment) rfl
    exact Funds.Covered.pooled held

/-- All that a distribution does. -/
theorem effect_distributeRewards {totalRewards protocolFee : Nat} {merkleRoot : Bytes32}
    (done : distributeRewards env sender attestation epoch totalRewards merkleRoot protocolFee
      chain = .ok next) :
    Effect env sender chain
      (.distributeRewards attestation epoch totalRewards merkleRoot protocolFee) next := by
  simp only [distributeRewards, onlyRole, whenNotPaused, currentEpochOnly,
    revertIf_bind_eq_ok] at done
  obtain ⟨-, -, current, unused, done⟩ := done
  obtain ⟨-, -, done⟩ := bind_eq_ok.mp done
  simp only [checkedMul_bind_eq_ok, revertIf_bind_eq_ok] at done
  obtain ⟨-, -, done⟩ := done
  obtain ⟨pulled, received, done⟩ := bind_eq_ok.mp done
  have taken (covered : Covered env 0 chain) : Covered env (0 + totalRewards) pulled :=
    covered.pull received
  obtain ⟨given, -, rfl⟩ := pull_eq_ok received
  simp only [checkedSub_bind_eq_ok, checkedAdd_bind_eq_ok] at done
  obtain ⟨fee, -, done⟩ := done
  obtain ⟨paid, payment, done⟩ := bind_eq_ok.mp done
  obtain ⟨token, rfl, lowered, unapproved⟩ := payTreasury_eq_ok payment
  obtain ⟨following, advanced, done⟩ := bind_eq_ok.mp done
  obtain rfl := ok.inj done
  obtain rfl := not_not.mp current
  refine ⟨⟨_, .finalize rfl (Bool.eq_false_of_not_eq_true unused) (nextKey_eq_ok advanced), ?_⟩,
    rfl, fun covered => ?_⟩
  · have roots : Function.update
        (EpochSnapshot.delegationRegistryRoot ∘ chain.vault.epochSnapshots)
        chain.vault.currentEpoch
        (chain.vault.epochSnapshots chain.vault.currentEpoch).delegationRegistryRoot =
        EpochSnapshot.delegationRegistryRoot ∘ chain.vault.epochSnapshots :=
      Function.update_eq_self chain.vault.currentEpoch _
    simp only [view, delegation, afterFinalize, Function.comp_update, roots]
  · have held := taken covered
    rw [← Nat.add_sub_cancel' fee, ← Nat.add_assoc] at held
    have set := Funds.Covered.reserveEpoch held (nextKey_eq_ok advanced)
    exact Funds.Covered.paid set lowered (unapproved held.unapproved)

theorem effect_claimRewards {proof : List Bytes32}
    (done : claimRewards env sender epoch amount proof chain = .ok next) :
    Effect env sender chain (.claimRewards epoch amount proof) next := by
  simp only [claimRewards, revertIf_bind_eq_ok, checkedSub_bind_eq_ok, not_lt] at done
  obtain ⟨-, -, -, held, bounded, done⟩ := done
  have paid := done
  obtain ⟨token, -, rfl⟩ := pay_eq_ok paid
  refine ⟨⟨_, .idle, rfl⟩, rfl, fun covered => Covered.pay ?_ done⟩
  exact Funds.Covered.drawn covered bounded held

end Rewards

section Idle

variable {env : Environment} {chain next : Chain} {sender : Address} {epoch : Key}

/-- Nothing that prices, deposits or funds depend on has changed. -/
structure Same (chain next : Chain) : Prop where
  view : next.view = chain.view
  deposits : next.deposits = chain.deposits
  funds : next.funds = chain.funds

theorem Same.trans {between : Chain} (first : Same chain between) (second : Same between next) :
    Same chain next :=
  ⟨second.view.trans first.view, second.deposits.trans first.deposits,
    second.funds.trans first.funds⟩

theorem Same.effect {function : Function} (same : Same chain next)
    (none : function.move sender = .idle)
    (keeps : chain.deposits.after chain.delegation sender function = chain.deposits) :
    Effect env sender chain function next :=
  ⟨⟨_, none ▸ .idle, same.view⟩, same.deposits.trans keeps.symm,
    fun covered => covered.of_funds same.funds⟩

theorem same_of_guarded {condition : Prop} [Decidable condition] {reason : Error} {after : Chain}
    (done : (revertIf condition reason >>= fun _ => pure after) = .ok next)
    (same : Same chain after) : Same chain next := by
  obtain ⟨-, done⟩ := revertIf_bind_eq_ok.mp done
  obtain rfl := ok.inj done
  exact same

theorem same_withSnapshot (change : EpochSnapshot → EpochSnapshot)
    (root : ∀ snapshot, (change snapshot).delegationRegistryRoot = snapshot.delegationRegistryRoot)
    (finalized : ∀ snapshot, (change snapshot).finalized = snapshot.finalized) :
    Same chain (withSnapshot chain epoch change) :=
  ⟨view_withSnapshot chain epoch change root finalized, rfl, rfl⟩

theorem same_activate {now : Nat} {rows : List ValidatorRow}
    (done : rows.foldlM (activate now) chain = .ok next) : Same chain next := by
  induction rows generalizing chain with
  | nil =>
    obtain rfl := ok.inj done
    exact ⟨rfl, rfl, rfl⟩
  | cons row rest ih =>
    obtain ⟨activated, first, done⟩ := bind_eq_ok.mp done
    have one : Same chain activated := same_of_guarded first ⟨rfl, rfl, rfl⟩
    exact one.trans (ih done)

theorem same_updateValidatorSet {attestation : Attestation} {data : ValidatorData}
    (done : updateValidatorSet env sender attestation data epoch chain = .ok next) :
    Same chain next := by
  simp only [updateValidatorSet, onlyRole, whenNotPaused, currentEpochOnly,
    revertIf_bind_eq_ok] at done
  obtain ⟨-, -, -, -, done⟩ := done
  obtain ⟨rows, -, done⟩ := bind_eq_ok.mp done
  simp only [revertIf_bind_eq_ok] at done
  obtain ⟨-, -, -, -, -, -, done⟩ := done
  obtain ⟨filled, activated, done⟩ := bind_eq_ok.mp done
  obtain rfl := ok.inj done
  have cleared := same_activate activated
  have kept : Same chain filled := ⟨cleared.view, cleared.deposits, cleared.funds⟩
  refine kept.trans ?_
  exact same_withSnapshot (fun snapshot => { snapshot with validatorSetHash := _ })
    (fun _ => rfl) fun _ => rfl

theorem same_slashValidator {validator : Address}
    (done : slashValidator sender validator chain = .ok next) : Same chain next := by
  simp only [slashValidator, onlyRole, revertIf_bind_eq_ok, checkedAdd_bind_eq_ok] at done
  obtain ⟨-, -, -, done⟩ := done
  obtain rfl := ok.inj done
  exact ⟨rfl, rfl, rfl⟩

theorem same_commitUniverseHash {hash : Bytes32}
    (done : commitUniverseHash sender epoch hash chain = .ok next) : Same chain next := by
  simp only [commitUniverseHash, onlyRole, currentEpochOnly, revertIf_bind_eq_ok] at done
  obtain ⟨-, -, -, done⟩ := done
  obtain rfl := ok.inj done
  exact same_withSnapshot _ (fun _ => rfl) fun _ => rfl

theorem same_commitStakeSnapshot {hash : Bytes32} {shares : Nat}
    (done : commitStakeSnapshot sender epoch hash shares chain = .ok next) : Same chain next := by
  simp only [commitStakeSnapshot, onlyRole, currentEpochOnly, revertIf_bind_eq_ok] at done
  obtain ⟨-, -, -, -, done⟩ := done
  obtain rfl := ok.inj done
  exact same_withSnapshot _ (fun _ => rfl) fun _ => rfl

end Idle

/- Every step of the vault is a move of the delegation protocol. -/

section Protocol

variable {env : Environment} {chain next : Chain} {sender : Address} {attestation : Attestation}
  {epoch : Key} {root registry : Bytes32} {count amount : Nat}

theorem validateDelegationSnapshot_eq_ok {done : Unit}
    (passed : validateDelegationSnapshot env attestation epoch root registry count chain =
      .ok done) : epoch = chain.delegation.epoch ∧ chain.delegation.root epoch = 0 := by
  simp only [validateDelegationSnapshot, currentEpochOnly, revertIf_bind_eq_ok] at passed
  obtain ⟨current, vacant, -⟩ := passed
  exact ⟨not_not.mp current, not_not.mp vacant⟩

theorem view_commitDelegation (epoch : Key) (root : Bytes32) (count : Nat) (chain : Chain) :
    (commitDelegation epoch root count chain).view =
      { chain.view with
        delegation := { chain.delegation with
          root := Function.update chain.delegation.root epoch root } } :=
  view_withRoot chain epoch root

theorem view_clearDelegationCommitment (epoch : Key) (chain : Chain) :
    (clearDelegationCommitment epoch chain).view =
      { chain.view with
        delegation := { chain.delegation with
          root := Function.update chain.delegation.root epoch 0 } } :=
  view_withRoot chain epoch 0

theorem funds_clearDelegationCommitment (epoch : Key) (chain : Chain) :
    (clearDelegationCommitment epoch chain).funds = chain.funds := rfl

theorem effect_commitDelegationSnapshot
    (done : commitDelegationSnapshot env sender attestation epoch root registry count chain =
      .ok next) :
    Effect env sender chain (.commitDelegationSnapshot attestation epoch root registry count)
      next := by
  simp only [commitDelegationSnapshot, onlyRole, bonded, revertIf_bind_eq_ok, not_lt] at done
  obtain ⟨-, -, enough, done⟩ := done
  obtain ⟨_, valid, done⟩ := bind_eq_ok.mp done
  obtain ⟨current, vacant⟩ := validateDelegationSnapshot_eq_ok valid
  obtain rfl := ok.inj done
  exact ⟨⟨_, .commit current vacant enough, view_commitDelegation ..⟩, rfl,
    fun covered => covered.of_funds rfl⟩

/-- All that a delegation vote does. -/
theorem effect_submitDelegationVote
    (done : submitDelegationVote env sender attestation epoch root registry count chain =
      .ok next) :
    Effect env sender chain (.submitDelegationVote attestation epoch root registry count)
      next := by
  simp only [submitDelegationVote, onlyRole, currentEpochOnly, bonded, revertIf_bind_eq_ok,
    not_lt] at done
  obtain ⟨-, -, -, enough, fresh, done⟩ := done
  obtain ⟨_, valid, done⟩ := bind_eq_ok.mp done
  obtain ⟨current, vacant⟩ := validateDelegationSnapshot_eq_ok valid
  obtain ⟨-, done⟩ := checkedAdd_bind_eq_ok.mp done
  obtain rfl := ok.inj done
  refine ⟨⟨_, .vote current vacant enough (Bool.eq_false_of_not_eq_true fresh), ?_⟩, ?_,
    fun covered => covered.of_funds (by split <;> rfl)⟩
  · split
    next reached =>
      rw [view_commitDelegation, afterVote,
        if_pos (show _ ≤ chain.delegation.voteCount epoch root + 1 from reached)]
      rfl
    next short =>
      rw [afterVote,
        if_neg (show ¬_ ≤ chain.delegation.voteCount epoch root + 1 from short)]
      rfl
  · simp only [Deposits.after]
    split
    next reached =>
      rw [if_pos (show _ ≤ chain.delegation.voteCount epoch root + 1 from reached)]
      rfl
    next short =>
      rw [if_neg (show ¬_ ≤ chain.delegation.voteCount epoch root + 1 from short)]
      rfl

theorem committedAndOpen_eq_ok {done : Unit} (passed : committedAndOpen epoch chain = .ok done) :
    epoch = chain.delegation.epoch ∧ chain.delegation.Open epoch := by
  simp only [committedAndOpen, currentEpochOnly, revertIf_bind_eq_ok, revertIf_eq_ok] at passed
  obtain ⟨current, committed, unused⟩ := passed
  exact ⟨not_not.mp current, committed, Bool.eq_false_of_not_eq_true unused⟩

theorem effect_revokeDelegationSnapshot
    (done : revokeDelegationSnapshot sender epoch chain = .ok next) :
    Effect env sender chain (.revokeDelegationSnapshot epoch) next := by
  obtain ⟨-, done⟩ := revertIf_bind_eq_ok.mp done
  obtain ⟨_, valid, done⟩ := bind_eq_ok.mp done
  obtain ⟨current, live⟩ := committedAndOpen_eq_ok valid
  obtain rfl := ok.inj done
  refine ⟨⟨_, .revoke current live, ?_⟩, ?_, fun covered => ?_⟩
  · have cleared := view_clearDelegationCommitment epoch (freezeDelegationSubmitters epoch chain)
    exact congrArg (fun view : View => { view with
      delegation.succeeded := Function.update view.delegation.succeeded epoch true }) cleared
  · show _ = chain.deposits.stamp epoch 0
    rfl
  · have kept := funds_clearDelegationCommitment epoch (freezeDelegationSubmitters epoch chain)
    generalize clearDelegationCommitment epoch (freezeDelegationSubmitters epoch chain) = left
      at kept ⊢
    exact covered.of_funds kept

/-- All that a challenge does. -/
theorem effect_challengeDelegationCommitment
    (done : challengeDelegationCommitment env sender epoch chain = .ok next) :
    Effect env sender chain (.challengeDelegationCommitment epoch) next := by
  obtain ⟨_, valid, done⟩ := bind_eq_ok.mp done
  obtain ⟨current, live⟩ := committedAndOpen_eq_ok valid
  simp only [checkedAdd_bind_eq_ok, revertIf_bind_eq_ok] at done
  obtain ⟨-, -, fresh, done⟩ := done
  have fresh := Bool.eq_false_of_not_eq_true fresh
  obtain ⟨pulled, received, done⟩ := bind_eq_ok.mp done
  obtain ⟨token, -, rfl⟩ := pull_eq_ok received
  simp only [checkedAdd_bind_eq_ok] at done
  obtain ⟨-, -, done⟩ := done
  have posted (covered : Covered env 0 chain) :=
    Funds.Covered.challenged (covered.pull received) fresh
  have moves : chain.delegation.Moves (.challenge sender epoch) _ := .challenge current live fresh
  split at done
  next reached =>
    have reached : _ ≤ chain.delegation.challengeCount epoch + 1 := reached
    obtain rfl := ok.inj done
    refine ⟨⟨_, moves, ?_⟩, ?_, posted⟩
    · rw [afterChallenge, if_pos reached]
      exact congrArg (fun view : View => { view with
        delegation.revokedAt :=
          Function.update view.delegation.revokedAt epoch view.delegation.now })
        (view_clearDelegationCommitment epoch _)
    · simp only [Deposits.after]
      rw [if_pos reached]
      rfl
  next short =>
    have short : ¬_ ≤ chain.delegation.challengeCount epoch + 1 := short
    obtain rfl := ok.inj done
    refine ⟨⟨_, moves, ?_⟩, ?_, posted⟩
    · rw [afterChallenge, if_neg short]
      rfl
    · simp only [Deposits.after]
      rw [if_neg short]
      rfl

theorem effect_confirmDelegationFraud
    (done : confirmDelegationFraud sender epoch chain = .ok next) :
    Effect env sender chain (.confirmDelegationFraud epoch) next := by
  simp only [confirmDelegationFraud, onlyRole, revertIf_bind_eq_ok, checkedAdd_bind_eq_ok,
    not_lt] at done
  obtain ⟨-, revoked, -, soon, done⟩ := done
  obtain rfl := ok.inj done
  exact ⟨⟨_, .confirm (pos_of_ne_zero revoked) soon, rfl⟩, rfl,
    fun covered => covered.of_funds rfl⟩

theorem effect_depositKeeperBond (done : depositKeeperBond env sender amount chain = .ok next) :
    Effect env sender chain (.depositKeeperBond amount) next := by
  obtain ⟨-, done⟩ := revertIf_bind_eq_ok.mp done
  obtain ⟨pulled, received, done⟩ := bind_eq_ok.mp done
  obtain ⟨token, moved, rfl⟩ := pull_eq_ok received
  simp only [checkedAdd_bind_eq_ok] at done
  obtain ⟨-, -, done⟩ := done
  obtain rfl := ok.inj done
  exact ⟨⟨_, .deposit (Erc20.owner_ne_zero moved), rfl⟩, rfl,
    fun covered => Funds.Covered.bondRaised (covered.pull received) sender⟩

theorem keeperBondLocked_eq_ok {locked : Bool} (done : keeperBondLocked sender chain = .ok locked) :
    locked = true ↔ chain.delegation.Locked sender := by
  simp only [keeperBondLocked] at done
  split at done
  next started =>
    obtain ⟨-, done⟩ := checkedAdd_bind_eq_ok.mp done
    rw [← ok.inj done, decide_eq_true_iff, decide_eq_true_iff]
    have pending : chain.block.timestamp ≤ chain.vault.delegationAutoRevokedAt
        chain.vault.currentEpoch + CHALLENGE_ADJUDICATION_PERIOD ↔
        chain.delegation.Adjudicating chain.delegation.epoch :=
      ⟨fun soon => ⟨started.1, started.2, soon⟩, fun all => all.2.2⟩
    exact and_congr_right fun _ => or_congr_right pending
  next never =>
    rw [← ok.inj done, decide_eq_true_iff]
    have settled : false = true ↔ chain.delegation.Adjudicating chain.delegation.epoch :=
      ⟨nofun, fun all => absurd ⟨all.1, all.2.1⟩ never⟩
    exact and_congr_right fun _ => or_congr_right settled

theorem effect_withdrawKeeperBond (done : withdrawKeeperBond env sender amount chain = .ok next) :
    Effect env sender chain (.withdrawKeeperBond amount) next := by
  simp only [withdrawKeeperBond, revertIf_bind_eq_ok, not_lt] at done
  obtain ⟨-, held, thawed, done⟩ := done
  obtain ⟨locked, lock, done⟩ := bind_eq_ok.mp done
  simp only [revertIf_bind_eq_ok, checkedSub_bind_eq_ok] at done
  obtain ⟨unlocked, bounded, done⟩ := done
  have paid := done
  obtain ⟨token, -, rfl⟩ := pay_eq_ok paid
  refine ⟨⟨_, .withdraw held (Bool.eq_false_of_not_eq_true thawed)
    (mt (keeperBondLocked_eq_ok lock).mpr unlocked), rfl⟩, rfl, fun covered => Covered.pay ?_ done⟩
  exact Funds.Covered.bondLowered covered bounded held

theorem effect_slashKeeperBond {keeper recipient : Address}
    (done : slashKeeperBond env sender keeper amount recipient chain = .ok next) :
    Effect env sender chain (.slashKeeperBond keeper amount recipient) next := by
  simp only [slashKeeperBond, onlyRole, revertIf_bind_eq_ok, checkedSub_bind_eq_ok, not_lt] at done
  obtain ⟨-, -, held, bounded, done⟩ := done
  have paid := done
  obtain ⟨token, -, rfl⟩ := pay_eq_ok paid
  refine ⟨⟨_, .slash held, rfl⟩, rfl, fun covered => Covered.pay ?_ done⟩
  exact Funds.Covered.bondLowered covered bounded held

theorem effect_releaseKeeperBondFreeze {keeper : Address}
    (done : releaseKeeperBondFreeze sender keeper chain = .ok next) :
    Effect env sender chain (.releaseKeeperBondFreeze keeper) next := by
  simp only [releaseKeeperBondFreeze, onlyRole, revertIf_bind_eq_ok] at done
  obtain rfl := ok.inj done.2.2
  exact ⟨⟨_, .release, rfl⟩, rfl, fun covered => covered.of_funds rfl⟩

section

variable (done : claimChallengerBond env sender epoch chain = .ok next)
include done

theorem claimChallengerBond_eq_ok :
    chain.deposits.posted epoch sender ≠ 0 ∧ challengeDecided epoch chain = .ok () ∧
      chain.aethel.transfer env.address
        (if chain.delegation.succeeded epoch then sender else chain.vault.treasury)
        (chain.deposits.posted epoch sender) = .ok next.aethel ∧
      next.deposits = chain.deposits.post epoch sender 0 := by
  obtain ⟨owed, done⟩ := revertIf_bind_eq_ok.mp done
  obtain ⟨_, decided, done⟩ := bind_eq_ok.mp done
  obtain ⟨-, done⟩ := checkedSub_bind_eq_ok.mp done
  obtain ⟨token, moved, rfl⟩ := pay_eq_ok done
  exact ⟨owed, decided, moved, rfl⟩

theorem effect_claimChallengerBond :
    Effect env sender chain (.claimChallengerBond epoch) next := by
  obtain ⟨-, done⟩ := revertIf_bind_eq_ok.mp done
  obtain ⟨-, -, done⟩ := bind_eq_ok.mp done
  obtain ⟨bounded, done⟩ := checkedSub_bind_eq_ok.mp done
  have paid := done
  obtain ⟨token, -, rfl⟩ := pay_eq_ok paid
  refine ⟨⟨_, .idle, rfl⟩, rfl, fun covered => Covered.pay ?_ done⟩
  exact Funds.Covered.bondClaimed covered bounded

end

variable {function : Function}

section

variable (done : function.execute env sender chain = .ok next)
include done

/-- All that the other functions do, by function. -/
theorem effect_execute (stakes : ∀ amount, function ≠ .stake amount)
    (unstakes : ∀ shares, function ≠ .unstake shares) (revenue : ∀ attestation epoch amount,
      function ≠ .submitMEVRevenue attestation epoch amount) :
    Effect env sender chain function next := by
  have rest : ∀ {after : Chain}, Same chain after → function.move sender = .idle →
      chain.deposits.after chain.delegation sender function = chain.deposits →
      Effect env sender chain function after := fun same none keeps => same.effect none keeps
  cases function with
  | stake amount => exact absurd rfl (stakes amount)
  | unstake shares => exact absurd rfl (unstakes shares)
  | withdraw id =>
    obtain ⟨⟨after, amount⟩, succeeded, rfl⟩ := map_eq_ok.mp done
    exact effect_withdraw succeeded
  | batchWithdraw ids =>
    obtain ⟨⟨after, amount⟩, succeeded, rfl⟩ := map_eq_ok.mp done
    exact effect_batchWithdraw succeeded
  | updateValidatorSet attestation data epoch => exact rest (same_updateValidatorSet done) rfl rfl
  | slashValidator validator => exact rest (same_slashValidator done) rfl rfl
  | distributeRewards attestation epoch totalRewards merkleRoot protocolFee =>
    exact effect_distributeRewards done
  | submitMEVRevenue attestation epoch amount => exact absurd rfl (revenue attestation epoch amount)
  | claimRewards epoch amount proof => exact effect_claimRewards done
  | commitUniverseHash epoch hash => exact rest (same_commitUniverseHash done) rfl rfl
  | commitStakeSnapshot epoch hash shares => exact rest (same_commitStakeSnapshot done) rfl rfl
  | commitDelegationSnapshot attestation epoch root registry count =>
    exact effect_commitDelegationSnapshot done
  | submitDelegationVote attestation epoch root registry count =>
    exact effect_submitDelegationVote done
  | revokeDelegationSnapshot epoch => exact effect_revokeDelegationSnapshot done
  | depositKeeperBond amount => exact effect_depositKeeperBond done
  | withdrawKeeperBond amount => exact effect_withdrawKeeperBond done
  | slashKeeperBond keeper amount recipient => exact effect_slashKeeperBond done
  | releaseKeeperBondFreeze keeper => exact effect_releaseKeeperBondFreeze done
  | challengeDelegationCommitment epoch => exact effect_challengeDelegationCommitment done
  | confirmDelegationFraud epoch => exact effect_confirmDelegationFraud done
  | claimChallengerBond epoch => exact effect_claimChallengerBond done
  | setTreasury treasury =>
    obtain ⟨-, done⟩ := revertIf_bind_eq_ok.mp done
    exact rest (same_of_guarded done ⟨rfl, rfl, rfl⟩) rfl rfl
  | setTEEVerifier verifier =>
    obtain ⟨-, done⟩ := revertIf_bind_eq_ok.mp done
    exact rest (same_of_guarded done ⟨rfl, rfl, rfl⟩) rfl rfl
  | setSelectionPolicyHash hash => exact rest (same_of_guarded done ⟨rfl, rfl, rfl⟩) rfl rfl
  | setDelegationQuorumEnabled enabled =>
    exact rest (same_of_guarded done ⟨rfl, rfl, rfl⟩) rfl rfl
  | pause =>
    obtain ⟨-, done⟩ := revertIf_bind_eq_ok.mp done
    exact rest (same_of_guarded done ⟨rfl, rfl, rfl⟩) rfl rfl
  | unpause =>
    obtain ⟨-, done⟩ := revertIf_bind_eq_ok.mp done
    exact rest (same_of_guarded done ⟨rfl, rfl, rfl⟩) rfl rfl
  | grantRole role account => exact rest (same_of_guarded done ⟨rfl, rfl, rfl⟩) rfl rfl
  | revokeRole role account => exact rest (same_of_guarded done ⟨rfl, rfl, rfl⟩) rfl rfl
  | renounceRole role account => exact rest (same_of_guarded done ⟨rfl, rfl, rfl⟩) rfl rfl

theorem moves_execute :
    chain.delegation.Moves (function.move sender) next.delegation := by
  have idle (same : next.view.delegation = chain.delegation) :
      chain.delegation.Moves .idle next.delegation := by
    have equal : next.delegation = chain.delegation := same
    rw [equal]
    exact .idle
  cases function with
  | stake amount =>
    obtain ⟨⟨after, shares⟩, succeeded, rfl⟩ := map_eq_ok.mp done
    obtain ⟨-, -, minted, -, same⟩ := (stake_eq_ok succeeded).1
    exact idle (congrArg View.delegation same)
  | unstake shares =>
    obtain ⟨⟨after, id, amount⟩, succeeded, rfl⟩ := map_eq_ok.mp done
    obtain ⟨-, -, burned, -, same⟩ := (unstake_eq_ok succeeded).1
    exact idle (congrArg View.delegation same)
  | submitMEVRevenue attestation epoch amount =>
    exact idle (congrArg View.delegation (submitMEVRevenue_eq_ok done).1)
  | _ =>
    obtain ⟨after, made, same⟩ := (effect_execute done (by simp) (by simp) (by simp)).view
    have equal : next.delegation = after := congrArg View.delegation same
    exact equal ▸ made

theorem deposits_execute :
    next.deposits = chain.deposits.after chain.delegation sender function := by
  cases function with
  | stake amount =>
    obtain ⟨⟨after, shares⟩, succeeded, rfl⟩ := map_eq_ok.mp done
    exact (stake_eq_ok succeeded).2.1
  | unstake shares =>
    obtain ⟨⟨after, id, amount⟩, succeeded, rfl⟩ := map_eq_ok.mp done
    exact (unstake_eq_ok succeeded).2.1
  | submitMEVRevenue attestation epoch amount => exact (submitMEVRevenue_eq_ok done).2.1
  | _ => exact (effect_execute done (by simp) (by simp) (by simp)).deposits

end

theorem Covered.execute (covered : Covered env 0 chain)
    (done : function.execute env sender chain = .ok next) : Covered env 0 next := by
  cases function with
  | stake amount =>
    obtain ⟨⟨after, shares⟩, succeeded, rfl⟩ := map_eq_ok.mp done
    exact (stake_eq_ok succeeded).2.2 covered
  | unstake shares =>
    obtain ⟨⟨after, id, amount⟩, succeeded, rfl⟩ := map_eq_ok.mp done
    exact (unstake_eq_ok succeeded).2.2 covered
  | submitMEVRevenue attestation epoch amount => exact (submitMEVRevenue_eq_ok done).2.2 covered
  | _ => exact (effect_execute done (by simp) (by simp) (by simp)).covered covered

theorem moves_step (env : Environment) (chain : Chain) (action : Action) :
    chain.delegation.Moves (moveOf env chain action) (step env chain action).delegation := by
  cases action with
  | advance blocks seconds => exact .advance
  | call sender function =>
    simp only [step, moveOf]
    cases done : function.execute env sender chain with
    | ok after => exact moves_execute done
    | error reason => exact .idle
  | aethel sender call =>
    simp only [step, moveOf]
    split <;> exact .idle
  | stAethel sender call =>
    simp only [step, moveOf]
    split <;> exact .idle

end Protocol

end Cruzible
