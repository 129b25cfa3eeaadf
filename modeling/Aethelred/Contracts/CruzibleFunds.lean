import Aethelred.Contracts.CruzibleRun

/- The five buckets that share the vault's tokens, and what each step of a function does to them. -/
namespace Cruzible

open Evm AccessControl Except Nat

def WithdrawalRequest.due (request : WithdrawalRequest) : Nat :=
  if request.claimed then 0 else request.aethelAmount

structure Funds where
  aethel : Erc20
  pooled : Nat
  pending : Nat
  reserved : Nat
  keepers : Nat
  challengers : Nat
  requests : Key → WithdrawalRequest
  nextId : Key
  reserves : Key → Nat
  epoch : Key
  keeperBonds : Address → Nat
  flagged : Key → Address → Bool
  challengerBonds : Key → Address → Nat

def Chain.funds (chain : Chain) : Funds where
  aethel := chain.aethel
  pooled := chain.vault.totalPooledAethel
  pending := chain.vault.totalPendingWithdrawals
  reserved := chain.vault.totalReservedForClaims
  keepers := chain.vault.totalKeeperBonds
  challengers := chain.vault.totalChallengerBonds
  requests := chain.vault.withdrawalRequests
  nextId := chain.vault.nextWithdrawalId
  reserves := chain.vault.epochReservedForClaims
  epoch := chain.vault.currentEpoch
  keeperBonds := chain.vault.keeperBonds
  flagged := chain.vault.delegationChallengers
  challengerBonds := chain.vault.challengerBonds

def Funds.owed (funds : Funds) : Nat :=
  funds.pooled + funds.pending + funds.reserved + funds.keepers + funds.challengers

/-- The vault's tokens cover its debts and some slack, every total is the sum of its records, and
what has not been used yet holds nothing. -/
structure Funds.Covered (vault : Address) (slack : Nat) (funds : Funds) : Prop where
  covered : funds.owed + slack ≤ funds.aethel.balanceOf vault
  pending : funds.pending = total WithdrawalRequest.due funds.requests
  reserved : funds.reserved = total id funds.reserves
  keepers : funds.keepers = total id funds.keeperBonds
  challengers : funds.challengers = total (total id) funds.challengerBonds
  unrequested : ∀ key, funds.nextId ≤ key → (funds.requests key).due = 0
  unreserved : ∀ key, funds.epoch ≤ key → funds.reserves key = 0
  unbonded : ∀ key account, funds.flagged key account = false →
    funds.challengerBonds key account = 0
  unapproved : funds.aethel.Unapproved vault

namespace Funds.Covered

variable {vault : Address} {slack amount : Nat} {funds : Funds}

variable {token : Erc20}

theorem grow (covered : funds.Covered vault slack)
    (grown : funds.aethel.balanceOf vault ≤ token.balanceOf vault)
    (unapproved : token.Unapproved vault) : { funds with aethel := token }.Covered vault slack :=
  { covered with
    covered := covered.covered.trans grown
    unapproved := unapproved }

theorem received (covered : funds.Covered vault slack)
    (grown : token.balanceOf vault = funds.aethel.balanceOf vault + amount)
    (unapproved : token.Unapproved vault) :
    { funds with aethel := token }.Covered vault (slack + amount) :=
  { covered with
    covered := by
      have before := covered.covered
      simp only [Funds.owed] at before ⊢
      omega
    unapproved := unapproved }

theorem paid (covered : funds.Covered vault (slack + amount))
    (lowered : funds.aethel.balanceOf vault ≤ token.balanceOf vault + amount)
    (unapproved : token.Unapproved vault) : { funds with aethel := token }.Covered vault slack :=
  { covered with
    covered := by
      have before := covered.covered
      simp only [Funds.owed] at before ⊢
      omega
    unapproved := unapproved }

theorem pooled (covered : funds.Covered vault (slack + amount)) :
    { funds with pooled := funds.pooled + amount }.Covered vault slack :=
  { covered with
    covered := by
      have before := covered.covered
      simp only [Funds.owed] at before ⊢
      omega }

theorem requested (covered : funds.Covered vault slack) {request : WithdrawalRequest} {next : Key}
    (due : request.due = amount) (enough : amount ≤ funds.pooled)
    (following : next.val = funds.nextId.val + 1) :
    { funds with
      pooled := funds.pooled - amount
      pending := funds.pending + amount
      nextId := next
      requests := Function.update funds.requests funds.nextId request }.Covered vault slack := by
  refine { covered with covered := ?_, pending := ?_, unrequested := ?_ }
  · have before := covered.covered
    simp only [Funds.owed] at before ⊢
    omega
  · have changed := total_update WithdrawalRequest.due funds.requests funds.nextId request
    rw [covered.unrequested funds.nextId (le_refl _), due, ← covered.pending,
      add_zero] at changed
    simp only
    rw [changed]
  · intro key later
    have above : funds.nextId < key := Fin.lt_def.mpr
      (lt_of_lt_of_le (by rw [following]; exact lt_succ_self _) (Fin.le_def.mp later))
    simp only
    rw [Function.update_of_ne (ne_of_gt above)]
    exact covered.unrequested key (le_of_lt above)

variable {key : Key}

/-- A paid withdrawal is no longer owed. -/
theorem claimed (covered : funds.Covered vault slack)
    (unclaimed : (funds.requests key).claimed = false)
    (bounded : (funds.requests key).aethelAmount ≤ funds.pending) :
    { funds with
      requests := Function.update funds.requests key { funds.requests key with claimed := true }
      pending := funds.pending - (funds.requests key).aethelAmount }.Covered vault
        (slack + (funds.requests key).aethelAmount) := by
  have due : (funds.requests key).due = (funds.requests key).aethelAmount := by
    simp [WithdrawalRequest.due, unclaimed]
  have settled : WithdrawalRequest.due { funds.requests key with claimed := true } = 0 := rfl
  refine { covered with covered := ?_, pending := ?_, unrequested := ?_ }
  · have before := covered.covered
    simp only [Funds.owed] at before ⊢
    omega
  · have changed := total_update WithdrawalRequest.due funds.requests key
      { funds.requests key with claimed := true }
    rw [settled, due, ← covered.pending, add_zero] at changed
    simp only
    rw [← changed, Nat.add_sub_cancel]
  · intro other later
    simp only
    by_cases same : other = key
    · subst same
      rw [Function.update_self]
      exact settled
    · rw [Function.update_of_ne same]
      exact covered.unrequested other later

theorem reserveEpoch (covered : funds.Covered vault (slack + amount)) {next : Key}
    (following : next.val = funds.epoch.val + 1) :
    { funds with
      reserves := Function.update funds.reserves funds.epoch amount
      reserved := funds.reserved + amount
      epoch := next }.Covered vault slack := by
  refine { covered with covered := ?_, reserved := ?_, unreserved := ?_ }
  · have before := covered.covered
    simp only [Funds.owed] at before ⊢
    omega
  · have changed := total_update_add funds.reserves funds.epoch amount
    rw [covered.unreserved funds.epoch (le_refl _), zero_add, ← covered.reserved] at changed
    exact changed.symm
  · intro key later
    have above : funds.epoch < key := Fin.lt_def.mpr
      (lt_of_lt_of_le (by rw [following]; exact lt_succ_self _) (Fin.le_def.mp later))
    simp only
    rw [Function.update_of_ne (ne_of_gt above)]
    exact covered.unreserved key (le_of_lt above)

theorem drawn (covered : funds.Covered vault slack) (bounded : amount ≤ funds.reserved)
    (held : amount ≤ funds.reserves key) :
    { funds with
      reserves := Function.update funds.reserves key (funds.reserves key - amount)
      reserved := funds.reserved - amount }.Covered vault (slack + amount) := by
  refine { covered with covered := ?_, reserved := ?_, unreserved := ?_ }
  · have before := covered.covered
    simp only [Funds.owed] at before ⊢
    omega
  · have changed := total_update_sub held
    rw [← covered.reserved] at changed
    exact changed.symm
  · intro other later
    simp only
    by_cases same : other = key
    · subst same
      rw [Function.update_self, covered.unreserved other later, Nat.zero_sub]
    · rw [Function.update_of_ne same]
      exact covered.unreserved other later

theorem bondRaised (covered : funds.Covered vault (slack + amount)) (keeper : Address) :
    { funds with
      keeperBonds := Function.update funds.keeperBonds keeper (funds.keeperBonds keeper + amount)
      keepers := funds.keepers + amount }.Covered vault slack := by
  refine { covered with covered := ?_, keepers := ?_ }
  · have before := covered.covered
    simp only [Funds.owed] at before ⊢
    omega
  · have changed := total_update_add funds.keeperBonds keeper amount
    rw [← covered.keepers] at changed
    exact changed.symm

theorem bondLowered (covered : funds.Covered vault slack) {keeper : Address}
    (bounded : amount ≤ funds.keepers) (held : amount ≤ funds.keeperBonds keeper) :
    { funds with
      keeperBonds := Function.update funds.keeperBonds keeper (funds.keeperBonds keeper - amount)
      keepers := funds.keepers - amount }.Covered vault (slack + amount) := by
  refine { covered with covered := ?_, keepers := ?_ }
  · have before := covered.covered
    simp only [Funds.owed] at before ⊢
    omega
  · have changed := total_update_sub held
    rw [← covered.keepers] at changed
    exact changed.symm

theorem total_bonds_add (bonds : Key → Address → Nat) (key : Key) (account : Address) (bond : Nat) :
    total (total id) (Function.update bonds key
      (Function.update (bonds key) account (bonds key account + bond))) =
        total (total id) bonds + bond := by
  have outer := total_update (total id) bonds key
    (Function.update (bonds key) account (bonds key account + bond))
  rw [total_update_add, add_comm (total id (bonds key)), ← add_assoc] at outer
  exact add_right_cancel outer

theorem total_bonds_clear (bonds : Key → Address → Nat) (key : Key) (account : Address) :
    total (total id) (Function.update bonds key (Function.update (bonds key) account 0)) =
      total (total id) bonds - bonds key account := by
  have back := total_bonds_add
    (Function.update bonds key (Function.update (bonds key) account 0)) key account
    (bonds key account)
  simp only [Function.update_self, zero_add, Function.update_idem,
    Function.update_eq_self] at back
  rw [back, Nat.add_sub_cancel]

/-- A challenger's bond is owed back from what it paid in. -/
theorem challenged (covered : funds.Covered vault (slack + amount)) {account : Address}
    (fresh : funds.flagged key account = false) :
    { funds with
      challengerBonds := Function.update funds.challengerBonds key
        (Function.update (funds.challengerBonds key) account amount)
      challengers := funds.challengers + amount
      flagged := Function.update funds.flagged key
        (Function.update (funds.flagged key) account true) }.Covered vault slack := by
  refine { covered with covered := ?_, challengers := ?_, unbonded := ?_ }
  · have before := covered.covered
    simp only [Funds.owed] at before ⊢
    omega
  · have changed := total_bonds_add funds.challengerBonds key account amount
    rw [covered.unbonded key account fresh, zero_add, ← covered.challengers] at changed
    exact changed.symm
  · intro other person unflagged
    simp only at unflagged ⊢
    by_cases same : other = key
    · subst same
      rw [Function.update_self] at unflagged ⊢
      by_cases self : person = account
      · subst self
        rw [Function.update_self] at unflagged
        contradiction
      · rw [Function.update_of_ne self] at unflagged ⊢
        exact covered.unbonded other person unflagged
    · rw [Function.update_of_ne same] at unflagged ⊢
      exact covered.unbonded other person unflagged

/-- A returned bond is no longer owed. -/
theorem bondClaimed (covered : funds.Covered vault slack) {account : Address}
    (bounded : funds.challengerBonds key account ≤ funds.challengers) :
    { funds with
      challengerBonds := Function.update funds.challengerBonds key
        (Function.update (funds.challengerBonds key) account 0)
      challengers := funds.challengers - funds.challengerBonds key account }.Covered vault
        (slack + funds.challengerBonds key account) := by
  refine { covered with covered := ?_, challengers := ?_, unbonded := ?_ }
  · have before := covered.covered
    simp only [Funds.owed] at before ⊢
    omega
  · have changed := total_bonds_clear funds.challengerBonds key account
    rw [← covered.challengers] at changed
    exact changed.symm
  · intro other person unflagged
    simp only at unflagged ⊢
    have before := covered.unbonded other person unflagged
    by_cases same : other = key
    · subst same
      rw [Function.update_self]
      by_cases self : person = account
      · subst self
        rw [Function.update_self]
      · rw [Function.update_of_ne self]
        exact before
    · rw [Function.update_of_ne same]
      exact before

end Funds.Covered

section Primitives

variable {env : Environment} {chain next : Chain} {sender recipient : Address} {slack amount : Nat}

theorem pull_eq_ok (done : pull env chain sender amount = .ok next) : ∃ token,
    chain.aethel.transferFrom env.address sender env.address amount = .ok token ∧
      next = { chain with aethel := token } := by
  obtain ⟨token, moved, done⟩ := bind_eq_ok.mp done
  exact ⟨token, mapError_eq_ok moved, (ok.inj done).symm⟩

theorem pay_eq_ok (done : pay env chain recipient amount = .ok next) : ∃ token,
    chain.aethel.transfer env.address recipient amount = .ok token ∧
      next = { chain with aethel := token } := by
  obtain ⟨token, moved, done⟩ := bind_eq_ok.mp done
  exact ⟨token, mapError_eq_ok moved, (ok.inj done).symm⟩

theorem syncPool_eq_ok (done : syncPool env chain = .ok next) :
    next = { chain with stAethel.totalPooledAethel := chain.vault.totalPooledAethel } := by
  obtain ⟨stAethel, synced, done⟩ := bind_eq_ok.mp done
  obtain ⟨-, written⟩ := revertIf_bind_eq_ok.mp (mapError_eq_ok synced)
  obtain rfl := ok.inj written
  exact (ok.inj done).symm

/-- The vault can pay what it owes, up to `slack`. -/
def Covered (env : Environment) (slack : Nat) (chain : Chain) : Prop :=
  chain.funds.Covered env.address slack

theorem Covered.of_funds {other : Chain} (covered : Covered env slack chain)
    (same : other.funds = chain.funds) : Covered env slack other := by
  unfold Covered
  rw [same]
  exact covered

theorem Covered.pull (covered : Covered env slack chain)
    (done : Cruzible.pull env chain sender amount = .ok next) :
    Covered env (slack + amount) next := by
  obtain ⟨token, moved, rfl⟩ := pull_eq_ok done
  exact Funds.Covered.received covered
    (Erc20.balanceOf_transferFrom_recipient covered.unapproved moved)
    (covered.unapproved.transferFrom moved)

theorem Covered.pay (covered : Covered env (slack + amount) chain)
    (done : Cruzible.pay env chain recipient amount = .ok next) : Covered env slack next := by
  obtain ⟨token, moved, rfl⟩ := pay_eq_ok done
  exact Funds.Covered.paid covered (Erc20.balanceOf_transfer_sender moved)
    (covered.unapproved.transfer moved)

theorem payTreasury_eq_ok (done : payTreasury env chain amount = .ok next) : ∃ token,
    next = { chain with aethel := token } ∧
      chain.aethel.balanceOf env.address ≤ token.balanceOf env.address + amount ∧
      (chain.aethel.Unapproved env.address → token.Unapproved env.address) := by
  unfold payTreasury at done
  split at done
  · obtain ⟨token, moved, rfl⟩ := pay_eq_ok done
    exact ⟨token, rfl, Erc20.balanceOf_transfer_sender moved, fun none => none.transfer moved⟩
  · obtain rfl := ok.inj done
    exact ⟨chain.aethel, rfl, Nat.le_add_right .., id⟩

theorem Covered.payTreasury (covered : Covered env (slack + amount) chain)
    (done : Cruzible.payTreasury env chain amount = .ok next) : Covered env slack next := by
  obtain ⟨token, rfl, lowered, unapproved⟩ := payTreasury_eq_ok done
  exact Funds.Covered.paid covered lowered (unapproved covered.unapproved)

theorem Covered.syncPool (covered : Covered env slack chain)
    (done : Cruzible.syncPool env chain = .ok next) : Covered env slack next := by
  obtain rfl := syncPool_eq_ok done
  exact covered

theorem nextKey_eq_ok {key following : Key} (done : nextKey key = .ok following) :
    following.val = key.val + 1 := by
  unfold nextKey at done
  split at done
  · rw [← ok.inj done]
  · contradiction

end Primitives

end Cruzible
