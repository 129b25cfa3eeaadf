import Mathlib.Algebra.BigOperators.Fin
import Mathlib.Algebra.Order.BigOperators.Group.Finset
import Aethelred.Lib.Result

/- Words, blocks and mappings of an Ethereum contract. -/
namespace Evm

open Function Except Finset Nat

abbrev Address := Fin (2 ^ 160)

abbrev Bytes32 := Fin (2 ^ 256)

def wordBound : Nat := 2 ^ 256

structure Block where
  number : Nat
  timestamp : Nat
  started : 0 < timestamp
  deriving DecidableEq

theorem launched : 0 < 1719000000 := by decide

def Block.advance (block : Block) (blocks seconds : Nat) : Block where
  number := block.number + blocks
  timestamp := block.timestamp + seconds
  started := Nat.add_pos_left block.started seconds

section Checked

variable {ε β : Type}

/-- `if (condition) revert reason`. -/
def revertIf (condition : Prop) [Decidable condition] (reason : ε) : Except ε Unit :=
  if condition then .error reason else .ok ()

/-- Addition of unsigned words that reverts on overflow. -/
def checkedAdd (overflow : ε) (a b : Nat) : Except ε Nat :=
  if a + b < wordBound then .ok (a + b) else .error overflow

def checkedMul (overflow : ε) (a b : Nat) : Except ε Nat :=
  if a * b < wordBound then .ok (a * b) else .error overflow

def checkedSub (underflow : ε) (a b : Nat) : Except ε Nat :=
  if b ≤ a then .ok (a - b) else .error underflow

variable {condition : Prop} {result : β}

@[simp] theorem revertIf_bind_eq_ok [Decidable condition] {reason : ε} {next : Unit → Except ε β} :
    (revertIf condition reason >>= next) = .ok result ↔ ¬condition ∧ next () = .ok result := by
  by_cases holds : condition <;> simp [revertIf, holds, bind, Except.bind]

@[simp] theorem revertIf_eq_ok [Decidable condition] {reason : ε} {done : Unit} :
    revertIf condition reason = .ok done ↔ ¬condition := by
  by_cases holds : condition <;> simp [revertIf, holds]

theorem revertIf_bind_eq_error [Decidable condition] {reason other : ε} {next : Unit → Except ε β} :
    (revertIf condition reason >>= next) = .error other ↔
      condition ∧ reason = other ∨ ¬condition ∧ next () = .error other := by
  by_cases holds : condition <;> simp [revertIf, holds, bind, Except.bind]

variable {overflow : ε}

@[simp] theorem checkedAdd_eq_ok {a b result : Nat} :
    checkedAdd overflow a b = .ok result ↔ a + b < wordBound ∧ a + b = result := by
  by_cases fits : a + b < wordBound <;> simp [checkedAdd, fits]

@[simp] theorem checkedSub_eq_ok {underflow : ε} {a b result : Nat} :
    checkedSub underflow a b = .ok result ↔ b ≤ a ∧ a - b = result := by
  by_cases fits : b ≤ a <;> simp [checkedSub, fits]

variable {next : Nat → Except ε β} {a b : Nat}

theorem checkedAdd_bind_eq_ok :
    (checkedAdd overflow a b >>= next) = .ok result ↔
      a + b < wordBound ∧ next (a + b) = .ok result := by
  by_cases fits : a + b < wordBound <;> simp [checkedAdd, fits, bind, Except.bind]

theorem checkedAdd_bind_eq_error {overflow reason : ε} :
    (checkedAdd overflow a b >>= next) = .error reason ↔
      ¬a + b < wordBound ∧ overflow = reason ∨
        a + b < wordBound ∧ next (a + b) = .error reason := by
  by_cases fits : a + b < wordBound <;> simp [checkedAdd, fits, bind, Except.bind]

theorem checkedMul_bind_eq_ok :
    (checkedMul overflow a b >>= next) = .ok result ↔
      a * b < wordBound ∧ next (a * b) = .ok result := by
  by_cases fits : a * b < wordBound <;> simp [checkedMul, fits, bind, Except.bind]

theorem checkedSub_bind_eq_ok {underflow : ε} :
    (checkedSub underflow a b >>= next) = .ok result ↔ b ≤ a ∧ next (a - b) = .ok result := by
  by_cases fits : b ≤ a <;> simp [checkedSub, fits, bind, Except.bind]

end Checked

section Total

variable {α β : Type} [Fintype α]

def total (weight : β → Nat) (mapping : α → β) : Nat := ∑ key, weight (mapping key)

theorem weight_le_total (weight : β → Nat) (mapping : α → β) (key : α) :
    weight (mapping key) ≤ total weight mapping :=
  single_le_sum (f := fun k => weight (mapping k)) (fun _ _ => zero_le _)
    (mem_univ key)

theorem total_eq_zero {weight : β → Nat} {mapping : α → β}
    (empty : ∀ key, weight (mapping key) = 0) : total weight mapping = 0 :=
  sum_eq_zero fun key _ => empty key

def flagged (flags : α → Bool) : Finset α := univ.filter (fun key => flags key = true)

@[simp] theorem mem_flagged {flags : α → Bool} {key : α} :
    key ∈ flagged flags ↔ flags key = true := by
  simp [flagged]

variable [DecidableEq α]

theorem total_update (weight : β → Nat) (mapping : α → β) (key : α) (value : β) :
    total weight (update mapping key value) + weight (mapping key) =
      total weight mapping + weight value := by
  unfold total
  rw [← add_sum_erase _ _ (mem_univ key),
    ← add_sum_erase _ (fun k => weight (mapping k)) (mem_univ key)]
  have others : ∑ k ∈ univ.erase key, weight (update mapping key value k) =
      ∑ k ∈ univ.erase key, weight (mapping k) := by
    refine sum_congr rfl fun k member => ?_
    rw [update_of_ne (ne_of_mem_erase member)]
  rw [others, update_self]
  omega

theorem total_update_same {weight : β → Nat} {mapping : α → β} {key : α} {value : β}
    (same : weight value = weight (mapping key)) :
    total weight (update mapping key value) = total weight mapping := by
  have changed := total_update weight mapping key value
  omega

theorem total_update_add (amounts : α → Nat) (key : α) (amount : Nat) :
    total id (update amounts key (amounts key + amount)) = total id amounts + amount := by
  have changed := total_update id amounts key (amounts key + amount)
  rw [id, id, add_comm (amounts key), ← add_assoc] at changed
  rw [add_comm (amounts key)]
  exact add_right_cancel changed

theorem total_update_sub {amounts : α → Nat} {key : α} {amount : Nat}
    (held : amount ≤ amounts key) :
    total id (update amounts key (amounts key - amount)) = total id amounts - amount := by
  have back := total_update_add (update amounts key (amounts key - amount)) key amount
  rw [update_self, Nat.sub_add_cancel held, update_idem,
    update_eq_self] at back
  rw [back, Nat.add_sub_cancel]

theorem flagged_update_true (flags : α → Bool) (key : α) :
    flagged (update flags key true) = insert key (flagged flags) := by
  ext other
  by_cases same : other = key <;> simp [same]

theorem flagged_update_false (flags : α → Bool) (key : α) :
    flagged (update flags key false) = (flagged flags).erase key := by
  ext other
  by_cases same : other = key <;> simp [same]

end Total

/- OpenZeppelin's AccessControl: a table of role holders and of the role that administers each. -/

structure AccessControl where
  hasRole : Bytes32 → Address → Bool
  getRoleAdmin : Bytes32 → Bytes32

namespace AccessControl

def DEFAULT_ADMIN_ROLE : Bytes32 := 0

def empty : AccessControl where
  hasRole := fun _ _ => false
  getRoleAdmin := fun _ => DEFAULT_ADMIN_ROLE

variable (table : AccessControl) (role : Bytes32)

def grant (account : Address) : AccessControl :=
  { table with
    hasRole := update table.hasRole role
      (update (table.hasRole role) account true) }

def revoke (account : Address) : AccessControl :=
  { table with
    hasRole := update table.hasRole role
      (update (table.hasRole role) account false) }

def setRoleAdmin (role admin : Bytes32) : AccessControl :=
  { table with getRoleAdmin := update table.getRoleAdmin role admin }

def holders : Finset Address :=
  flagged (table.hasRole role)

variable {table : AccessControl} {role other : Bytes32} {account : Address}

@[simp] theorem mem_holders : account ∈ table.holders role ↔ table.hasRole role account = true :=
  mem_flagged

@[simp] theorem holders_empty : empty.holders role = ∅ := by
  ext account
  simp [empty]

@[simp] theorem holders_setRoleAdmin {admin : Bytes32} :
    (table.setRoleAdmin other admin).holders role = table.holders role := rfl

theorem holders_grant :
    (table.grant other account).holders role =
      if role = other then insert account (table.holders role) else table.holders role := by
  by_cases same : role = other
  · subst same
    simp only [holders, grant, update_self, flagged_update_true, if_true]
  · simp only [holders, grant, update_of_ne same, if_neg same]

theorem holders_revoke :
    (table.revoke other account).holders role =
      if role = other then (table.holders role).erase account else table.holders role := by
  by_cases same : role = other
  · subst same
    simp only [holders, revoke, update_self, flagged_update_false, if_true]
  · simp only [holders, revoke, update_of_ne same, if_neg same]

end AccessControl

/- A token that moves exactly the amount it is told to, with allowances. -/

structure Erc20 where
  balanceOf : Address → Nat
  allowance : Address → Address → Nat

namespace Erc20

inductive Error where
  | InvalidSender
  | InvalidReceiver (receiver : Address)
  | InvalidSpender
  | InsufficientBalance (sender : Address) (balance needed : Nat)
  | InsufficientAllowance (spender : Address) (allowance needed : Nat)
  deriving DecidableEq

variable (token : Erc20)

def move (sender recipient : Address) (amount : Nat) : Erc20 :=
  let debited := update token.balanceOf sender (token.balanceOf sender - amount)
  { token with balanceOf := update debited recipient (debited recipient + amount) }

def transfer (sender recipient : Address) (amount : Nat) : Except Error Erc20 := do
  revertIf (sender = 0) .InvalidSender
  revertIf (recipient = 0) (.InvalidReceiver 0)
  revertIf (token.balanceOf sender < amount)
    (.InsufficientBalance sender (token.balanceOf sender) amount)
  return token.move sender recipient amount

def spendAllowance (owner spender : Address) (amount : Nat) : Except Error Erc20 :=
  if token.allowance owner spender = wordBound - 1 then .ok token
  else do
    revertIf (token.allowance owner spender < amount)
      (.InsufficientAllowance spender (token.allowance owner spender) amount)
    return { token with
      allowance := update token.allowance owner
        (update (token.allowance owner) spender
          (token.allowance owner spender - amount)) }

def transferFrom (spender sender recipient : Address) (amount : Nat) : Except Error Erc20 := do
  let token ← token.spendAllowance sender spender amount
  token.transfer sender recipient amount

def approve (owner spender : Address) (amount : Nat) : Except Error Erc20 := do
  revertIf (spender = 0) .InvalidSpender
  return { token with
    allowance := update token.allowance owner
      (update (token.allowance owner) spender amount) }

/-- The account has let nobody spend its tokens. -/
def Unapproved (owner : Address) : Prop :=
  ∀ spender, token.allowance owner spender = 0

variable {token next : Erc20} {account sender recipient spender owner : Address} {amount : Nat}

theorem balanceOf_move_of_ne (differ : account ≠ sender) :
    (token.move sender recipient amount).balanceOf account =
      if account = recipient then token.balanceOf account + amount
      else token.balanceOf account := by
  simp only [move]
  by_cases same : account = recipient
  · subst same
    rw [if_pos rfl, update_self, update_of_ne differ]
  · rw [if_neg same, update_of_ne same, update_of_ne differ]

theorem balanceOf_move_self (funded : amount ≤ token.balanceOf sender) :
    (token.move sender sender amount).balanceOf sender = token.balanceOf sender := by
  simp only [move, update_self]
  omega

theorem balanceOf_move_sender (differ : sender ≠ recipient) :
    (token.move sender recipient amount).balanceOf sender = token.balanceOf sender - amount := by
  simp only [move]
  rw [update_of_ne differ, update_self]

theorem transfer_eq_ok (done : token.transfer sender recipient amount = .ok next) :
    amount ≤ token.balanceOf sender ∧ next = token.move sender recipient amount := by
  simp only [transfer, revertIf_bind_eq_ok, not_lt] at done
  obtain ⟨-, -, funded, done⟩ := done
  exact ⟨funded, (ok.inj done).symm⟩

theorem owner_ne_zero (done : token.transferFrom spender owner recipient amount = .ok next) :
    owner ≠ 0 := by
  obtain ⟨spent, -, done⟩ := bind_eq_ok.mp done
  exact (revertIf_bind_eq_ok.mp done).1

section

variable (done : token.transfer sender recipient amount = .ok next)
include done

theorem balanceOf_transfer_sender :
    token.balanceOf sender ≤ next.balanceOf sender + amount := by
  obtain ⟨funded, rfl⟩ := transfer_eq_ok done
  by_cases same : sender = recipient
  · subst same
    rw [balanceOf_move_self funded]
    omega
  · rw [balanceOf_move_sender same]
    omega

theorem balanceOf_transfer_le
    (differ : account ≠ sender) : token.balanceOf account ≤ next.balanceOf account := by
  obtain ⟨-, rfl⟩ := transfer_eq_ok done
  rw [balanceOf_move_of_ne differ]
  split
  · exact le_add_right _ _
  · exact le_refl _

end

section

variable (done : token.spendAllowance owner spender amount = .ok next)
include done

theorem spendAllowance_eq_ok :
    next = token ∧ token.allowance owner spender = wordBound - 1 ∨
      amount ≤ token.allowance owner spender ∧
      next = { token with
        allowance := update token.allowance owner
          (update (token.allowance owner) spender
            (token.allowance owner spender - amount)) } := by
  unfold spendAllowance at done
  split at done
  next unlimited => exact .inl ⟨(ok.inj done).symm, unlimited⟩
  next =>
    simp only [revertIf_bind_eq_ok, not_lt] at done
    exact .inr ⟨done.1, (ok.inj done.2).symm⟩

theorem balanceOf_spendAllowance :
    next.balanceOf = token.balanceOf := by
  obtain ⟨rfl, -⟩ | ⟨-, rfl⟩ := spendAllowance_eq_ok done <;> rfl

end

theorem Unapproved.amount_eq_zero (unapproved : token.Unapproved owner)
    (done : token.spendAllowance owner spender amount = .ok next) : amount = 0 := by
  obtain ⟨-, unlimited⟩ | ⟨enough, -⟩ := spendAllowance_eq_ok done
  · rw [unapproved spender] at unlimited
    exact absurd unlimited (by decide)
  · rw [unapproved spender] at enough
    exact le_zero.mp enough

theorem Unapproved.spendAllowance (unapproved : token.Unapproved account)
    (done : token.spendAllowance owner spender amount = .ok next) : next.Unapproved account := by
  obtain ⟨rfl, -⟩ | ⟨-, rfl⟩ := spendAllowance_eq_ok done
  · exact unapproved
  · intro other
    by_cases same : account = owner
    · subst same
      by_cases named : other = spender
      · subst named
        simp [unapproved other]
      · simpa [named] using unapproved other
    · simpa [same] using unapproved other

/-- An account nobody may spend from receives the whole amount, also from itself. -/
theorem balanceOf_transferFrom_recipient (unapproved : token.Unapproved recipient)
    (done : token.transferFrom spender sender recipient amount = .ok next) :
    next.balanceOf recipient = token.balanceOf recipient + amount := by
  obtain ⟨spent, allowed, done⟩ := bind_eq_ok.mp done
  obtain ⟨funded, rfl⟩ := transfer_eq_ok done
  rw [← balanceOf_spendAllowance allowed]
  by_cases same : recipient = sender
  · subst same
    rw [balanceOf_move_self funded, unapproved.amount_eq_zero allowed, add_zero]
  · rw [balanceOf_move_of_ne same, if_pos rfl]

section

variable (unapproved : token.Unapproved account)
include unapproved

theorem balanceOf_transferFrom_le
    (done : token.transferFrom spender sender recipient amount = .ok next) :
    token.balanceOf account ≤ next.balanceOf account := by
  obtain ⟨spent, allowed, done⟩ := bind_eq_ok.mp done
  rw [← balanceOf_spendAllowance allowed]
  by_cases same : account = sender
  · subst same
    have enough := balanceOf_transfer_sender done
    rw [unapproved.amount_eq_zero allowed, add_zero] at enough
    exact enough
  · exact balanceOf_transfer_le done same

theorem Unapproved.transfer
    (done : token.transfer sender recipient amount = .ok next) : next.Unapproved account := by
  intro other
  obtain ⟨-, rfl⟩ := transfer_eq_ok done
  exact unapproved other

theorem Unapproved.transferFrom
    (done : token.transferFrom spender sender recipient amount = .ok next) :
    next.Unapproved account := by
  obtain ⟨spent, allowed, done⟩ := bind_eq_ok.mp done
  exact (unapproved.spendAllowance allowed).transfer done

end

theorem approve_spec (done : token.approve owner spender amount = .ok next)
    (differ : account ≠ owner) : next.balanceOf = token.balanceOf ∧
      (token.Unapproved account → next.Unapproved account) := by
  simp only [approve, revertIf_bind_eq_ok] at done
  obtain rfl := ok.inj done.2
  refine ⟨rfl, fun unapproved other => ?_⟩
  simp only
  rw [update_of_ne differ]
  exact unapproved other

end Erc20

end Evm
