import Aethelred.Go.MapSum
import Aethelred.Vm.Types

/- The bank of the system contracts (`bank.rs`): balances, locks and escrows. -/
namespace Vm

open Go Attempt

def BURN_ADDRESS : Address := Fin.last (2 ^ 256 - 1)

structure BankConfig where
  initialSupply : Nat := 1000000000000000000000000000
  /-- Zero for no limit. -/
  maxSupply : Nat := 0

structure AccountState where
  balance : Nat := 0
  locked : Nat := 0
  nonce : Nat := 0
  lockedUntil : Nat := 0

namespace AccountState

variable (account : AccountState)

def available : Nat :=
  saturatingSub account.balance account.locked

/-- The lock has not run out. -/
def isLocked (currentTime : Nat) : Prop :=
  account.lockedUntil > currentTime

instance (currentTime : Nat) : Decidable (account.isLocked currentTime) :=
  inferInstanceAs (Decidable (_ > _))

end AccountState

structure Escrow where
  id : Hash
  sender : Address
  receiver : Address
  amount : Nat
  createdAt : Nat
  expiresAt : Nat
  conditions : List UInt8
  released : Bool

structure Bank where
  config : BankConfig
  accounts : Map Address AccountState := ∅
  escrows : Map Hash Escrow := ∅
  totalSupply : Nat
  totalBurned : Nat := 0
  currentBlock : Nat := 0

namespace Bank

def new (config : BankConfig) : Bank where
  config
  totalSupply := config.initialSupply

variable (bank : Bank) (address : Address)

/-- The account at an address, as `entry(address).or_default()` reads it. -/
def account : AccountState := bank.accounts.get address {}

def balanceOf : Nat := (bank.account address).balance

def getLockedBalance : Nat :=
  (bank.account address).locked

def put (account : AccountState) : Bank :=
  { bank with accounts := bank.accounts.insert address account }

def circulating : Nat := bank.accounts.sum (·.balance)

abbrev Call := Attempt Bank SystemContractError

variable (amount : Nat)

def destroy : Bank :=
  { bank with
    totalSupply := saturatingSub bank.totalSupply amount
    totalBurned := saturatingAdd bank.totalBurned amount }

def credit (receiver : Address) (amount : Nat) : Bank :=
  bank.put receiver { bank.account receiver with
    balance := saturatingAdd (bank.account receiver).balance amount }

def debit (sender : Address) (amount : Nat) : Bank :=
  bank.put sender { bank.account sender with
    balance := saturatingSub (bank.account sender).balance amount }

def transfer (sender receiver : Address) (amount : Nat) : Call Unit := do
  ensure (amount ≠ 0) (.InvalidAmount "Amount must be > 0")
  modify fun bank => bank.put sender (bank.account sender)
  let bank ← read
  ensure (amount ≤ (bank.account sender).available)
    (.InsufficientBalance amount (bank.account sender).available)
  ensure (¬(bank.account sender).isLocked bank.currentBlock)
    (.AccountLocked sender (bank.account sender).lockedUntil)
  modify fun bank =>
    if receiver = BURN_ADDRESS then (bank.debit sender amount).destroy amount
    else (bank.debit sender amount).credit receiver amount

def overMaximum (supply amount maximum : Nat) : String :=
  s!"Would exceed max supply: {supply} + {amount} > {maximum}"

def mint (receiver : Address) (amount : Nat) : Call Unit := do
  if amount = 0 then return ()
  let bank ← read
  ensure (bank.config.maxSupply > 0 →
      saturatingAdd bank.totalSupply amount ≤ bank.config.maxSupply)
    (.InvalidAmount (overMaximum bank.totalSupply amount bank.config.maxSupply))
  modify fun bank =>
    { bank.credit receiver amount with totalSupply := saturatingAdd bank.totalSupply amount }

def burn (sender : Address) (amount : Nat) : Call Unit := transfer sender BURN_ADDRESS amount

def lock : Call Unit := do
  let bank ← read
  let account ← okOr (bank.accounts.lookup address) (.InsufficientBalance amount 0)
  ensure (amount ≤ account.available) (.InsufficientBalance amount account.available)
  modify fun bank => bank.put address { account with
    locked := saturatingAdd account.locked amount }

def unlock : Call Unit := do
  let bank ← read
  let account ← okOr (bank.accounts.lookup address) (.StakerNotFound address)
  ensure (amount ≤ account.locked) (.CannotUnstake amount account.locked)
  modify fun bank => bank.put address { account with
    locked := saturatingSub account.locked amount }

variable (id : Hash)

def createEscrow (sender receiver : Address) (amount : Nat) (expiresAt : Nat)
    (conditions : List UInt8) : Call Unit := do
  let bank ← read
  ensure (bank.escrows.lookup id = none) (.InvalidAmount "Escrow already exists")
  lock sender amount
  modify fun bank => { bank with
    escrows := bank.escrows.insert id
      ⟨id, sender, receiver, amount, bank.currentBlock, expiresAt, conditions, false⟩ }

def markReleased : Bank :=
  match bank.escrows.lookup id with
  | some escrow => { bank with escrows := bank.escrows.insert id { escrow with released := true } }
  | none => bank

def releaseEscrow (receiver : Address) : Call Nat := do
  let bank ← read
  let escrow ← okOr (bank.escrows.lookup id) (.EscrowNotFound id)
  ensure (escrow.released = false) (.EscrowNotFound id)
  unlock escrow.sender escrow.amount
  modify fun bank =>
    ((bank.debit escrow.sender escrow.amount).credit receiver escrow.amount).markReleased id
  return escrow.amount

def refundEscrow : Call Nat := do
  let bank ← read
  let escrow ← okOr (bank.escrows.lookup id) (.EscrowNotFound id)
  ensure (escrow.released = false) (.EscrowNotFound id)
  unlock escrow.sender escrow.amount
  modify fun bank => bank.markReleased id
  return escrow.amount

def slash : Call Nat := do
  let bank ← read
  let account ← okOr (bank.accounts.lookup address) (.StakerNotFound address)
  let slashAmount := min amount account.locked
  if slashAmount = 0 then return 0
  modify fun bank => (bank.put address { account with
    locked := saturatingSub account.locked slashAmount
    balance := saturatingSub account.balance slashAmount }).destroy slashAmount
  return slashAmount

end Bank

end Vm

/- What each call to the bank can do: the errors leave every balance, lock and escrow as it was, and
the successes write what is said here. -/
namespace Vm.Bank

open Go Attempt

variable {bank before after : Bank} {address other sender receiver : Address}
  {account : AccountState} {amount : Nat}

theorem account_put :
    (bank.put address account).account other =
      if other = address then account else bank.account other :=
  Map.get_insert_eq bank.accounts address other account {}

@[simp] theorem account_put_self : (bank.put address account).account address = account := by
  rw [account_put, if_pos rfl]

theorem account_put_of_ne (differ : other ≠ address) :
    (bank.put address account).account other = bank.account other := by
  rw [account_put, if_neg differ]

theorem account_eq (found : bank.accounts.lookup address = some account) :
    bank.account address = account := by
  rw [Bank.account, Map.get, found, Option.getD_some]

@[simp] theorem account_destroy : (bank.destroy amount).account other = bank.account other := rfl

theorem share_lookup :
    Map.share (·.balance) (bank.accounts.lookup address) = bank.balanceOf address := by
  unfold balanceOf Bank.account Map.get
  cases bank.accounts.lookup address <;> rfl

theorem circulating_put (bank : Bank) (address : Address) (account : AccountState) :
    (bank.put address account).circulating + bank.balanceOf address =
      bank.circulating + account.balance := by
  rw [← share_lookup]
  exact Map.sum_insert bank.accounts address account (·.balance)

theorem balanceOf_le_circulating (bank : Bank) (address : Address) :
    bank.balanceOf address ≤ bank.circulating := by
  rw [← share_lookup]
  exact Map.share_le_sum bank.accounts address (·.balance)

/-- The balances, locks, escrows and totals are the same. -/
structure Unchanged (before after : Bank) : Prop where
  account : ∀ address, after.account address = before.account address
  circulating : after.circulating = before.circulating
  escrows : after.escrows = before.escrows
  totalSupply : after.totalSupply = before.totalSupply
  totalBurned : after.totalBurned = before.totalBurned
  config : after.config = before.config
  currentBlock : after.currentBlock = before.currentBlock

theorem Unchanged.refl (bank : Bank) : Unchanged bank bank :=
  ⟨fun _ => rfl, rfl, rfl, rfl, rfl, rfl, rfl⟩

theorem unchanged_open : Unchanged bank (bank.put address (bank.account address)) where
  account other := by
    rw [account_put]
    split
    · rename_i same
      rw [same]
    · rfl
  circulating := Nat.add_right_cancel (circulating_put bank address _)
  escrows := rfl
  totalSupply := rfl
  totalBurned := rfl
  config := rfl
  currentBlock := rfl

def paid (bank : Bank) (sender receiver : Address) (amount : Nat) : Bank :=
  if receiver = BURN_ADDRESS then (bank.debit sender amount).destroy amount
  else (bank.debit sender amount).credit receiver amount

theorem transfer_cases (sender receiver : Address) (amount : Nat) (bank : Bank) :
    (∃ reason after, transfer sender receiver amount bank = (.error reason, after) ∧
      Unchanged bank after) ∨
    (amount ≠ 0 ∧ amount ≤ (bank.account sender).available ∧
      ¬(bank.account sender).isLocked bank.currentBlock ∧
      transfer sender receiver amount bank =
        (.ok (), paid (bank.put sender (bank.account sender)) sender receiver amount)) := by
  simp only [transfer, ensure_bind, modify_bind, read_bind, account_put_self]
  split
  · rename_i positive
    split
    · rename_i funded
      split
      · rename_i free
        exact .inr ⟨positive, funded, free, rfl⟩
      · exact .inl ⟨_, _, rfl, unchanged_open⟩
    · exact .inl ⟨_, _, rfl, unchanged_open⟩
  · exact .inl ⟨_, _, rfl, Unchanged.refl bank⟩

def minted (bank : Bank) (receiver : Address) (amount : Nat) : Bank :=
  { bank.credit receiver amount with totalSupply := saturatingAdd bank.totalSupply amount }

theorem mint_cases (receiver : Address) (amount : Nat) (bank : Bank) :
    (∃ reason, mint receiver amount bank = (.error reason, bank)) ∨
    (amount = 0 ∧ mint receiver amount bank = (.ok (), bank)) ∨
    (amount ≠ 0 ∧ mint receiver amount bank = (.ok (), minted bank receiver amount)) := by
  unfold mint
  by_cases nothing : amount = 0
  · rw [if_pos nothing]
    exact .inr (.inl ⟨nothing, rfl⟩)
  · rw [if_neg nothing]
    simp only [read_bind, ensure_bind]
    split
    · exact .inr (.inr ⟨nothing, rfl⟩)
    · exact .inl ⟨_, rfl⟩

variable (address : Address) (amount : Nat)

theorem lock_cases (bank : Bank) : (∃ reason, lock address amount bank = (.error reason, bank)) ∨
    (amount ≤ (bank.account address).available ∧
      lock address amount bank = (.ok (), bank.put address { bank.account address with
        locked := saturatingAdd (bank.account address).locked amount })) := by
  simp only [lock, read_bind, okOr_bind]
  cases found : bank.accounts.lookup address with
  | none => exact .inl ⟨_, rfl⟩
  | some account =>
    simp only [ensure_bind, account_eq found]
    split
    · rename_i funded
      exact .inr ⟨funded, rfl⟩
    · exact .inl ⟨_, rfl⟩

theorem unlock_cases (bank : Bank) : (∃ reason, unlock address amount bank = (.error reason, bank) ∧
      (bank.accounts.lookup address = none ∨ (bank.account address).locked < amount)) ∨
    (amount ≤ (bank.account address).locked ∧
      unlock address amount bank = (.ok (), bank.put address { bank.account address with
        locked := saturatingSub (bank.account address).locked amount })) := by
  simp only [unlock, read_bind, okOr_bind]
  cases found : bank.accounts.lookup address with
  | none => exact .inl ⟨_, rfl, .inl rfl⟩
  | some account =>
    simp only [ensure_bind, account_eq found]
    split
    · rename_i enough
      exact .inr ⟨enough, rfl⟩
    · rename_i short
      exact .inl ⟨_, rfl, .inr (Nat.lt_of_not_le short)⟩

def slashed (bank : Bank) (address : Address) (amount : Nat) : Bank :=
  (bank.put address { bank.account address with
    locked := saturatingSub (bank.account address).locked amount
    balance := saturatingSub (bank.account address).balance amount }).destroy amount

theorem slash_cases (bank : Bank) : (∃ reason, slash address amount bank = (.error reason, bank) ∧
      bank.accounts.lookup address = none) ∨
    (min amount (bank.account address).locked = 0 ∧ slash address amount bank = (.ok 0, bank)) ∨
    slash address amount bank = (.ok (min amount (bank.account address).locked),
      slashed bank address (min amount (bank.account address).locked)) := by
  simp only [slash, read_bind, okOr_bind]
  cases found : bank.accounts.lookup address with
  | none => exact .inl ⟨_, rfl, rfl⟩
  | some account =>
    simp only [account_eq found]
    split
    · rename_i nothing
      exact .inr (.inl ⟨nothing, rfl⟩)
    · refine .inr (.inr ?_)
      rw [slashed, account_eq found]
      rfl

end Vm.Bank
