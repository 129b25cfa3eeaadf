import Aethelred.Evm.Basic
import Aethelred.Lib.Pool
import Aethelred.Lib.Bytes
import Aethelred.Lib.Run

/- StAETHEL.sol: the share token of the vault, and the accumulator of its holders. -/
namespace StAethel

open Evm AccessControl Function Bytes

def VAULT_ROLE : Bytes32 := 0x31e0210044b4f6757ce6aa31f9c6e8d4896d24a755014887391a926c5224d959

def PAUSER_ROLE : Bytes32 := 0x65d7a28e3265b37a6474929f336521b332c1681b933f6cb9f3376673440d862a

def UPGRADER_ROLE : Bytes32 := 0x189ab7a9244df0848122154315af71fe140f3db0fe014031783b0946b8c9d2e3

def MAX_TOTAL_SHARES : Nat := 10000000000 * 10 ^ 18

inductive Error where
  | ZeroAddress
  | ZeroAmount
  | InsufficientShares (requested available : Nat)
  | ExceedsMaxShares
  | AccountBlacklisted (account : Address)
  | AccessControlUnauthorizedAccount (account : Address) (role : Bytes32)
  | EnforcedPause
  | ExpectedPause
  | InsufficientAllowance (spender : Address) (allowance needed : Nat)
  | InvalidSpender
  | InvalidSender
  | InsufficientBalance (account : Address) (balance needed : Nat)
  | InvalidSigner
  | AccessControlBadConfirmation
  | arithmetic
  deriving DecidableEq

/-- The contract's storage. The balances are those of the inherited token, which the functions of
this one do not write. -/
structure Storage where
  access : AccessControl
  paused : Bool
  balances : Address → Nat
  allowance : Address → Address → Nat
  totalPooledAethel : Nat
  shares : Address → Nat
  totalShares : Nat
  vault : Address
  blacklisted : Address → Bool
  stakerRegistryRoot : Bytes32

def Storage.blank : Storage where
  access := AccessControl.empty
  paused := false
  balances := fun _ => 0
  allowance := fun _ _ => 0
  totalPooledAethel := 0
  shares := fun _ => 0
  totalShares := 0
  vault := 0
  blacklisted := fun _ => false
  stakerRegistryRoot := 0

def initializeStAethel (admin upgraderAuthority vaultAddress : Address) : Except Error Storage := do
  revertIf (admin = 0) .ZeroAddress
  revertIf (upgraderAuthority = 0) .ZeroAddress
  revertIf (vaultAddress = 0) .ZeroAddress
  let access := AccessControl.empty
    |>.grant DEFAULT_ADMIN_ROLE admin
    |>.grant PAUSER_ROLE admin
    |>.setRoleAdmin UPGRADER_ROLE UPGRADER_ROLE
    |>.grant UPGRADER_ROLE upgraderAuthority
    |>.grant VAULT_ROLE vaultAddress
  return { Storage.blank with access, vault := vaultAddress }

namespace Storage

variable (token : Storage)

def onlyRole (role : Bytes32) (sender : Address) : Except Error Unit :=
  revertIf (token.access.hasRole role sender = false)
    (.AccessControlUnauthorizedAccount sender role)

def notBlacklisted (account : Address) : Except Error Unit :=
  revertIf (token.blacklisted account = true) (.AccountBlacklisted account)

def whenNotPaused : Except Error Unit := revertIf (token.paused = true) .EnforcedPause

def getSharesByAethel (aethelAmount : Nat) : Except Error Nat :=
  if token.totalPooledAethel = 0 then .ok aethelAmount
  else do
    let product ← checkedMul .arithmetic aethelAmount token.totalShares
    return product / token.totalPooledAethel

def getAethelByShares (sharesAmount : Nat) : Except Error Nat :=
  if token.totalShares = 0 then .ok 0
  else do
    let product ← checkedMul .arithmetic sharesAmount token.totalPooledAethel
    return product / token.totalShares

variable (keccak256 : List Nat → Bytes32)

/-- The hash an account with shares stands for in the accumulator. -/
def entry (account : Address) (shares : Nat) : Bytes32 :=
  if shares = 0 then 0 else keccak256 [account, shares]

/-- Sets the shares of an account and replaces its entry in the accumulator. -/
def setShares (account : Address) (newShares : Nat) : Storage :=
  { token with
    shares := update token.shares account newShares
    stakerRegistryRoot := token.stakerRegistryRoot ^^^ entry keccak256 account
      (token.shares account) ^^^ entry keccak256 account newShares }

def mintShares (sender recipient : Address) (sharesAmount : Nat) :
    Except Error Storage := do
  token.onlyRole VAULT_ROLE sender
  token.notBlacklisted recipient
  revertIf (recipient = 0) .ZeroAddress
  revertIf (sharesAmount = 0) .ZeroAmount
  let raised ← checkedAdd .arithmetic token.totalShares sharesAmount
  revertIf (MAX_TOTAL_SHARES < raised) .ExceedsMaxShares
  let newShares ← checkedAdd .arithmetic (token.shares recipient) sharesAmount
  let minted : Storage := { token.setShares keccak256 recipient newShares with totalShares := raised }
  let _ ← minted.getAethelByShares sharesAmount
  return minted

def burnShares (sender owner : Address) (sharesAmount : Nat) :
    Except Error Storage := do
  token.onlyRole VAULT_ROLE sender
  revertIf (owner = 0) .ZeroAddress
  revertIf (sharesAmount = 0) .ZeroAmount
  revertIf (token.shares owner < sharesAmount)
    (.InsufficientShares sharesAmount (token.shares owner))
  let _ ← token.getAethelByShares sharesAmount
  let lowered ← checkedSub .arithmetic token.totalShares sharesAmount
  return { token.setShares keccak256 owner (token.shares owner - sharesAmount) with
    totalShares := lowered }

variable (sender : Address)

def setTotalPooledAethel (newTotalPooled : Nat) : Except Error Storage := do
  token.onlyRole VAULT_ROLE sender
  return { token with totalPooledAethel := newTotalPooled }

/-- The shares move first, then both accounts' entries are replaced; an account that is its
own recipient ends with what it had. -/
def moveShares (owner recipient : Address) (amount : Nat) :
    Except Error Storage := do
  let sharesToTransfer ← token.getSharesByAethel amount
  revertIf (sharesToTransfer = 0) .ZeroAmount
  revertIf (token.shares owner < sharesToTransfer)
    (.InsufficientShares sharesToTransfer (token.shares owner))
  let oldSharesSender := token.shares owner
  let oldSharesRecipient := token.shares recipient
  let debited := update token.shares owner (oldSharesSender - sharesToTransfer)
  let credit ← checkedAdd .arithmetic (debited recipient) sharesToTransfer
  let shares := update debited recipient credit
  return { token with
    shares
    stakerRegistryRoot := token.stakerRegistryRoot ^^^
      entry keccak256 owner oldSharesSender ^^^ entry keccak256 owner (shares owner) ^^^
      entry keccak256 recipient oldSharesRecipient ^^^ entry keccak256 recipient (shares recipient) }

def transfer (sender recipient : Address) (amount : Nat) :
    Except Error Storage := do
  token.notBlacklisted sender
  token.notBlacklisted recipient
  token.whenNotPaused
  token.moveShares keccak256 sender recipient amount

def spendAllowance (owner spender : Address) (amount : Nat) : Except Error Storage :=
  if token.allowance owner spender = wordBound - 1 then .ok token
  else do
    revertIf (token.allowance owner spender < amount)
      (.InsufficientAllowance spender (token.allowance owner spender) amount)
    return { token with
      allowance := update token.allowance owner
        (update (token.allowance owner) spender
          (token.allowance owner spender - amount)) }

def transferFrom (sender owner recipient : Address) (amount : Nat) :
    Except Error Storage := do
  token.notBlacklisted owner
  token.notBlacklisted recipient
  token.notBlacklisted sender
  token.whenNotPaused
  let spent ← token.spendAllowance owner sender amount
  spent.moveShares keccak256 owner recipient amount

def approve (sender spender : Address) (amount : Nat) : Except Error Storage := do
  revertIf (spender = 0) .InvalidSpender
  return { token with
    allowance := update token.allowance sender
      (update (token.allowance sender) spender amount) }

/-- An approval that the owner has signed; `signed` is what the checks of the deadline, the nonce
and the signature come to. -/
def permit (owner spender : Address) (amount : Nat) (signed : Bool) : Except Error Storage := do
  revertIf (signed = false) .InvalidSigner
  token.approve owner spender amount

def burnBalance (account : Address) (amount : Nat) : Except Error Storage := do
  revertIf (account = 0) .InvalidSender
  token.whenNotPaused
  revertIf (token.balances account < amount)
    (.InsufficientBalance account (token.balances account) amount)
  return { token with
    balances := update token.balances account (token.balances account - amount) }

def burn (amount : Nat) : Except Error Storage := token.burnBalance sender amount

def burnFrom (sender account : Address) (amount : Nat) : Except Error Storage := do
  let spent ← token.spendAllowance account sender amount
  spent.burnBalance account amount

def setBlacklisted (sender account : Address) (status : Bool) : Except Error Storage := do
  token.onlyRole DEFAULT_ADMIN_ROLE sender
  return { token with blacklisted := update token.blacklisted account status }

def pause : Except Error Storage := do
  token.onlyRole PAUSER_ROLE sender
  revertIf (token.paused = true) .EnforcedPause
  return { token with paused := true }

def unpause : Except Error Storage := do
  token.onlyRole PAUSER_ROLE sender
  revertIf (token.paused = false) .ExpectedPause
  return { token with paused := false }

variable (role : Bytes32)

def grantRole (account : Address) : Except Error Storage := do
  token.onlyRole (token.access.getRoleAdmin role) sender
  return { token with access := token.access.grant role account }

def revokeRole (account : Address) : Except Error Storage := do
  token.onlyRole (token.access.getRoleAdmin role) sender
  return { token with access := token.access.revoke role account }

def renounceRole (callerConfirmation : Address) : Except Error Storage := do
  revertIf (callerConfirmation ≠ sender) .AccessControlBadConfirmation
  return { token with access := token.access.revoke role sender }

end Storage

end StAethel

/- Runs of the share token, and what its total and its accumulator say about the accounts. -/
namespace StAethel

open Evm Accumulator

/-- The functions of the token that change its state, inherited ones included. -/
inductive Call where
  | transfer (recipient : Address) (amount : Nat)
  | transferFrom (owner recipient : Address) (amount : Nat)
  | approve (spender : Address) (amount : Nat)
  | permit (owner spender : Address) (amount : Nat) (signed : Bool)
  | burn (amount : Nat)
  | burnFrom (account : Address) (amount : Nat)
  | mintShares (recipient : Address) (sharesAmount : Nat)
  | burnShares (owner : Address) (sharesAmount : Nat)
  | setTotalPooledAethel (newTotalPooled : Nat)
  | setBlacklisted (account : Address) (status : Bool)
  | pause
  | unpause
  | grantRole (role : Bytes32) (account : Address)
  | revokeRole (role : Bytes32) (account : Address)
  | renounceRole (role : Bytes32) (callerConfirmation : Address)

variable (keccak256 : List Nat → Bytes32)

def Call.execute (sender : Address) (token : Storage) :
    Call → Except Error Storage
  | .transfer recipient amount => token.transfer keccak256 sender recipient amount
  | .transferFrom owner recipient amount =>
    token.transferFrom keccak256 sender owner recipient amount
  | .approve spender amount => token.approve sender spender amount
  | .permit owner spender amount signed => token.permit owner spender amount signed
  | .burn amount => token.burn sender amount
  | .burnFrom account amount => token.burnFrom sender account amount
  | .mintShares recipient sharesAmount => token.mintShares keccak256 sender recipient sharesAmount
  | .burnShares owner sharesAmount => token.burnShares keccak256 sender owner sharesAmount
  | .setTotalPooledAethel newTotalPooled => token.setTotalPooledAethel sender newTotalPooled
  | .setBlacklisted account status => token.setBlacklisted sender account status
  | .pause => token.pause sender
  | .unpause => token.unpause sender
  | .grantRole role account => token.grantRole sender role account
  | .revokeRole role account => token.revokeRole sender role account
  | .renounceRole role callerConfirmation => token.renounceRole sender role callerConfirmation

variable (token : Storage)

/-- A call that reverts changes nothing. -/
def step (input : Address × Call) : Storage :=
  (input.2.execute keccak256 input.1 token).toOption.getD token

def run : Storage → List (Address × Call) → Storage :=
  Run.exec (step keccak256)

/-- The accounts that hold shares. -/
def Storage.holders : Finset Address :=
  Finset.univ.filter fun account => 0 < token.shares account

/-- The XOR over all holders of the hash of the account and its shares. -/
def Storage.registryRoot : Bytes32 :=
  gather Bytes.xorWord 0 token.holders fun account => keccak256 [account, token.shares account]

/-- The total is the sum of all shares, the accumulator holds the entries of all accounts, and the
inherited balances are empty. -/
structure Registered (keccak256 : List Nat → Bytes32) (token : Storage) : Prop where
  sum : token.totalShares = total id token.shares
  root : token.stakerRegistryRoot = accumulate Bytes.xorWord 0 fun account =>
    Storage.entry keccak256 account (token.shares account)
  bounded : token.totalShares ≤ MAX_TOTAL_SHARES
  inherited : ∀ account, token.balances account = 0

section Registry

variable {keccak256 : List Nat → Bytes32} {token next : Storage} {sender account : Address}
  {amount : Nat}

section

variable (registered : Registered keccak256 token)
include registered

theorem Registered.registryRoot :
    token.stakerRegistryRoot = token.registryRoot keccak256 := by
  have neutral : ∀ account, ¬0 < token.shares account →
      Storage.entry keccak256 account (token.shares account) = 0 := by
    intro account none
    exact if_pos (Nat.eq_zero_of_not_pos none)
  have entries : ∀ account ∈ token.holders, Storage.entry keccak256 account (token.shares account) =
      keccak256 [account, token.shares account] := by
    intro account member
    have holds : 0 < token.shares account := (Finset.mem_filter.mp member).2
    exact if_neg holds.ne'
  rw [registered.root, accumulate, ← gather_filter _ neutral, Storage.registryRoot,
    ← gather_congr entries, Storage.holders]

theorem Registered.shares_le (account : Address) : token.shares account ≤ token.totalShares := by
  rw [registered.sum]
  exact weight_le_total id token.shares account

theorem Registered.of_same
    (shares : next.shares = token.shares) (totalShares : next.totalShares = token.totalShares)
    (root : next.stakerRegistryRoot = token.stakerRegistryRoot)
    (balances : next.balances = token.balances) : Registered keccak256 next where
  sum := by rw [totalShares, shares, registered.sum]
  root := by rw [root, shares, registered.root]
  bounded := by rw [totalShares]; exact registered.bounded
  inherited := by rw [balances]; exact registered.inherited

end

theorem root_setShares (newShares : Nat)
    (root : token.stakerRegistryRoot = accumulate Bytes.xorWord 0 fun account =>
      Storage.entry keccak256 account (token.shares account)) :
    (token.setShares keccak256 account newShares).stakerRegistryRoot =
      accumulate Bytes.xorWord 0 fun other => Storage.entry keccak256 other
        ((token.setShares keccak256 account newShares).shares other) := by
  have entries : (fun other => Storage.entry keccak256 other
      (Function.update token.shares account newShares other)) =
      Function.update (fun other => Storage.entry keccak256 other (token.shares other)) account
        (Storage.entry keccak256 account newShares) := by
    funext other
    by_cases same : other = account
    · subst same
      rw [Function.update_self, Function.update_self]
    · rw [Function.update_of_ne same, Function.update_of_ne same]
  simp only [Storage.setShares]
  rw [entries, accumulate_update Bytes.xorWord_self, ← root]
  rfl

theorem Registered.mintShares {recipient : Address} (registered : Registered keccak256 token)
    (done : token.mintShares keccak256 sender recipient amount = .ok next) :
    Registered keccak256 next := by
  simp only [Storage.mintShares, Storage.onlyRole, Storage.notBlacklisted, revertIf_bind_eq_ok,
    checkedAdd_bind_eq_ok] at done
  obtain ⟨-, -, -, -, -, capped, -, done⟩ := done
  obtain ⟨-, -, done⟩ := Except.bind_eq_ok.mp done
  obtain rfl := Except.ok.inj done
  exact {
    sum := (congrArg (· + amount) registered.sum).trans
      (total_update_add token.shares recipient amount).symm
    root := root_setShares _ registered.root
    bounded := Nat.not_lt.mp capped
    inherited := registered.inherited }

theorem Registered.burnShares {owner : Address} (registered : Registered keccak256 token)
    (done : token.burnShares keccak256 sender owner amount = .ok next) :
    Registered keccak256 next := by
  simp only [Storage.burnShares, Storage.onlyRole, revertIf_bind_eq_ok, not_lt] at done
  obtain ⟨-, -, -, held, done⟩ := done
  obtain ⟨-, -, done⟩ := Except.bind_eq_ok.mp done
  obtain ⟨-, done⟩ := checkedSub_bind_eq_ok.mp done
  obtain rfl := Except.ok.inj done
  exact {
    sum := (congrArg (· - amount) registered.sum).trans (total_update_sub held).symm
    root := root_setShares _ registered.root
    bounded := (Nat.sub_le _ _).trans registered.bounded
    inherited := registered.inherited }

variable {owner recipient : Address}

/-- A transfer replaces two entries, or nothing if the account is its own recipient. -/
theorem moveShares_eq_ok (done : token.moveShares keccak256 owner recipient amount = .ok next) :
    (owner = recipient ∧ next = token) ∨
      ∃ moved, moved ≤ token.shares owner ∧ owner ≠ recipient ∧
        next = (token.setShares keccak256 owner (token.shares owner - moved)).setShares keccak256
          recipient (token.shares recipient + moved) := by
  obtain ⟨moved, -, done⟩ := Except.bind_eq_ok.mp done
  simp only [revertIf_bind_eq_ok, checkedAdd_bind_eq_ok, not_lt] at done
  obtain ⟨-, held, -, done⟩ := done
  obtain rfl := Except.ok.inj done
  by_cases same : owner = recipient
  · subst same
    left
    refine ⟨rfl, ?_⟩
    simp only [Function.update_self, Nat.sub_add_cancel held, Function.update_idem,
      Function.update_eq_self, Bytes.xorWord_cancel]
  · right
    refine ⟨moved, held, same, ?_⟩
    simp only [Storage.setShares, Function.update_self, Function.update_of_ne same,
      Function.update_of_ne (Ne.symm same)]

theorem Registered.moveShares (registered : Registered keccak256 token)
    (done : token.moveShares keccak256 owner recipient amount = .ok next) :
    Registered keccak256 next := by
  obtain ⟨-, rfl⟩ | ⟨moved, held, differ, rfl⟩ := moveShares_eq_ok done
  · exact registered
  · have debited := total_update_sub held
    have credited := total_update_add
      (Function.update token.shares owner (token.shares owner - moved)) recipient moved
    rw [Function.update_of_ne (Ne.symm differ)] at credited
    exact {
      sum := by
        refine registered.sum.trans (Eq.symm (credited.trans ?_))
        rw [debited]
        exact Nat.sub_add_cancel (held.trans (weight_le_total id token.shares owner))
      root := root_setShares _ (root_setShares _ registered.root)
      bounded := registered.bounded
      inherited := registered.inherited }

theorem Registered.transfer {recipient : Address} (registered : Registered keccak256 token)
    (done : token.transfer keccak256 sender recipient amount = .ok next) :
    Registered keccak256 next := by
  simp only [Storage.transfer, Storage.notBlacklisted, Storage.whenNotPaused,
    revertIf_bind_eq_ok] at done
  exact registered.moveShares done.2.2.2

theorem spendAllowance_eq_ok {owner spender : Address}
    (done : token.spendAllowance owner spender amount = .ok next) :
    ∃ allowance, next = { token with allowance } := by
  unfold Storage.spendAllowance at done
  split at done
  · exact ⟨token.allowance, (Except.ok.inj done).symm⟩
  · obtain ⟨-, done⟩ := revertIf_bind_eq_ok.mp done
    exact ⟨_, (Except.ok.inj done).symm⟩

section

variable (registered : Registered keccak256 token)
include registered

theorem Registered.spendAllowance {owner spender : Address}
    (done : token.spendAllowance owner spender amount = .ok next) : Registered keccak256 next := by
  obtain ⟨allowance, rfl⟩ := spendAllowance_eq_ok done
  exact registered.of_same rfl rfl rfl rfl

theorem Registered.transferFrom
    (done : token.transferFrom keccak256 sender owner recipient amount = .ok next) :
    Registered keccak256 next := by
  simp only [Storage.transferFrom, Storage.notBlacklisted, Storage.whenNotPaused,
    revertIf_bind_eq_ok] at done
  obtain ⟨spent, allowed, done⟩ := Except.bind_eq_ok.mp done.2.2.2.2
  exact (registered.spendAllowance allowed).moveShares done

theorem Registered.approve {spender : Address}
    (done : token.approve sender spender amount = .ok next) : Registered keccak256 next := by
  obtain ⟨-, done⟩ := revertIf_bind_eq_ok.mp done
  obtain rfl := Except.ok.inj done
  exact registered.of_same rfl rfl rfl rfl

theorem Registered.burnBalance
    (done : token.burnBalance account amount = .ok next) : Registered keccak256 next := by
  simp only [Storage.burnBalance, Storage.whenNotPaused, revertIf_bind_eq_ok] at done
  obtain ⟨-, -, -, done⟩ := done
  obtain rfl := Except.ok.inj done
  have empty : token.balances account - amount = token.balances account := by
    rw [registered.inherited account, Nat.zero_sub]
  refine registered.of_same rfl rfl rfl ?_
  simp only [empty, Function.update_eq_self]

theorem Registered.of_guarded {condition : Prop} [Decidable condition] {reason : Error}
    {after : Storage} (done : (revertIf condition reason >>= fun _ => .ok after) = .ok next)
    (kept : Registered keccak256 token → Registered keccak256 after) :
    Registered keccak256 next := by
  obtain ⟨-, done⟩ := revertIf_bind_eq_ok.mp done
  obtain rfl := Except.ok.inj done
  exact kept registered

/-- Every call keeps the accumulator that of the holders. -/
theorem Registered.execute {call : Call}
    (done : call.execute keccak256 sender token = .ok next) : Registered keccak256 next := by
  cases call with
  | transfer recipient amount => exact registered.transfer done
  | transferFrom owner recipient amount => exact registered.transferFrom done
  | approve spender amount => exact registered.approve done
  | permit owner spender amount signed =>
    obtain ⟨-, done⟩ := revertIf_bind_eq_ok.mp done
    exact registered.approve done
  | burn amount => exact registered.burnBalance done
  | burnFrom account amount =>
    obtain ⟨spent, allowed, done⟩ := Except.bind_eq_ok.mp done
    exact (registered.spendAllowance allowed).burnBalance done
  | mintShares recipient sharesAmount => exact registered.mintShares done
  | burnShares owner sharesAmount => exact registered.burnShares done
  | setTotalPooledAethel newTotalPooled =>
    exact registered.of_guarded done fun kept => kept.of_same rfl rfl rfl rfl
  | setBlacklisted account status =>
    exact registered.of_guarded done fun kept => kept.of_same rfl rfl rfl rfl
  | pause =>
    obtain ⟨-, done⟩ := revertIf_bind_eq_ok.mp done
    exact registered.of_guarded done fun kept => kept.of_same rfl rfl rfl rfl
  | unpause =>
    obtain ⟨-, done⟩ := revertIf_bind_eq_ok.mp done
    exact registered.of_guarded done fun kept => kept.of_same rfl rfl rfl rfl
  | grantRole role account =>
    exact registered.of_guarded done fun kept => kept.of_same rfl rfl rfl rfl
  | revokeRole role account =>
    exact registered.of_guarded done fun kept => kept.of_same rfl rfl rfl rfl
  | renounceRole role callerConfirmation =>
    exact registered.of_guarded done fun kept => kept.of_same rfl rfl rfl rfl

theorem Registered.step (input : Address × Call) :
    Registered keccak256 (StAethel.step keccak256 token input) := by
  unfold StAethel.step
  cases done : input.2.execute keccak256 input.1 token with
  | ok after => exact registered.execute done
  | error reason => exact registered

end

section

variable {admin upgrader vault : Address}
  (done : initializeStAethel admin upgrader vault = .ok token)
include done

theorem registered_initially : Registered keccak256 token := by
  simp only [initializeStAethel, revertIf_bind_eq_ok] at done
  obtain ⟨-, -, -, done⟩ := done
  obtain rfl := Except.ok.inj done
  exact {
    sum := (total_eq_zero fun _ => rfl).symm
    root := (gather_neutral fun _ _ => rfl).symm
    bounded := Nat.zero_le _
    inherited := fun _ => rfl }

theorem registered_run (calls : List (Address × Call)) :
    Registered keccak256 (run keccak256 token calls) :=
  Run.invariant_of_step (Registered keccak256) (fun _ input registered => registered.step input)
    calls (registered_initially done)

end

end Registry

end StAethel
