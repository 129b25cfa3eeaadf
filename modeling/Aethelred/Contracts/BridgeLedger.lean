import Aethelred.Contracts.BridgeInvariant

/- The bridge's books: what is locked against the deposits and the payouts on record, and each
payout against the payments that left the bridge. -/
namespace AethelredBridge

open Evm AccessControl EmergencyWithdrawalRequest

variable (token : Address)

def Deposit.live (deposit : Deposit) : Nat :=
  if deposit.token = token ∧ deposit.cancelled = false then deposit.amount else 0

def WithdrawalProposal.taken (proposal : WithdrawalProposal) : Nat :=
  if proposal.token = token ∧ proposal.processed = true then proposal.amount else 0

def EmergencyWithdrawalRequest.taken (request : EmergencyWithdrawalRequest) : Nat :=
  if request.token = token ∧ request.executed = true then request.amount else 0

/-- No two word lists the bridge has hashed share a hash. -/
def CollisionFree (env : Environment) (hashed : List (List Nat)) : Prop :=
  ∀ first ∈ hashed, ∀ second ∈ hashed,
    env.keccak256 first = env.keccak256 second → first = second

/-- The bridge holds of every token what it has locked. -/
def Solvent (chain : Chain) : Prop := ∀ token, chain.totalLocked token ≤ chain.balance token

section Solvency

variable {env : Environment} {chain : Chain}

theorem Solvent.receive (solvent : Solvent chain) (token : Address) (amount : Nat) :
    Solvent (chain.receiveFunds token amount) := by
  intro other
  refine (solvent other).trans ?_
  unfold Chain.receiveFunds
  by_cases same : other = token
  · subst same
    simp
  · simp [same]

theorem Solvent.paid (solvent : Solvent chain) {purpose : Purpose} {token recipient : Address}
    {amount : Nat} (funded : amount ≤ chain.balance token) :
    Solvent (chain.paid env purpose token recipient amount) := by
  intro other
  have locked : (chain.paid env purpose token recipient amount).totalLocked other =
      if other = token then chain.totalLocked token - amount else chain.totalLocked other :=
    Chain.totalLocked_withLocked token other _
  rw [locked]
  simp only [Chain.paid]
  have covered := solvent other
  by_cases same : other = token
  · subst same
    rw [if_pos rfl]
    split
    · omega
    · rw [Function.update_self]
      omega
  · rw [if_neg same]
    split
    · exact covered
    · rw [Function.update_of_ne same]
      exact covered

/-- The bridge always holds what it has locked. -/
theorem solvent_invariant : Invariant env (fun _ _ => True) Solvent where
  advance _ _ _ solvent := solvent
  receive _ token amount solvent := solvent.receive token amount
  free chain next free solvent := by
    intro token
    rw [free.totalLocked, free.balance]
    exact solvent token
  guard _ _ solvent := solvent
  ended _ _ _ solvent := solvent
  booked chain function mid event booked _ solvent := by
    cases booked with
    | refund | withdrawal | emergency =>
      rename_i funded
      refine Solvent.paid ?_ funded
      exact solvent
  recorded before chain depositor recipient token amount covered solvent locked grown := by
    intro other
    have recorded : (chain.recorded env depositor recipient token amount).totalLocked other =
        if other = token then chain.totalLocked token + amount else chain.totalLocked other :=
      Chain.totalLocked_withLocked token other _
    rw [recorded]
    change _ ≤ chain.balance other
    by_cases same : other = token
    · subst same
      rw [if_pos rfl, locked, ← grown]
      exact Nat.add_le_add_right (covered other) amount
    · rw [if_neg same]
      exact solvent other

end Solvency

structure Books where
  locked : Address → Nat
  deposits : Bytes32 → Deposit
  proposals : Bytes32 → WithdrawalProposal
  requests : Bytes32 → EmergencyWithdrawalRequest
  depositNonce : Nat
  operationNonce : Nat
  payments : List Payment
  hashed : List (List Nat)

def Chain.books (chain : Chain) : Books where
  locked := chain.totalLocked
  deposits := chain.bridge.deposits
  proposals := chain.bridge.withdrawalProposals
  requests := chain.bridge.emergencyWithdrawalRequests
  depositNonce := chain.bridge.depositNonce
  operationNonce := chain.bridge.emergencyWithdrawalNonce
  payments := chain.payments
  hashed := chain.hashed

namespace Books

def paidFor (books : Books) (purpose : Purpose) : Nat :=
  (books.payments.map Payment.purpose).count purpose

def pay (books : Books) (payment : Payment) : Books :=
  { books with
    locked := fun token => if token = payment.token then books.locked token - payment.amount
      else books.locked token
    payments := payment :: books.payments }

/-- A deposit's id on record: the hash of its words, with a nonce already used. -/
def DepositHashed (env : Environment) (books : Books) (id : Bytes32) : Prop :=
  ∃ depositor recipient token amount nonce, nonce < books.depositNonce ∧
    depositWords env depositor recipient token amount nonce ∈ books.hashed ∧
    env.keccak256 (depositWords env depositor recipient token amount nonce) = id

/-- The id is the hash of an operation queued under an earlier nonce. -/
def OperationHashed (env : Environment) (books : Books) (id : Bytes32) : Prop :=
  ∃ token amount recipient nonce, nonce < books.operationNonce ∧
    operationWords env token amount recipient nonce ∈ books.hashed ∧
    env.keccak256 (operationWords env token amount recipient nonce) = id

end Books

/-- The books balance, and every record comes from a hash the bridge has taken. -/
structure Accounted (env : Environment) (books : Books) : Prop where
  locked : ∀ token, books.locked token +
    total (WithdrawalProposal.taken token) books.proposals +
    total (taken token) books.requests =
      total (Deposit.live token) books.deposits
  deposited : ∀ id, books.deposits id = {} ∨ books.DepositHashed env id
  queued : ∀ id, books.requests id = {} ∨ books.OperationHashed env id
  created : ∀ id, (books.proposals id).processed = true → (books.proposals id).createdAt ≠ 0
  refunded : ∀ id, books.paidFor (.refund id) = if (books.deposits id).cancelled then 1 else 0
  processed : ∀ id, books.paidFor (.withdrawal id) =
    if (books.proposals id).processed then 1 else 0
  executed : ∀ id, books.paidFor (.emergency id) = if (books.requests id).executed then 1 else 0
  settled : ∀ id, (books.deposits id).cancelled = true → (books.deposits id).finalized = false

section Books

variable {env : Environment} {books : Books} {id : Bytes32}

theorem Accounted.deposit_fresh (accounted : Accounted env books) {depositor token : Address}
    {recipient : Bytes32} {amount : Nat} {words : List Nat}
    (hashes : words = depositWords env depositor recipient token amount books.depositNonce)
    (free : CollisionFree env (words :: books.hashed)) :
    books.deposits (env.keccak256 words) = {} := by
  obtain blank | ⟨depositor', recipient', token', amount', nonce, earlier, hashed, same⟩ :=
    accounted.deposited (env.keccak256 words)
  · exact blank
  · have equal := free _ (List.mem_cons_of_mem _ hashed) _ (List.mem_cons_self ..) same
    rw [hashes] at equal
    simp only [depositWords, List.cons.injEq] at equal
    obtain ⟨-, -, -, -, nonces, -⟩ := equal
    omega

theorem Accounted.operation_fresh (accounted : Accounted env books) {token recipient : Address}
    {amount : Nat} {words : List Nat}
    (hashes : words = operationWords env token amount recipient books.operationNonce)
    (free : CollisionFree env (words :: books.hashed)) :
    books.requests (env.keccak256 words) = {} := by
  obtain blank | ⟨token', amount', recipient', nonce, earlier, hashed, same⟩ :=
    accounted.queued (env.keccak256 words)
  · exact blank
  · have equal := free _ (List.mem_cons_of_mem _ hashed) _ (List.mem_cons_self ..) same
    rw [hashes] at equal
    simp only [operationWords, List.cons.injEq] at equal
    obtain ⟨-, -, -, nonces, -⟩ := equal
    omega

theorem forall_update {β : Type} {P : Bytes32 → β → Prop} {table : Bytes32 → β} {value : β}
    (here : P id value) (elsewhere : ∀ key, P key (table key)) (key : Bytes32) :
    P key (Function.update table id value key) := by
  by_cases same : key = id
  · subst same
    rw [Function.update_self]
    exact here
  · rw [Function.update_of_ne same]
    exact elsewhere key

section

variable (accounted : Accounted env books)
include accounted

theorem Accounted.finalize
    (known : (books.deposits id).depositor ≠ 0) (kept : (books.deposits id).cancelled = false) :
    Accounted env { books with
      deposits := Function.update books.deposits id { books.deposits id with finalized := true } } := by
  refine ⟨fun token => ?_, ?_, accounted.queued, accounted.created, ?_, accounted.processed,
    accounted.executed, ?_⟩
  · have same : total (Deposit.live token) (Function.update books.deposits id
        { books.deposits id with finalized := true }) = total (Deposit.live token) books.deposits :=
      total_update_same rfl
    exact (accounted.locked token).trans same.symm
  · refine forall_update (P := fun key (deposit : Deposit) => deposit = {} ∨
      books.DepositHashed env key) ?_
      accounted.deposited
    refine .inr ((accounted.deposited id).resolve_left fun blank => known ?_)
    rw [blank]
  · exact forall_update (P := fun key (deposit : Deposit) =>
      books.paidFor (.refund key) = if deposit.cancelled then 1 else 0) (accounted.refunded id)
      accounted.refunded
  · refine forall_update (P := fun _ (deposit : Deposit) =>
      deposit.cancelled = true → deposit.finalized = false) ?_ accounted.settled
    intro cancelled
    rw [kept] at cancelled
    cases cancelled

theorem Accounted.propose {proposal : WithdrawalProposal}
    (before : (books.proposals id).processed = false) (after : proposal.processed = false) :
    Accounted env { books with proposals := Function.update books.proposals id proposal } := by
  refine ⟨fun token => ?_, accounted.deposited, accounted.queued, ?_, accounted.refunded, ?_,
    accounted.executed, accounted.settled⟩
  · rw [total_update_same (by simp [WithdrawalProposal.taken, before, after])]
    exact accounted.locked token
  · refine forall_update (P := fun _ (written : WithdrawalProposal) =>
      written.processed = true → written.createdAt ≠ 0) ?_ accounted.created
    intro processed
    rw [after] at processed
    cases processed
  · refine forall_update (P := fun key (written : WithdrawalProposal) =>
      books.paidFor (.withdrawal key) = if written.processed then 1 else 0) ?_ accounted.processed
    rw [accounted.processed id, before, after]

theorem Accounted.request {request : EmergencyWithdrawalRequest}
    (before : (books.requests id).executed = false) (after : request.executed = false)
    (hashed : books.OperationHashed env id) :
    Accounted env { books with requests := Function.update books.requests id request } := by
  refine ⟨fun token => ?_, accounted.deposited, ?_, accounted.created, accounted.refunded,
    accounted.processed, ?_, accounted.settled⟩
  · rw [total_update_same (by simp [taken, before, after])]
    exact accounted.locked token
  · exact forall_update (P := fun key (request : EmergencyWithdrawalRequest) => request = {} ∨
      books.OperationHashed env key)
      (.inr hashed) accounted.queued
  · refine forall_update (P := fun key (written : EmergencyWithdrawalRequest) =>
      books.paidFor (.emergency key) = if written.executed then 1 else 0) ?_ accounted.executed
    rw [accounted.executed id, before, after]

theorem Accounted.hash (words : List Nat) (deposits operations : Nat) :
    Accounted env { books with
      hashed := words :: books.hashed
      depositNonce := books.depositNonce + deposits
      operationNonce := books.operationNonce + operations } := by
  refine ⟨accounted.locked, fun id => ?_, fun id => ?_, accounted.created, accounted.refunded,
    accounted.processed, accounted.executed, accounted.settled⟩
  · refine (accounted.deposited id).imp_right ?_
    rintro ⟨depositor, recipient, token, amount, nonce, earlier, hashed, same⟩
    exact ⟨depositor, recipient, token, amount, nonce, Nat.lt_add_right _ earlier,
      List.mem_cons_of_mem _ hashed, same⟩
  · refine (accounted.queued id).imp_right ?_
    rintro ⟨token, amount, recipient, nonce, earlier, hashed, same⟩
    exact ⟨token, amount, recipient, nonce, Nat.lt_add_right _ earlier,
      List.mem_cons_of_mem _ hashed, same⟩

/-- A new deposit keeps the sums. -/
theorem Accounted.record (deposit : Deposit) (fresh : books.deposits id = {})
    (hashed : books.DepositHashed env id) (live : deposit.cancelled = false) :
    Accounted env { books with
      locked := fun token => if token = deposit.token then books.locked token + deposit.amount
        else books.locked token
      deposits := Function.update books.deposits id deposit } := by
  refine ⟨fun token => ?_, ?_, accounted.queued, accounted.created, ?_, accounted.processed,
    accounted.executed, ?_⟩
  · have changed := total_update (Deposit.live token) books.deposits id deposit
    have none : Deposit.live token (books.deposits id) = 0 := by
      rw [fresh]
      simp [Deposit.live]
    have balanced := accounted.locked token
    by_cases same : token = deposit.token
    · subst same
      have added : Deposit.live deposit.token deposit = deposit.amount := by
        simp [Deposit.live, live]
      simp only [if_true]
      omega
    · have nothing : Deposit.live token deposit = 0 := by
        simp [Deposit.live, Ne.symm same]
      simp only [same, if_false]
      omega
  · exact forall_update (P := fun key (deposit : Deposit) => deposit = {} ∨
      books.DepositHashed env key) (.inr hashed) accounted.deposited
  · refine forall_update (P := fun key (deposit : Deposit) =>
      books.paidFor (.refund key) = if deposit.cancelled then 1 else 0) ?_ accounted.refunded
    rw [accounted.refunded id, fresh, live]
  · refine forall_update (P := fun _ (deposit : Deposit) =>
      deposit.cancelled = true → deposit.finalized = false) ?_ accounted.settled
    intro cancelled
    rw [live] at cancelled
    cases cancelled

end

variable {payment : Payment}

theorem Books.paidFor_pay_self {purpose : Purpose} (same : payment.purpose = purpose) :
    (books.pay payment).paidFor purpose = books.paidFor purpose + 1 := by
  simp [Books.paidFor, Books.pay, same]

theorem Books.paidFor_pay_ne {purpose : Purpose} (other : payment.purpose ≠ purpose) :
    (books.pay payment).paidFor purpose = books.paidFor purpose := by
  simp [Books.paidFor, Books.pay, other]

section

variable (accounted : Accounted env books)
include accounted

/-- A refund keeps the sums, and is the deposit's only one. -/
theorem Accounted.refund {written : Deposit}
    (purpose : payment.purpose = .refund id) (token : payment.token = (books.deposits id).token)
    (amount : payment.amount = (books.deposits id).amount)
    (known : (books.deposits id).depositor ≠ 0) (kept : (books.deposits id).cancelled = false)
    (cancelled : written.cancelled = true) (unfinalized : written.finalized = false)
    (covered : payment.amount ≤ books.locked payment.token) :
    Accounted env (Books.pay
      { books with deposits := Function.update books.deposits id written } payment) := by
  refine ⟨fun other => ?_, ?_, accounted.queued, accounted.created, fun key => ?_, fun key => ?_,
    fun key => ?_, ?_⟩
  · have changed := total_update (Deposit.live other) books.deposits id written
    have gone : Deposit.live other written = 0 := by simp [Deposit.live, cancelled]
    have balanced := accounted.locked other
    simp only [Books.pay]
    by_cases same : other = payment.token
    · have lived : Deposit.live other (books.deposits id) = payment.amount := by
        simp [Deposit.live, kept, same, token, amount]
      subst same
      rw [if_pos rfl]
      omega
    · have lived : Deposit.live other (books.deposits id) = 0 := by
        simp [Deposit.live, ← token, Ne.symm same]
      rw [if_neg same]
      omega
  · refine forall_update (P := fun key (deposit : Deposit) => deposit = {} ∨
      books.DepositHashed env key) ?_ accounted.deposited
    refine .inr ((accounted.deposited id).resolve_left fun blank => known ?_)
    rw [blank]
  · have before := accounted.refunded key
    by_cases same : key = id
    · subst same
      rw [Books.paidFor_pay_self purpose]
      simp only [Books.pay, Function.update_self, cancelled, if_true]
      rw [kept] at before
      exact congrArg (· + 1) before
    · refine (Books.paidFor_pay_ne ?_).trans ?_
      · rw [purpose]
        simpa using Ne.symm same
      · simp only [Books.pay, Function.update_of_ne same]
        exact before
  · refine (Books.paidFor_pay_ne ?_).trans (accounted.processed key)
    rw [purpose]
    simp
  · refine (Books.paidFor_pay_ne ?_).trans (accounted.executed key)
    rw [purpose]
    simp
  · exact forall_update (P := fun _ (deposit : Deposit) =>
      deposit.cancelled = true → deposit.finalized = false) (fun _ => unfinalized)
      accounted.settled

/-- A payout of a pending proposal keeps the sums. -/
theorem Accounted.withdraw
    {written : WithdrawalProposal} (purpose : payment.purpose = .withdrawal id)
    (token : payment.token = written.token) (amount : payment.amount = written.amount)
    (pending : (books.proposals id).processed = false) (processed : written.processed = true)
    (created : written.createdAt ≠ 0) (covered : payment.amount ≤ books.locked payment.token) :
    Accounted env (Books.pay
      { books with proposals := Function.update books.proposals id written } payment) := by
  refine ⟨fun other => ?_, accounted.deposited, accounted.queued, ?_, fun key => ?_, fun key => ?_,
    fun key => ?_, accounted.settled⟩
  · have changed := total_update (WithdrawalProposal.taken other) books.proposals id written
    have before : WithdrawalProposal.taken other (books.proposals id) = 0 := by
      simp [WithdrawalProposal.taken, pending]
    have balanced := accounted.locked other
    simp only [Books.pay]
    by_cases same : other = payment.token
    · have after : WithdrawalProposal.taken other written = payment.amount := by
        simp [WithdrawalProposal.taken, same, token, amount, processed]
      subst same
      rw [if_pos rfl]
      omega
    · have after : WithdrawalProposal.taken other written = 0 := by
        simp [WithdrawalProposal.taken, ← token, Ne.symm same]
      rw [if_neg same]
      omega
  · exact forall_update (P := fun _ (written : WithdrawalProposal) =>
      written.processed = true → written.createdAt ≠ 0) (fun _ => created) accounted.created
  · refine (Books.paidFor_pay_ne ?_).trans (accounted.refunded key)
    rw [purpose]
    simp
  · have before := accounted.processed key
    by_cases same : key = id
    · subst same
      rw [Books.paidFor_pay_self purpose]
      simp only [Books.pay, Function.update_self, processed, if_true]
      rw [pending] at before
      exact congrArg (· + 1) before
    · refine (Books.paidFor_pay_ne ?_).trans ?_
      · rw [purpose]
        simpa using Ne.symm same
      · simp only [Books.pay, Function.update_of_ne same]
        exact before
  · refine (Books.paidFor_pay_ne ?_).trans (accounted.executed key)
    rw [purpose]
    simp

/-- An emergency payout keeps the sums, and is the operation's only one. -/
theorem Accounted.execute
    {written : EmergencyWithdrawalRequest} (purpose : payment.purpose = .emergency id)
    (token : payment.token = written.token) (amount : payment.amount = written.amount)
    (queued : (books.requests id).queuedAt ≠ 0) (pending : (books.requests id).executed = false)
    (executed : written.executed = true) (covered : payment.amount ≤ books.locked payment.token) :
    Accounted env (Books.pay
      { books with requests := Function.update books.requests id written } payment) := by
  refine ⟨fun other => ?_, accounted.deposited, ?_, accounted.created, fun key => ?_, fun key => ?_,
    fun key => ?_, accounted.settled⟩
  · have changed := total_update (taken other) books.requests id written
    have before : taken other (books.requests id) = 0 := by
      simp [taken, pending]
    have balanced := accounted.locked other
    simp only [Books.pay]
    by_cases same : other = payment.token
    · have after : taken other written = payment.amount := by
        simp [taken, same, token, amount, executed]
      subst same
      rw [if_pos rfl]
      omega
    · have after : taken other written = 0 := by
        simp [taken, ← token, Ne.symm same]
      rw [if_neg same]
      omega
  · refine forall_update (P := fun key (request : EmergencyWithdrawalRequest) => request = {} ∨
      books.OperationHashed env key) ?_ accounted.queued
    refine .inr ((accounted.queued id).resolve_left fun blank => queued ?_)
    rw [blank]
  · refine (Books.paidFor_pay_ne ?_).trans (accounted.refunded key)
    rw [purpose]
    simp
  · refine (Books.paidFor_pay_ne ?_).trans (accounted.processed key)
    rw [purpose]
    simp
  · have before := accounted.executed key
    by_cases same : key = id
    · subst same
      rw [Books.paidFor_pay_self purpose]
      simp only [Books.pay, Function.update_self, executed, if_true]
      rw [pending] at before
      exact congrArg (· + 1) before
    · refine (Books.paidFor_pay_ne ?_).trans ?_
      · rw [purpose]
        simpa using Ne.symm same
      · simp only [Books.pay, Function.update_of_ne same]
        exact before

end

end Books

end AethelredBridge
