import Aethelred.Contracts.BridgeLedger
import Aethelred.Contracts.RoleLog
import Aethelred.Contracts.MintCeiling

/- The bridge's books along its runs. -/
namespace AethelredBridge

open Evm AccessControl List EmergencyWithdrawalRequest Chain

section Steps

variable {env : Environment} {chain next : Chain}

theorem CollisionFree.tail {words : List Nat} {hashed : List (List Nat)}
    (free : CollisionFree env (words :: hashed)) : CollisionFree env hashed := by
  intro first member second member' same
  exact free first (mem_cons_of_mem _ member) second (mem_cons_of_mem _ member') same

theorem Chain.books_paid (purpose : Purpose) (token recipient : Address) (amount : Nat) :
    (chain.paid env purpose token recipient amount).books =
      chain.books.pay ⟨chain.block, purpose, token, recipient, amount⟩ := by
  have locked : (chain.paid env purpose token recipient amount).totalLocked = fun other =>
      if other = token then chain.totalLocked other - amount else chain.totalLocked other := by
    funext other
    refine (totalLocked_withLocked token other _).trans ?_
    by_cases same : other = token
    · rw [if_pos same, if_pos same, same]
    · rw [if_neg same, if_neg same]
  unfold books Books.pay
  rw [locked]
  rfl

theorem Chain.books_recorded (depositor : Address) (recipient : Bytes32) (token : Address)
    (amount : Nat) :
    (chain.recorded env depositor recipient token amount).books =
      { chain.books with
        locked := fun other => if other = token then chain.totalLocked other + amount
          else chain.totalLocked other
        hashed := depositWords env depositor recipient token amount chain.bridge.depositNonce ::
          chain.hashed
        depositNonce := chain.bridge.depositNonce + 1
        deposits := Function.update chain.bridge.deposits (env.keccak256 (depositWords env depositor
          recipient token amount chain.bridge.depositNonce))
          ⟨depositor, recipient, token, amount, chain.block.number, chain.block.timestamp, false,
            false⟩ } := by
  have locked : (chain.recorded env depositor recipient token amount).totalLocked = fun other =>
      if other = token then chain.totalLocked other + amount else chain.totalLocked other := by
    funext other
    refine (totalLocked_withLocked token other _).trans ?_
    by_cases same : other = token
    · rw [if_pos same, if_pos same, same]
    · rw [if_neg same, if_neg same]
  unfold books
  rw [locked]
  rfl

/-- Functions outside the guard keep the sums. -/
theorem Accounted.free (free : Free env chain next) (unique : CollisionFree env next.hashed)
    (accounted : Accounted env chain.books) : Accounted env next.books := by
  cases free with
  | finalize known kept pending => exact accounted.finalize known kept
  | @propose sender recipient token id burnTxHash amount height relayer fresh =>
    have pending : (chain.bridge.withdrawalProposals id).processed = false := by
      by_contra processed
      exact accounted.created id (Bool.eq_true_of_not_eq_false processed) fresh
    exact accounted.propose pending rfl
  | vote relayer created pending =>
    refine accounted.propose pending ?_
    exact pending
  | challenge created pending =>
    refine accounted.propose pending ?_
    exact pending
  | @queue token recipient amount words hashes =>
    have fresh := accounted.operation_fresh hashes unique
    have unexecuted : (chain.books.requests (env.keccak256 words)).executed = false := by
      rw [fresh]
    refine (accounted.hash words 0 1).request unexecuted rfl ?_
    refine ⟨token, amount, recipient, chain.bridge.emergencyWithdrawalNonce, Nat.lt_succ_self _, ?_⟩
    rw [← hashes]
    exact ⟨mem_cons_self .., rfl⟩
  | @cancelEmergency sender id queued pending =>
    refine accounted.request pending pending ?_
    refine (accounted.queued id).resolve_left fun blank => queued ?_
    exact congrArg queuedAt blank
  | _ => exact accounted

theorem Accounted.booked {function : Function} {event : Event}
    (booked : Booked env chain function next event) (accounted : Accounted env chain.books) :
    Accounted env next.books := by
  cases booked with
  | refund known owner unfinalized kept inTime unconfirmed covered =>
    rw [books_paid]
    exact accounted.refund rfl rfl rfl known kept rfl unfinalized covered
  | withdrawal created pending unchallenged snapshot quorum ended unblocked ceiled covered =>
    rw [books_paid]
    exact accounted.withdraw rfl rfl rfl pending rfl created covered
  | emergency queued pending kept ready approved covered =>
    rw [books_paid]
    exact accounted.execute rfl rfl rfl queued pending rfl covered

theorem Accounted.recorded (depositor : Address) (recipient : Bytes32) (token : Address)
    (amount : Nat)
    (unique : CollisionFree env (chain.recorded env depositor recipient token amount).hashed)
    (accounted : Accounted env chain.books) :
    Accounted env (chain.recorded env depositor recipient token amount).books := by
  rw [books_recorded]
  have fresh := accounted.deposit_fresh rfl unique
  refine (accounted.hash (depositWords env depositor recipient token amount
    chain.bridge.depositNonce) 1 0).record ⟨depositor, recipient, token, amount, _, _, _, _⟩ fresh
      ?_ rfl
  exact ⟨depositor, recipient, token, amount, chain.bridge.depositNonce, Nat.lt_succ_self _,
    mem_cons_self .., rfl⟩

theorem Free.hashed (free : Free env chain next) (unique : CollisionFree env next.hashed) :
    CollisionFree env chain.hashed := by
  cases free with
  | queue => exact unique.tail
  | _ => exact unique

theorem Booked.hashed {function : Function} {event : Event}
    (booked : Booked env chain function next event) : next.hashed = chain.hashed := by
  cases booked <;> rfl

theorem accounted_invariant : Invariant env (fun _ _ => True)
    (fun chain => CollisionFree env chain.hashed → Accounted env chain.books) where
  advance _ _ _ accounted := accounted
  receive _ _ _ accounted := accounted
  free _ _ free accounted unique := (accounted (free.hashed unique)).free free unique
  guard _ _ accounted := accounted
  ended _ _ _ accounted := accounted
  booked _ _ _ _ booked _ accounted unique :=
    (accounted (booked.hashed ▸ unique)).booked booked
  recorded _ _ depositor recipient token amount _ accounted _ _ unique :=
    (accounted unique.tail).recorded depositor recipient token amount unique

end Steps

section Deployment

variable {env : Environment} {chain : Chain} {relayers : List Address}

theorem Initialized.solvent (start : Initialized env relayers chain) : Solvent chain := by
  obtain ⟨sender, block, balance, admin, upgrader, bps, minVotes, -, rfl⟩ := start.eq
  obtain ⟨access, log, eq⟩ := initialGrants_eq sender block balance admin upgrader relayers
  rw [eq]
  intro token
  unfold totalLocked
  split <;> exact Nat.zero_le _

theorem Initialized.accounted (start : Initialized env relayers chain) :
    Accounted env chain.books := by
  obtain ⟨sender, block, balance, admin, upgrader, bps, minVotes, -, rfl⟩ := start.eq
  obtain ⟨access, log, eq⟩ := initialGrants_eq sender block balance admin upgrader relayers
  rw [eq]
  refine ⟨fun token => ?_, fun _ => .inl rfl, fun _ => .inl rfl, fun id processed => ?_,
    fun _ => rfl, fun _ => rfl, fun _ => rfl, fun _ _ => rfl⟩
  · have proposals : total (WithdrawalProposal.taken token) Storage.blank.withdrawalProposals = 0 :=
      total_eq_zero fun _ => by simp [Storage.blank, WithdrawalProposal.taken]
    have requests : total (taken token)
        Storage.blank.emergencyWithdrawalRequests = 0 :=
      total_eq_zero fun _ => by simp [Storage.blank, taken]
    have deposits : total (Deposit.live token) Storage.blank.deposits = 0 :=
      total_eq_zero fun _ => by simp [Storage.blank, Deposit.live]
    simp only [books, proposals, requests, deposits, totalLocked]
    split <;> rfl
  · cases processed

/-- A deployment's log tells neither of operations nor of ceilings. -/
structure NothingYet (log : List Entry) : Prop where
  delay : delayOf log = DEFAULT_EMERGENCY_TIMELOCK
  operations : ∀ id, OperationLogged id {} (fun _ => false) 0 log
  ceilings : ∀ number, ceilingsIn number log = [DEFAULT_MINT_CEILING_PER_BLOCK]

theorem initialGrants_nothingYet (sender : Address) (block : Block) (balance : Address → Nat)
    (admin upgrader : Address) :
    NothingYet (initialGrants sender block balance admin upgrader relayers).log := by
  refine initialGrants_induction (P := fun chain => NothingYet chain.log) ?_ ?_
    (fun _ nothing => nothing) sender admin upgrader relayers
  · refine ⟨rfl, fun id => ⟨?_, ?_, fun queued => absurd rfl queued⟩, fun _ => rfl⟩
    · simp [approvers, flagged]
    · simp [flagged]
  · intro chain role account sender nothing
    unfold accessGrant
    split
    · exact nothing
    · exact ⟨nothing.delay, fun id => (nothing.operations id).quiet rfl, nothing.ceilings⟩

theorem Initialized.emergencyKept (start : Initialized env relayers chain) :
    EmergencyKept chain := by
  obtain ⟨sender, block, balance, admin, upgrader, bps, minVotes, -, rfl⟩ := start.eq
  have nothing := @initialGrants_nothingYet relayers sender block balance admin upgrader
  obtain ⟨access, log, eq⟩ := initialGrants_eq sender block balance admin upgrader relayers
  rw [eq] at nothing ⊢
  exact ⟨nothing.delay, nothing.operations⟩

theorem Initialized.ceilingKept (start : Initialized env relayers chain) : CeilingKept chain := by
  obtain ⟨sender, block, balance, admin, upgrader, bps, minVotes, -, rfl⟩ := start.eq
  have nothing := @initialGrants_nothingYet relayers sender block balance admin upgrader
  obtain ⟨access, log, eq⟩ := initialGrants_eq sender block balance admin upgrader relayers
  rw [eq] at nothing ⊢
  refine ⟨by simp [DEFAULT_MINT_CEILING_PER_BLOCK], fun number _ => ?_, Nat.zero_le _, rfl,
    fun _ _ => rfl, fun number => ⟨DEFAULT_MINT_CEILING_PER_BLOCK, ?_, Nat.zero_le _⟩⟩
  · rw [nothing.ceilings]
    exact mem_singleton.mpr rfl
  · rw [nothing.ceilings]
    exact mem_singleton.mpr rfl

end Deployment

section Claim

variable {env : Environment}

/-- The books of the bridge, as sums over its records. -/
structure AccountsHold (chain : Chain) : Prop where
  locked : ∀ token, (chain.totalLocked token : ℤ) =
    total (Deposit.live token) chain.bridge.deposits -
    total (WithdrawalProposal.taken token) chain.bridge.withdrawalProposals -
    total (taken token) chain.bridge.emergencyWithdrawalRequests
  solvent : ∀ token, chain.totalLocked token ≤ chain.balance token
  exclusive : ∀ id, ¬((chain.bridge.deposits id).cancelled = true ∧
    (chain.bridge.deposits id).finalized = true)
  refundedOnce : ∀ id, chain.books.paidFor (.refund id) ≤ 1
  executedOnce : ∀ id, chain.books.paidFor (.emergency id) ≤ 1
  ceiling : ∀ number, ∃ ceiling ∈ ceilingsIn number chain.log,
    processedIn number chain.payments ≤ ceiling

/-- An emergency withdrawal the step pays was queued at least its delay ago and approved by two
guardians. -/
def EmergencyPaidInOrder (chain next : Chain) : Prop :=
  ∀ id, chain.books.paidFor (.emergency id) < next.books.paidFor (.emergency id) →
    ∃ queuedAt delay, queuedIn id chain.log = some (queuedAt, delay) ∧
      queuedAt + delay ≤ chain.block.timestamp ∧ 2 ≤ (approvers id chain.log).card

theorem Accounted.holds {chain : Chain} (accounted : Accounted env chain.books)
    (solvent : Solvent chain) (ceiling : CeilingKept chain) : AccountsHold chain := by
  refine ⟨fun token => ?_, solvent, fun id both => ?_, fun id => ?_, fun id => ?_, ceiling.within⟩
  · have balanced := accounted.locked token
    simp only [books] at balanced
    omega
  · have unfinalized := accounted.settled id both.1
    simp only [books] at unfinalized
    rw [both.2] at unfinalized
    cases unfinalized
  · rw [accounted.refunded id]
    split <;> omega
  · rw [accounted.executed id]
    split <;> omega

theorem flag_raised {before after : Bool}
    (raised : (if before then 1 else 0) < if after then 1 else 0) :
    before = false ∧ after = true := by
  cases before <;> cases after <;> simp at raised ⊢

theorem EmergencyKept.inOrder {chain : Chain} {action : Action} (kept : EmergencyKept chain)
    (accounted : Accounted env chain.books) (after : Accounted env (step env chain action).books) :
    EmergencyPaidInOrder chain (step env chain action) := by
  intro id paid
  rw [accounted.executed id, after.executed id] at paid
  obtain ⟨pending, executed⟩ := flag_raised paid
  obtain ⟨tallies, mid, event, booked⟩ := step_executed pending executed
  cases booked with
  | emergency queued _ _ ready approved =>
    obtain ⟨delay, found, after⟩ := (kept.operations id).queued queued
    refine ⟨_, delay, found, ?_, ?_⟩
    · rw [← after]
      exact ready
    · rw [(kept.operations id).approved, ← (kept.operations id).count]
      exact approved

/-- The bridge's accounts hold in every state a deployment reaches, and an emergency withdrawal is
paid only in order, as long as the words hashed so far have no collision. -/
theorem accounts_hold {relayers : List Address} {start : Chain}
    (deployed : Initialized env relayers start) (actions : List Action)
    (unique : CollisionFree env (run env start actions).hashed) :
    AccountsHold (run env start actions) ∧
      ∀ action, CollisionFree env (step env (run env start actions) action).hashed →
        EmergencyPaidInOrder (run env start actions) (step env (run env start actions) action) := by
  have accounted := accounted_invariant.run actions (fun _ => deployed.accounted)
  have solvent := (@solvent_invariant env).run actions deployed.solvent
  have ceiling := (@ceilingKept_invariant env).run actions deployed.ceilingKept
  have emergency := (@emergencyKept_invariant env).run actions
    ⟨deployed.rolesLogged, deployed.emergencyKept⟩
  refine ⟨(accounted unique).holds solvent ceiling, fun action later => ?_⟩
  have after := accounted_invariant.step action (fun _ _ _ => trivial) accounted later
  exact emergency.2.inOrder (accounted unique) after

/-- A deposit of one ETH and, a week later, a withdrawal of 0.4 ETH. -/
def depositAndWithdraw : List Action :=
  [depositOne, .plain 1 (.proposeWithdrawal 1 5 0 (4 * 10 ^ 17) 77 500),
    .advance 50400 CHALLENGE_PERIOD, .plain 2 (.processWithdrawal 1)]

instance (env : Environment) (hashed : List (List Nat)) : Decidable (CollisionFree env hashed) :=
  inferInstanceAs (Decidable (∀ first ∈ hashed, ∀ second ∈ hashed,
    env.keccak256 first = env.keccak256 second → first = second))

theorem accounts_hold_withdrawal :
    ∃ start, deployed [1] = .ok start ∧ AccountsHold (run mainnet start depositAndWithdraw) ∧
      (run mainnet start depositAndWithdraw).totalLocked 0 = 6 * 10 ^ 17 := by
  refine ⟨_, rfl, (accounts_hold (deployed_initialized [1] rfl) depositAndWithdraw ?_).1, ?_⟩
  · decide +kernel
  · decide +kernel

end Claim

/- A deposit keeps the block it was made in, the one its log entry stands in. -/

def Event.initiates (id : Bytes32) : Event → Bool
  | .DepositInitiated other .. => other == id
  | _ => false

/-- Every announced deposit is on record with the block of its announcement. -/
def Dated (chain : Chain) : Prop :=
  ∀ entry ∈ chain.log, ∀ id, entry.event.initiates id = true →
    0 < (chain.bridge.deposits id).timestamp ∧
      (chain.bridge.deposits id).blockNumber = entry.block.number

section Steps

variable {env : Environment} {chain next : Chain}

theorem Dated.grow (dated : Dated chain) (entries : List Entry)
    (log : next.log = entries ++ chain.log)
    (quiet : ∀ entry ∈ entries, ∀ id, entry.event.initiates id = false)
    (stamped : ∀ id, (next.bridge.deposits id).timestamp = (chain.bridge.deposits id).timestamp)
    (numbered : ∀ id,
      (next.bridge.deposits id).blockNumber = (chain.bridge.deposits id).blockNumber) :
    Dated next := by
  intro entry member id initiates
  rw [log] at member
  rcases mem_append.mp member with new | old
  · rw [quiet entry new id] at initiates
    contradiction
  · rw [stamped, numbered]
    exact dated entry old id initiates

variable {event : Event}

theorem Dated.emit (dated : Dated chain)
    (quiet : ∀ id, event.initiates id = false) : Dated (chain.emit event) := by
  refine dated.grow [⟨chain.block, event⟩] rfl ?_ (fun _ => rfl) fun _ => rfl
  intro entry member
  obtain rfl := mem_singleton.mp member
  exact quiet

theorem Dated.rewrite (dated : Dated chain) {id : Bytes32} {written : Deposit}
    (stamped : written.timestamp = (chain.bridge.deposits id).timestamp)
    (numbered : written.blockNumber = (chain.bridge.deposits id).blockNumber) :
    Dated { chain with bridge.deposits := Function.update chain.bridge.deposits id written } := by
  refine dated.grow [] rfl (by simp) ?_ ?_
  · intro other
    simp only [Function.update_apply]
    split
    next same => rw [same, stamped]
    next => rfl
  · intro other
    simp only [Function.update_apply]
    split
    next same => rw [same, numbered]
    next => rfl

theorem isSetting_initiates (setting : event.isSetting = true) (id : Bytes32) :
    event.initiates id = false := by
  cases event with
  | DepositInitiated => simp [Event.isSetting] at setting
  | _ => rfl

theorem Dated.free (free : Free env chain next) (dated : Dated chain) : Dated next := by
  cases free with
  | finalize =>
    refine Dated.emit ?_ fun _ => rfl
    exact dated.rewrite rfl rfl
  | propose => exact (dated.emit fun _ => rfl).emit fun _ => rfl
  | grantRelayer => exact (dated.emit fun _ => rfl).emit fun _ => rfl
  | revokeRelayer => exact (dated.emit fun _ => rfl).emit fun _ => rfl
  | same => exact dated
  | settings plain =>
    refine dated.grow _ rfl ?_ (fun _ => rfl) fun _ => rfl
    intro entry member
    obtain ⟨event, listed, rfl⟩ := mem_map.mp member
    exact isSetting_initiates (plain event listed)
  | vote | challenge | queue | approve | cancelEmergency | grantOther | revokeOther
  | relayerConfig | ceiling | delay => exact dated.emit fun _ => rfl

theorem Dated.booked {function : Function}
    (booked : Booked env chain function next event) (dated : Dated chain) : Dated next := by
  cases booked with
  | refund => exact dated.rewrite rfl rfl
  | withdrawal | emergency => exact dated

theorem Dated.recorded (depositor : Address) (recipient : Bytes32) (token : Address) (amount : Nat)
    (unique : CollisionFree env (chain.recorded env depositor recipient token amount).hashed)
    (accounted : Accounted env chain.books) (dated : Dated chain) :
    Dated (chain.recorded env depositor recipient token amount) := by
  have fresh : chain.bridge.deposits (env.keccak256 (depositWords env depositor recipient token
    amount chain.bridge.depositNonce)) = {} := accounted.deposit_fresh rfl unique
  intro entry member id initiates
  rcases mem_cons.mp member with rfl | old
  · have same := beq_iff_eq.mp initiates
    simp only [Chain.recorded, Chain.emit, ← same, Function.update_self]
    exact ⟨chain.block.started, rfl⟩
  · obtain ⟨stamped, numbered⟩ := dated entry old id initiates
    have differ : id ≠ env.keccak256 (depositWords env depositor recipient token amount
        chain.bridge.depositNonce) := by
      rintro rfl
      rw [fresh] at stamped
      exact absurd stamped (Nat.lt_irrefl 0)
    simp only [Chain.recorded, Chain.emit, Function.update_of_ne differ]
    exact ⟨stamped, numbered⟩

theorem Free.log (free : Free env chain next) : ∃ entries, next.log = entries ++ chain.log := by
  cases free with
  | same => exact ⟨[], rfl⟩
  | propose | grantRelayer | revokeRelayer => exact ⟨[_, _], rfl⟩
  | settings => exact ⟨_, rfl⟩
  | finalize | vote | challenge | queue | approve | cancelEmergency | grantOther | revokeOther
  | relayerConfig | ceiling | delay => exact ⟨[_], rfl⟩

end Steps

section Runs

variable {env : Environment} {relayers : List Address} {start : Chain}

theorem Initialized.dated (deployed : Initialized env relayers start) : Dated start := by
  obtain ⟨sender, block, balance, admin, upgrader, bps, minVotes, -, rfl⟩ := deployed.eq
  have announced : ∀ entry ∈ (initialGrants sender block balance admin upgrader relayers).log, ∀ id,
      entry.event.initiates id = false := by
    refine initialGrants_induction
      (P := fun chain => ∀ entry ∈ chain.log, ∀ id, entry.event.initiates id = false) ?_ ?_
      (fun _ quiet => quiet) sender admin upgrader relayers
    · simp
    · intro chain role account sender quiet
      unfold accessGrant
      split
      · exact quiet
      · intro entry member id
        rcases mem_cons.mp member with rfl | old
        · rfl
        · exact quiet entry old id
  intro entry member id initiates
  rw [announced entry member id] at initiates
  contradiction

end Runs

end AethelredBridge
