import Aethelred.Vault.Staking

/- What each call on the staking vault can do to the accounts: stakers, validators, withdrawal
requests and the stored totals. -/
namespace Vault.Store

open Go Attempt

/-- The vault's messages about stakes. -/
inductive Call
  | stake (address : String) (amount : UInt64) (validatorAddr : String)
  | delegateStake (stakerAddr validatorAddr : String)
  | unstake (blockTime : Instant) (address : String) (shares : UInt64)
  | withdraw (blockTime : Instant) (address : String) (withdrawalID : UInt64)
  | applyValidatorSelection (blockTime : Instant) (eligibleAddrs : List String)
      (validators : List ValidatorRecord) (attestation : TEEAttestation) (epoch : UInt64)
  | slashValidator (validatorAddr : String)
  | snapshotDelegationState
  | pauseVault (caller reason : String)
  | unpauseVault (caller : String)
  | updateCircuitBreakerConfig (caller : String) (cfg : CircuitBreakerConfig)
  /-- The registration functions for enclaves and operators write these. -/
  | register (enclaves : Map String EnclaveRegistration)
      (operators : Map String OperatorRegistration)

variable (deployment : Deployment)

def step (store : Store) : Call → Store
  | .stake address amount validatorAddr =>
    (stake deployment address amount validatorAddr store).2
  | .delegateStake stakerAddr validatorAddr => (delegateStake stakerAddr validatorAddr store).2
  | .unstake blockTime address shares => (unstake blockTime address shares store).2
  | .withdraw blockTime address withdrawalID => (withdraw blockTime address withdrawalID store).2
  | .applyValidatorSelection blockTime eligibleAddrs validators attestation epoch =>
    (applyValidatorSelection deployment blockTime eligibleAddrs validators attestation epoch
      store).2
  | .slashValidator validatorAddr => (slashValidator validatorAddr store).2
  | .snapshotDelegationState => (snapshotDelegationState deployment store).2
  | .pauseVault caller reason => (pauseVault deployment caller reason store).2
  | .unpauseVault caller => (unpauseVault deployment caller store).2
  | .updateCircuitBreakerConfig caller cfg =>
    (updateCircuitBreakerConfig deployment caller cfg store).2
  | .register enclaves operators =>
    { store with registry := { store.registry with
      registeredEnclaves := enclaves
      registeredOperators := operators } }

/-- The stores agree on all but the lists of ids. -/
structure SameAccounts (after before : Store) : Prop where
  pooled : after.totalPooledAethel = before.totalPooledAethel
  shares : after.totalShares = before.totalShares
  pending : after.totalPendingWithdrawals = before.totalPendingWithdrawals
  next : after.nextWithdrawalID = before.nextWithdrawalID
  stakers : after.stakers = before.stakers
  validators : after.validators = before.validators
  withdrawals : after.withdrawals = before.withdrawals
  epoch : after.currentEpoch = before.currentEpoch
  snapshots : after.delegationSnapshots = before.delegationSnapshots

section SameAccounts

variable {store after between : Store}

theorem SameAccounts.refl (store : Store) : SameAccounts store store :=
  ⟨rfl, rfl, rfl, rfl, rfl, rfl, rfl, rfl, rfl⟩

theorem SameAccounts.trans (second : SameAccounts after between)
    (first : SameAccounts between store) : SameAccounts after store :=
  ⟨second.pooled.trans first.pooled, second.shares.trans first.shares,
    second.pending.trans first.pending, second.next.trans first.next,
    second.stakers.trans first.stakers, second.validators.trans first.validators,
    second.withdrawals.trans first.withdrawals, second.epoch.trans first.epoch,
    second.snapshots.trans first.snapshots⟩

/-- The stores agree on the lists of ids. -/
structure SameLists (before after : Store) : Prop where
  active : after.activeValidators = before.activeValidators
  users : after.userWithdrawals = before.userWithdrawals

/-- Neither the accounts nor the lists have changed. -/
structure Untouched (before after : Store) : Prop where
  accounts : SameAccounts after before
  lists : SameLists before after

theorem Untouched.refl (store : Store) : Untouched store store := ⟨.refl store, rfl, rfl⟩

theorem Untouched.trans {a b c : Store} (first : Untouched a b) (second : Untouched b c) :
    Untouched a c :=
  ⟨second.accounts.trans first.accounts, second.lists.active.trans first.lists.active,
    second.lists.users.trans first.lists.users⟩

theorem untouched_trip (store : Store) (reason : String) : Untouched store (store.trip reason) := by
  unfold trip
  split
  · exact .refl store
  · exact ⟨⟨rfl, rfl, rfl, rfl, rfl, rfl, rfl, rfl, rfl⟩, rfl, rfl⟩

theorem untouched_checkCircuitBreaker (store : Store) :
    Untouched store store.checkCircuitBreaker := by
  unfold checkCircuitBreaker
  dsimp only
  split
  · exact .refl store
  · split
    · exact untouched_trip store _
    · split
      · exact untouched_trip store _
      · exact .refl store

theorem requireNotPaused_bind {β : Type} {rest : Unit → Attempt Store String β} :
    (requireNotPaused >>= rest) store =
      if store.paused = false then rest () store
      else (.error s!"vault is paused: all mutating operations are blocked: {store.pauseReason}",
        store) := by
  unfold requireNotPaused
  change (ensure _ _ >>= rest) store = _
  rw [ensure_bind]

end SameAccounts

section Stake

/-- The checks of `stake` before it writes the totals. -/
structure StakeAdmitted (store : Store) (amount : UInt64) (validatorAddr : String)
    (val : ValidatorRecord) : Prop where
  unpaused : store.paused = false
  minimum : ¬amount < MinStakeUAETH
  named : validatorAddr ≠ ""
  found : store.validators.lookup validatorAddr = some val
  active : val.isActive = true
  limited : ¬store.stakePerEpoch.get store.currentEpoch 0 + amount > MaxStakePerEpochUAETH
  minted : mintedShares store.totalPooledAethel store.totalShares amount ≠ 0

/-- The store once `stake` has written the totals. -/
def minting (store : Store) (amount : UInt64) : Store :=
  { store with
    stakePerEpoch := store.stakePerEpoch.insert store.currentEpoch
      (store.stakePerEpoch.get store.currentEpoch 0 + amount)
    totalPooledAethel := store.totalPooledAethel + amount
    totalShares := store.totalShares +
      mintedShares store.totalPooledAethel store.totalShares amount }

variable {store : Store} (address : String) {validatorAddr : String} {amount : UInt64}

theorem stake_of_admitted {val : ValidatorRecord}
    (admitted : StakeAdmitted store amount validatorAddr val) :
    stake deployment address amount validatorAddr store =
      match resolveEvmAddress deployment address with
      | some evmAddr =>
        (.ok (mintedShares store.totalPooledAethel store.totalShares amount),
          recordStake address evmAddr amount
            (mintedShares store.totalPooledAethel store.totalShares amount) validatorAddr val
            (store.minting amount))
      | none => (.error "resolve EVM address for staker: cannot resolve address ",
          store.minting amount) := by
  rw [stake, requireNotPaused_bind, if_pos admitted.unpaused]
  simp only [ensure_bind, read_bind, okOr_bind, modify_bind, admitted.minimum, admitted.found,
    admitted.active, admitted.limited, ne_eq, admitted.named, admitted.minted, not_false_eq_true,
    ↓reduceIte]
  cases resolveEvmAddress deployment address with
  | none => rfl
  | some evmAddr => rfl

/-- A refused stake changes nothing. -/
theorem stake_of_not_admitted (refused : ∀ val, ¬StakeAdmitted store amount validatorAddr val) :
    ∃ reason after, stake deployment address amount validatorAddr store = (.error reason, after) ∧
      Untouched store after := by
  simp only [stake, requireNotPaused_bind, ensure_bind, read_bind, okOr_bind, modify_bind]
  split
  next unpaused =>
    split
    next minimum =>
      split
      next named =>
        cases found : store.validators.lookup validatorAddr with
        | none => exact ⟨_, store, rfl, .refl store⟩
        | some val =>
          dsimp only
          split
          next active =>
            split
            next limited =>
              split
              next minted =>
                exact absurd ⟨unpaused, minimum, named, found, active, limited, minted⟩
                  (refused val)
              · exact ⟨_, _, rfl, ⟨rfl, rfl, rfl, rfl, rfl, rfl, rfl, rfl, rfl⟩, rfl, rfl⟩
            · exact ⟨_, store, rfl, .refl store⟩
          · exact ⟨_, store, rfl, .refl store⟩
      · exact ⟨_, store, rfl, .refl store⟩
    · exact ⟨_, store, rfl, .refl store⟩
  · exact ⟨_, store, rfl, .refl store⟩

end Stake

section DelegateStake

/-- What `DelegateStake` checks. -/
structure DelegateAdmitted (store : Store) (stakerAddr validatorAddr : String)
    (staker : StakerRecord) (val : ValidatorRecord) : Prop where
  unpaused : store.paused = false
  named : validatorAddr ≠ ""
  staked : store.stakers.lookup stakerAddr = some staker
  found : store.validators.lookup validatorAddr = some val
  active : val.isActive = true

def moving (store : Store) (staker : StakerRecord) (validatorAddr : String)
    (val : ValidatorRecord) : Store :=
  if staker.delegatedTo ≠ validatorAddr then
    (if staker.delegatedTo ≠ "" then store.releaseStake staker.delegatedTo staker.stakedAmount
      else store).setValidator { val with
        delegatedStake := val.delegatedStake + staker.stakedAmount }
  else store

variable {store : Store} {stakerAddr validatorAddr : String}

theorem delegateStake_of_admitted {staker : StakerRecord} {val : ValidatorRecord}
    (admitted : DelegateAdmitted store stakerAddr validatorAddr staker val) :
    delegateStake stakerAddr validatorAddr store =
      (.ok (), (store.moving staker validatorAddr val).setStaker
        { staker with delegatedTo := validatorAddr }) := by
  rw [delegateStake, requireNotPaused_bind, if_pos admitted.unpaused]
  simp only [ensure_bind, read_bind, okOr_bind, modify_bind, admitted.staked, admitted.found,
    if_pos admitted.active, ne_eq, admitted.named, not_false_eq_true, ↓reduceIte]
  rfl

theorem delegateStake_of_not_admitted
    (refused : ∀ staker val, ¬DelegateAdmitted store stakerAddr validatorAddr staker val) :
    ∃ reason, delegateStake stakerAddr validatorAddr store = (.error reason, store) := by
  simp only [delegateStake, requireNotPaused_bind, ensure_bind, read_bind, okOr_bind, modify_bind]
  split
  next unpaused =>
    split
    next named =>
      cases staked : store.stakers.lookup stakerAddr with
      | none => exact ⟨_, rfl⟩
      | some staker =>
        cases found : store.validators.lookup validatorAddr with
        | none => exact ⟨_, rfl⟩
        | some val =>
          dsimp only
          split
          next active =>
            exact absurd ⟨unpaused, named, staked, found, active⟩ (refused staker val)
          · exact ⟨_, rfl⟩
    · exact ⟨_, rfl⟩
  · exact ⟨_, rfl⟩

end DelegateStake

section Unstake

/-- What `Unstake` checks. -/
structure UnstakeAdmitted (store : Store) (address : String) (shares : UInt64)
    (staker : StakerRecord) : Prop where
  unpaused : store.paused = false
  staked : store.stakers.lookup address = some staker
  owned : ¬staker.shares < shares
  requests : ¬(store.userWithdrawals.get address []).length ≥ MaxWithdrawalRequestsPerUser
  booked : bookedAmount store.totalPooledAethel store.totalShares shares ≠ 0

/-- The store once `unstake` has written the totals. -/
def booking (store : Store) (staker : StakerRecord) (shares : UInt64) : Store :=
  { store.recordUnstake staker shares with
    totalPooledAethel := store.totalPooledAethel -
      bookedAmount store.totalPooledAethel store.totalShares shares
    totalShares := store.totalShares - shares
    totalPendingWithdrawals := store.totalPendingWithdrawals +
      bookedAmount store.totalPooledAethel store.totalShares shares
    nextWithdrawalID := store.nextWithdrawalID + 1 }

/-- The request that `unstake` stores. -/
def request (store : Store) (blockTime : Instant) (address : String) (shares : UInt64) :
    WithdrawalRequest :=
  ⟨store.nextWithdrawalID, address, shares,
    bookedAmount store.totalPooledAethel store.totalShares shares,
    blockTime.nanos + UnbondingPeriod, false⟩

variable {store : Store} {blockTime : Instant} {address : String} {shares : UInt64}

theorem recordUnstake_eq (store : Store) (staker : StakerRecord) (shares : UInt64) :
    store.recordUnstake staker shares =
      { store with
        stakers := (store.recordUnstake staker shares).stakers
        validators := (store.recordUnstake staker shares).validators } := by
  unfold recordUnstake releaseStake
  split
  · split <;> rfl
  · rfl

/-- An accepted `Unstake` books a request. -/
structure Booked (store after : Store) (blockTime : Instant) (address : String) (shares : UInt64)
    (staker : StakerRecord) : Prop where
  accounts : SameAccounts after
    ((store.booking staker shares).setWithdrawal (store.request blockTime address shares))
  active : after.activeValidators = store.activeValidators
  users : after.userWithdrawals = store.userWithdrawals.insert address
    (store.userWithdrawals.get address [] ++ [store.nextWithdrawalID])

section

variable {staker : StakerRecord} (admitted : UnstakeAdmitted store address shares staker)
include admitted

theorem unstake_of_admitted (inTime : blockTime.nanos + UnbondingPeriod < yearTenThousand) :
    ∃ after, unstake blockTime address shares store =
        (.ok (store.nextWithdrawalID,
          bookedAmount store.totalPooledAethel store.totalShares shares), after) ∧
      Booked store after blockTime address shares staker := by
  rw [unstake, requireNotPaused_bind, if_pos admitted.unpaused]
  simp only [ensure_bind, read_bind, okOr_bind, modify_bind, admitted.staked, admitted.owned,
    admitted.requests, ne_eq, admitted.booked, not_false_eq_true, inTime, ↓reduceIte]
  have checked := untouched_checkCircuitBreaker
  refine ⟨_, rfl, (checked _).accounts.trans ?_, (checked _).lists.active.trans ?_,
    (checked _).lists.users.trans ?_⟩
  · rw [booking, recordUnstake_eq]
    exact ⟨rfl, rfl, rfl, rfl, rfl, rfl, rfl, rfl, rfl⟩
  · rw [recordUnstake_eq]
    rfl
  · rw [recordUnstake_eq]
    rfl

theorem unstake_of_late (late : ¬blockTime.nanos + UnbondingPeriod < yearTenThousand) :
    unstake blockTime address shares store =
      (.error "Time.MarshalJSON: year outside of range [0,9999]", store.booking staker shares) := by
  rw [unstake, requireNotPaused_bind, if_pos admitted.unpaused]
  simp only [ensure_bind, read_bind, okOr_bind, modify_bind, admitted.staked, admitted.owned,
    admitted.requests, ne_eq, admitted.booked, not_false_eq_true, late, ↓reduceIte]
  rw [booking, recordUnstake_eq]

end

theorem unstake_of_not_admitted (refused : ∀ staker, ¬UnstakeAdmitted store address shares staker) :
    ∃ reason, unstake blockTime address shares store = (.error reason, store) := by
  simp only [unstake, requireNotPaused_bind, ensure_bind, read_bind, okOr_bind, modify_bind]
  split
  next unpaused =>
    cases staked : store.stakers.lookup address with
    | none => exact ⟨_, rfl⟩
    | some staker =>
      dsimp only
      split
      next owned =>
        split
        next requests =>
          split
          next booked => exact absurd ⟨unpaused, staked, owned, requests, booked⟩ (refused staker)
          · exact ⟨_, rfl⟩
        · exact ⟨_, rfl⟩
      · exact ⟨_, rfl⟩
  · exact ⟨_, rfl⟩

theorem withdraw_cases (store : Store) (blockTime : Instant) (address : String)
    (withdrawalID : UInt64) :
    (∃ reason, withdraw blockTime address withdrawalID store = (.error reason, store)) ∨
      ∃ req, store.withdrawals.lookup withdrawalID = some req ∧ req.claimed = false ∧
        withdraw blockTime address withdrawalID store =
          (.ok req.aethelAmount, { store.setWithdrawal { req with claimed := true } with
            totalPendingWithdrawals := store.totalPendingWithdrawals - req.aethelAmount }) := by
  simp only [withdraw, requireNotPaused_bind, ensure_bind, read_bind, okOr_bind, modify_bind]
  split
  · cases found : store.withdrawals.lookup withdrawalID with
    | none => exact .inl ⟨_, rfl⟩
    | some req =>
      dsimp only
      split
      · split
        next unclaimed =>
          split
          · exact .inr ⟨req, rfl, unclaimed, rfl⟩
          · exact .inl ⟨_, rfl⟩
        · exact .inl ⟨_, rfl⟩
      · exact .inl ⟨_, rfl⟩
  · exact .inl ⟨_, rfl⟩

end Unstake

section Validators

variable {store : Store}

/-- A slash deactivates the validator and counts up. -/
structure Slashed (store after : Store) (validatorAddr : String) (v : ValidatorRecord) : Prop where
  accounts : SameAccounts after
    (store.setValidator { v with isActive := false, slashCount := v.slashCount + 1 })
  active : after.activeValidators = store.activeValidators.erase validatorAddr
  users : after.userWithdrawals = store.userWithdrawals

theorem slashValidator_cases (store : Store) (validatorAddr : String) :
    (∃ reason, slashValidator validatorAddr store = (.error reason, store)) ∨
      ∃ v after, store.validators.lookup validatorAddr = some v ∧
        slashValidator validatorAddr store = (.ok (), after) ∧
        Slashed store after validatorAddr v := by
  simp only [slashValidator, requireNotPaused_bind, read_bind, okOr_bind, modify_bind]
  split
  · cases found : (store.validators.lookup validatorAddr).filter (·.isActive) with
    | none => exact .inl ⟨_, rfl⟩
    | some v =>
      have checked := untouched_checkCircuitBreaker
      refine .inr ⟨v, _, (Option.filter_eq_some_iff.mp found).1, rfl,
        (checked _).accounts.trans ?_, (checked _).lists.active, (checked _).lists.users⟩
      exact ⟨rfl, rfl, rfl, rfl, rfl, rfl, rfl, rfl, rfl⟩
  · exact .inl ⟨_, rfl⟩

theorem nodup_of_firstDuplicate {seen addresses : List String}
    (none : firstDuplicate seen addresses = none) :
    addresses.Nodup ∧ ∀ address ∈ addresses, address ∉ seen := by
  induction addresses generalizing seen with
  | nil => exact ⟨List.nodup_nil, List.forall_mem_nil _⟩
  | cons address rest ih =>
    rw [firstDuplicate] at none
    split at none
    · cases none
    next fresh =>
      obtain ⟨distinct, unseen⟩ := ih none
      refine ⟨List.nodup_cons.mpr ⟨fun again => ?_, distinct⟩, ?_⟩
      · exact unseen address again (List.mem_cons_self ..)
      · refine List.forall_mem_cons.mpr ⟨fresh, fun other member => ?_⟩
        exact fun before => unseen other member (List.mem_cons_of_mem _ before)

/-- The checks of `applyValidatorSelection`. -/
structure SelectionAdmitted (store : Store) (blockTime : Instant) (eligibleAddrs : List String)
    (validators : List ValidatorRecord) (attestation : TEEAttestation) (epoch : UInt64) :
    Prop where
  unpaused : store.paused = false
  some : validators ≠ []
  attested : (verifyAttestation deployment.crypto (I64.ofInt blockTime.unix) attestation
    store.registry).1 = .ok ()
  covers : attestation.payloadHash =
    selectionPayloadHash deployment epoch validators eligibleAddrs
  distinct : firstDuplicate [] (validators.map (·.address)) = none

variable {blockTime : Instant} {eligibleAddrs : List String} {validators : List ValidatorRecord}
  {attestation : TEEAttestation} {epoch : UInt64}

theorem applyValidatorSelection_of_admitted
    (admitted : SelectionAdmitted deployment store blockTime eligibleAddrs validators attestation
      epoch) :
    applyValidatorSelection deployment blockTime eligibleAddrs validators attestation epoch store =
      (.ok (), persistValidators validators { store with
        registry := (verifyAttestation deployment.crypto (I64.ofInt blockTime.unix) attestation
          store.registry).2 }) := by
  rw [applyValidatorSelection, requireNotPaused_bind, if_pos admitted.unpaused, ensure_bind,
    if_pos admitted.some, bind_apply]
  have attested := admitted.attested
  cases outcome : verifyAttestation deployment.crypto (I64.ofInt blockTime.unix) attestation
      store.registry with
  | mk result registry =>
    rw [outcome] at attested
    dsimp only at attested
    subst attested
    simp only [within, outcome, Except.mapError, ensure_bind, admitted.covers, ↓reduceIte,
      admitted.distinct]
    rfl

/-- A refused selection changes nothing. -/
theorem applyValidatorSelection_of_not_admitted
    (refused : ¬SelectionAdmitted deployment store blockTime eligibleAddrs validators attestation
      epoch) :
    ∃ reason after,
      applyValidatorSelection deployment blockTime eligibleAddrs validators attestation epoch
        store = (.error reason, after) ∧ Untouched store after := by
  have registered (registry : Registry) : Untouched store { store with registry } :=
    ⟨⟨rfl, rfl, rfl, rfl, rfl, rfl, rfl, rfl, rfl⟩, rfl, rfl⟩
  rw [applyValidatorSelection, requireNotPaused_bind]
  split
  next unpaused =>
    rw [ensure_bind]
    split
    next some =>
      rw [bind_apply]
      cases outcome : verifyAttestation deployment.crypto (I64.ofInt blockTime.unix) attestation
          store.registry with
      | mk result registry =>
        cases result with
        | error reason =>
          simp only [within, outcome, Except.mapError]
          exact ⟨_, _, rfl, registered _⟩
        | ok value =>
          simp only [within, outcome, Except.mapError, ensure_bind]
          split
          next covers =>
            cases distinct : firstDuplicate [] (validators.map (·.address)) with
            | some address => exact ⟨_, _, rfl, registered _⟩
            | none =>
              exact absurd ⟨unpaused, some, by rw [outcome], covers, distinct⟩ refused
          · exact ⟨_, _, rfl, registered _⟩
    · exact ⟨_, store, rfl, .refl store⟩
  · exact ⟨_, store, rfl, .refl store⟩

end Validators

theorem untouched_pauseVault (caller reason : String) :
    Moves Untouched (pauseVault deployment caller reason) := by
  refine .bind .trans (moves_ensure .refl _ _) fun _ => .bind .trans (moves_read .refl) fun _ => ?_
  exact .bind .trans (moves_ensure .refl _ _) fun _ _ =>
    ⟨⟨rfl, rfl, rfl, rfl, rfl, rfl, rfl, rfl, rfl⟩, rfl, rfl⟩

theorem untouched_unpauseVault (caller : String) :
    Moves Untouched (unpauseVault deployment caller) := by
  refine .bind .trans (moves_ensure .refl _ _) fun _ => .bind .trans (moves_read .refl) fun _ => ?_
  exact .bind .trans (moves_ensure .refl _ _) fun _ _ =>
    ⟨⟨rfl, rfl, rfl, rfl, rfl, rfl, rfl, rfl, rfl⟩, rfl, rfl⟩

theorem untouched_updateCircuitBreakerConfig (caller : String) (cfg : CircuitBreakerConfig) :
    Moves Untouched (updateCircuitBreakerConfig deployment caller cfg) := by
  refine .bind .trans (moves_ensure .refl _ _) fun _ => ?_
  exact .bind .trans (moves_ensure .refl _ _) fun _ _ =>
    ⟨⟨rfl, rfl, rfl, rfl, rfl, rfl, rfl, rfl, rfl⟩, rfl, rfl⟩

/-- Only the current epoch's snapshot may have changed. -/
def Snapshotted (before after : Store) : Prop :=
  ∃ snapshots, after = { before with delegationSnapshots := snapshots } ∧
    ∀ epoch, epoch ≠ before.currentEpoch →
      snapshots.lookup epoch = before.delegationSnapshots.lookup epoch

variable (store : Store)

theorem Snapshotted.refl : Snapshotted store store := ⟨_, rfl, fun _ _ => rfl⟩

theorem Snapshotted.trans {store between after : Store} (first : Snapshotted store between)
    (second : Snapshotted between after) : Snapshotted store after := by
  obtain ⟨_, rfl, one⟩ := first
  obtain ⟨snapshots, rfl, two⟩ := second
  exact ⟨snapshots, rfl, fun epoch other => (two epoch other).trans (one epoch other)⟩

theorem snapshotted_snapshotDelegationState :
    Moves Snapshotted (snapshotDelegationState deployment) := by
  refine .bind .trans (moves_read .refl) fun _ => .bind .trans (moves_ensure .refl _ _) fun _ => ?_
  refine .bind .trans (moves_ofExcept .refl _) fun entries => ?_
  refine .bind .trans (moves_ofExcept .refl _) fun _ store => ⟨_, rfl, fun epoch other => ?_⟩
  exact AList.lookup_insert_ne other

def Refused : Call → Prop
  | .stake _ amount validatorAddr => ∀ val, ¬StakeAdmitted store amount validatorAddr val
  | .delegateStake stakerAddr validatorAddr =>
    ∀ staker val, ¬DelegateAdmitted store stakerAddr validatorAddr staker val
  | .unstake _ address shares => ∀ staker, ¬UnstakeAdmitted store address shares staker
  | .applyValidatorSelection blockTime eligibleAddrs validators attestation epoch =>
    ¬SelectionAdmitted deployment store blockTime eligibleAddrs validators attestation epoch
  | _ => True

/-- All that a call can do to the accounts and the lists. -/
inductive Changes (store : Store) : Call → Store → Prop
  | staked {address evmAddr : String} {amount : UInt64} {validatorAddr : String}
      {val : ValidatorRecord} (admitted : StakeAdmitted store amount validatorAddr val)
      (resolved : resolveEvmAddress deployment address = some evmAddr) :
      Changes store (.stake address amount validatorAddr)
        (recordStake address evmAddr amount
          (mintedShares store.totalPooledAethel store.totalShares amount) validatorAddr val
          (store.minting amount))
  | minted {address : String} {amount : UInt64} {validatorAddr : String} {val : ValidatorRecord}
      (admitted : StakeAdmitted store amount validatorAddr val)
      (unresolved : resolveEvmAddress deployment address = none) :
      Changes store (.stake address amount validatorAddr) (store.minting amount)
  | delegated {stakerAddr validatorAddr : String} {staker : StakerRecord} {val : ValidatorRecord}
      (admitted : DelegateAdmitted store stakerAddr validatorAddr staker val) :
      Changes store (.delegateStake stakerAddr validatorAddr)
        ((store.moving staker validatorAddr val).setStaker
          { staker with delegatedTo := validatorAddr })
  | unstaked {blockTime : Instant} {address : String} {shares : UInt64} {staker : StakerRecord}
      {after : Store} (admitted : UnstakeAdmitted store address shares staker)
      (inTime : blockTime.nanos + UnbondingPeriod < yearTenThousand)
      (booked : Booked store after blockTime address shares staker) :
      Changes store (.unstake blockTime address shares) after
  | late {blockTime : Instant} {address : String} {shares : UInt64} {staker : StakerRecord}
      (admitted : UnstakeAdmitted store address shares staker)
      (late : ¬blockTime.nanos + UnbondingPeriod < yearTenThousand) :
      Changes store (.unstake blockTime address shares) (store.booking staker shares)
  | withdrawn {blockTime : Instant} {address : String} {withdrawalID : UInt64}
      {req : WithdrawalRequest} (found : store.withdrawals.lookup withdrawalID = some req)
      (outstanding : req.claimed = false) :
      Changes store (.withdraw blockTime address withdrawalID)
        { store.setWithdrawal { req with claimed := true } with
          totalPendingWithdrawals := store.totalPendingWithdrawals - req.aethelAmount }
  | selected {blockTime : Instant} {eligibleAddrs : List String}
      {validators : List ValidatorRecord} {attestation : TEEAttestation} {epoch : UInt64}
      (admitted : SelectionAdmitted deployment store blockTime eligibleAddrs validators attestation
        epoch) (registry : Registry) :
      Changes store
        (.applyValidatorSelection blockTime eligibleAddrs validators attestation epoch)
        (persistValidators validators { store with registry })
  | slashed {validatorAddr : String} {v : ValidatorRecord} {after : Store}
      (found : store.validators.lookup validatorAddr = some v)
      (slashed : Slashed store after validatorAddr v) :
      Changes store (.slashValidator validatorAddr) after
  | snapshotted {after : Store} (taken : Snapshotted store after) :
      Changes store .snapshotDelegationState after
  | kept {call : Call} {after : Store} (refused : Refused deployment store call)
      (same : Untouched store after) : Changes store call after

/-- All that a call can change, by call. -/
theorem changes_step (call : Call) :
    Changes deployment store call (store.step deployment call) := by
  cases call with
  | stake address amount validatorAddr =>
    by_cases admission : ∃ val, StakeAdmitted store amount validatorAddr val
    · obtain ⟨val, admitted⟩ := admission
      rw [step, stake_of_admitted deployment address admitted]
      cases resolved : resolveEvmAddress deployment address with
      | some evmAddr => exact .staked admitted resolved
      | none => exact .minted admitted resolved
    · obtain ⟨reason, after, failed, same⟩ :=
        stake_of_not_admitted deployment address (not_exists.mp admission)
      rw [step, failed]
      exact .kept (not_exists.mp admission) same
  | delegateStake stakerAddr validatorAddr =>
    by_cases admission : ∃ staker val, DelegateAdmitted store stakerAddr validatorAddr staker val
    · obtain ⟨staker, val, admitted⟩ := admission
      rw [step, delegateStake_of_admitted admitted]
      exact .delegated admitted
    · have refused : Refused deployment store (.delegateStake stakerAddr validatorAddr) :=
        fun staker val admitted => admission ⟨staker, val, admitted⟩
      obtain ⟨reason, failed⟩ := delegateStake_of_not_admitted refused
      rw [step, failed]
      exact .kept refused (.refl store)
  | unstake blockTime address shares =>
    by_cases admission : ∃ staker, UnstakeAdmitted store address shares staker
    · obtain ⟨staker, admitted⟩ := admission
      by_cases inTime : blockTime.nanos + UnbondingPeriod < yearTenThousand
      · obtain ⟨after, done, booked⟩ := unstake_of_admitted admitted inTime
        rw [step, done]
        exact .unstaked admitted inTime booked
      · rw [step, unstake_of_late admitted inTime]
        exact .late admitted inTime
    · obtain ⟨reason, failed⟩ := unstake_of_not_admitted (not_exists.mp admission)
      rw [step, failed]
      exact .kept (not_exists.mp admission) (.refl store)
  | withdraw blockTime address withdrawalID =>
    rcases withdraw_cases store blockTime address withdrawalID with
      ⟨reason, failed⟩ | ⟨req, found, outstanding, done⟩
    · rw [step, failed]
      exact .kept trivial (.refl store)
    · rw [step, done]
      exact .withdrawn found outstanding
  | applyValidatorSelection blockTime eligibleAddrs validators attestation epoch =>
    by_cases admitted : SelectionAdmitted deployment store blockTime eligibleAddrs validators
      attestation epoch
    · rw [step, applyValidatorSelection_of_admitted deployment admitted]
      exact .selected admitted _
    · obtain ⟨reason, after, failed, same⟩ :=
        applyValidatorSelection_of_not_admitted deployment admitted
      rw [step, failed]
      exact .kept admitted same
  | slashValidator validatorAddr =>
    rcases slashValidator_cases store validatorAddr with
      ⟨reason, failed⟩ | ⟨v, after, found, done, slashed⟩
    · rw [step, failed]
      exact .kept trivial (.refl store)
    · rw [step, done]
      exact .slashed found slashed
  | snapshotDelegationState =>
    exact .snapshotted (snapshotted_snapshotDelegationState deployment store)
  | pauseVault caller reason => exact .kept trivial (untouched_pauseVault deployment _ _ store)
  | unpauseVault caller => exact .kept trivial (untouched_unpauseVault deployment _ store)
  | updateCircuitBreakerConfig caller cfg =>
    exact .kept trivial (untouched_updateCircuitBreakerConfig deployment _ _ store)
  | register enclaves operators =>
    exact .kept trivial ⟨⟨rfl, rfl, rfl, rfl, rfl, rfl, rfl, rfl, rfl⟩, rfl, rfl⟩

end Vault.Store
