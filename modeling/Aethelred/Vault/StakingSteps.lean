import Aethelred.Vault.StakingTotals

/- When a call on the vault leaves the totals right. -/
namespace Vault.Store

open Go Option

variable (deployment : Deployment)

section Stake

variable {store : Store} {address validatorAddr evmAddr : String} {amount : UInt64}
  {val : ValidatorRecord}

/-- The shares of all stakers fit into 64 bits when one gets more. -/
def SharesFit (store : Store) (address : String) (minted : UInt64) : Prop :=
  store.totalShares.toNat - (store.held address).shares.toNat +
    ((store.held address).shares + minted).toNat < 2 ^ 64

instance (store : Store) (address : String) (minted : UInt64) :
    Decidable (store.SharesFit address minted) :=
  inferInstanceAs (Decidable (_ < _))

theorem Keyed.sum_shares_restaked (keyed : store.Keyed) (address evmAddr : String)
    (amount minted : UInt64) (validatorAddr : String) :
    (store.setStaker (restaked (store.held address) evmAddr amount minted
        validatorAddr)).stakers.sum (·.shares.toNat) + (store.held address).shares.toNat =
      store.stakers.sum (·.shares.toNat) + ((store.held address).shares + minted).toNat := by
  obtain ⟨new, records⟩ : ∃ new, new =
    restaked (store.held address) evmAddr amount minted validatorAddr := ⟨_, rfl⟩
  have own : new.address = address := by
    rw [records]
    exact keyed.held_address address
  have more : new.shares = (store.held address).shares + minted := by rw [records, restaked]
  have written := sum_setStaker store new (·.shares.toNat) rfl
  rw [own, more] at written
  rw [← records]
  exact written

theorem Keyed.shares_iff (keyed : store.Keyed)
    (total : store.totalShares.toNat = store.stakers.sum (·.shares.toNat))
    (address evmAddr : String) (amount minted : UInt64) (validatorAddr : String) :
    (store.totalShares + minted).toNat = (store.setStaker
        (restaked (store.held address) evmAddr amount minted validatorAddr)).stakers.sum
        (·.shares.toNat) ↔
      store.SharesFit address minted := by
  have written := keyed.sum_shares_restaked address evmAddr amount minted validatorAddr
  have owned := held_le_sum store address (·.shares.toNat) rfl
  rw [UInt64.toNat_add] at written
  rw [SharesFit, UInt64.toNat_add, UInt64.toNat_add]
  omega

theorem Keyed.minting (keyed : store.Keyed) (amount : UInt64) : (store.minting amount).Keyed :=
  ⟨keyed.staker, keyed.validator, keyed.request⟩

/-- When a stake keeps the totals. -/
theorem Balanced.recordStake_iff (balanced : store.Balanced) (keyed : store.Keyed)
    (admitted : StakeAdmitted store amount validatorAddr val) :
    (recordStake address evmAddr amount
        (mintedShares store.totalPooledAethel store.totalShares amount) validatorAddr val
        (store.minting amount)).Balanced ↔
      store.SharesFit address (mintedShares store.totalPooledAethel store.totalShares amount) ∧
        stakeOfOthers val (store.held address) validatorAddr +
          ((store.held address).stakedAmount + amount).toNat < 2 ^ 64 := by
  have keyed' := keyed.minting amount
  have backed : (store.minting amount).Backed := balanced.delegated
  have stakes : (recordStake address evmAddr amount
      (mintedShares store.totalPooledAethel store.totalShares amount) validatorAddr val
      (store.minting amount)).Backed ↔ stakeOfOthers val (store.held address) validatorAddr +
        ((store.held address).stakedAmount + amount).toNat < 2 ^ 64 :=
    keyed'.backed_recordStake_iff backed admitted.found admitted.named
  have shares := keyed.shares_iff balanced.shares address evmAddr amount
    (mintedShares store.totalPooledAethel store.totalShares amount) validatorAddr
  constructor
  · intro after
    have total := after.shares
    rw [recordStake_frame admitted.named] at total
    exact ⟨shares.mp total, stakes.mp after.delegated⟩
  · rintro ⟨fit, stake⟩
    refine ⟨?_, ?_, stakes.mpr stake⟩
    · rw [recordStake_frame admitted.named]
      exact shares.mpr fit
    · rw [recordStake_frame admitted.named]
      exact balanced.pending

theorem minting_shares_ne
    (minted : mintedShares store.totalPooledAethel store.totalShares amount ≠ 0) :
    (store.minting amount).totalShares.toNat ≠ store.totalShares.toNat := by
  intro same
  change (store.totalShares + mintedShares store.totalPooledAethel store.totalShares
    amount).toNat = store.totalShares.toNat at same
  have positive : (mintedShares store.totalPooledAethel store.totalShares amount).toNat ≠ 0 :=
    fun zero => minted (UInt64.toNat_inj.mp zero)
  have small := UInt64.toNat_lt (mintedShares store.totalPooledAethel store.totalShares amount)
  rw [UInt64.toNat_add] at same
  omega

theorem Keyed.sum_shares_moving (keyed : store.Keyed) {staker : StakerRecord}
    (staked : store.stakers.lookup address = some staker) :
    ((store.moving staker validatorAddr val).setStaker
        { staker with delegatedTo := validatorAddr }).stakers.sum (·.shares.toNat) =
      store.stakers.sum (·.shares.toNat) := by
  have written := sum_setStaker store { staker with delegatedTo := validatorAddr }
    (·.shares.toNat) rfl
  rw [keyed.held_own staked] at written
  rw [moving_eq]
  exact Nat.add_right_cancel written

theorem Balanced.moving_iff (balanced : store.Balanced) (keyed : store.Keyed)
    {staker : StakerRecord} (admitted : DelegateAdmitted store address validatorAddr staker val) :
    ((store.moving staker validatorAddr val).setStaker
        { staker with delegatedTo := validatorAddr }).Balanced ↔
      stakeOfOthers val staker validatorAddr + staker.stakedAmount.toNat < 2 ^ 64 := by
  have stakes := keyed.backed_moving_iff balanced.delegated admitted.staked admitted.found
  refine ⟨fun after => stakes.mp after.delegated, fun fits => ⟨?_, ?_, stakes.mpr fits⟩⟩
  · rw [keyed.sum_shares_moving admitted.staked, moving_eq]
    exact balanced.shares
  · rw [moving_eq]
    exact balanced.pending

end Stake

section Unstake

variable {store : Store} {address : String} {shares : UInt64} {staker : StakerRecord}

theorem stakedReduction_le (staker : StakerRecord) (shares : UInt64) :
    stakedReduction staker shares ≤ staker.stakedAmount := by
  unfold stakedReduction
  dsimp only
  split
  · exact UInt64.le_refl _
  next small => exact UInt64.not_lt.mp small

theorem recordUnstake_stakers (store : Store) (staker : StakerRecord) (shares : UInt64) :
    ∃ left : StakerRecord, left.address = staker.address ∧ left.delegatedTo = staker.delegatedTo ∧
      left.evmAddress = staker.evmAddress ∧ left.shares = staker.shares - shares ∧
      (store.recordUnstake staker shares).stakers = (store.setStaker left).stakers := by
  unfold recordUnstake
  split
  · refine ⟨{ staker with
      stakedAmount := staker.stakedAmount - stakedReduction staker shares
      shares := staker.shares - shares }, rfl, rfl, rfl, rfl, ?_⟩
    rw [releaseStake_eq]
    rfl
  · exact ⟨{ staker with shares := staker.shares - shares }, rfl, rfl, rfl, rfl, rfl⟩

theorem Keyed.sum_shares_recordUnstake (keyed : store.Keyed)
    (staked : store.stakers.lookup address = some staker) (owned : ¬staker.shares < shares) :
    (store.recordUnstake staker shares).stakers.sum (·.shares.toNat) + shares.toNat =
      store.stakers.sum (·.shares.toNat) := by
  obtain ⟨left, same, -, -, less, stakers⟩ := recordUnstake_stakers store staker shares
  have le : shares ≤ staker.shares := UInt64.not_lt.mp owned
  have written := sum_setStaker store left (·.shares.toNat) rfl
  rw [same, keyed.held_own staked, less, UInt64.toNat_sub_of_le _ _ le] at written
  have bound := UInt64.le_iff_toNat_le.mp le
  rw [stakers]
  omega

/-- An unstaking takes from its validator what it takes from the staker. -/
theorem Keyed.backed_recordUnstake (keyed : store.Keyed) (backed : store.Backed)
    (staked : store.stakers.lookup address = some staker) (shares : UInt64) :
    (store.recordUnstake staker shares).Backed := by
  have holds := keyed.held_own staked
  have owed := held_le_delegatedTo store staker.address
  rw [holds] at owed
  unfold Store.recordUnstake
  split
  · have le := stakedReduction_le staker shares
    have bound := UInt64.le_iff_toNat_le.mp le
    intro other validator found
    have sum := delegatedTo_setStaker store { staker with
      stakedAmount := staker.stakedAmount - stakedReduction staker shares
      shares := staker.shares - shares } other
    rw [holds, UInt64.toNat_sub_of_le _ _ le] at sum
    have there := (keyed.lookup_releaseStake _ _ other).symm.trans found
    rw [releaseStake_eq]
    change _ = (store.setStaker _).delegatedTo other
    split at there
    next same =>
      subst same
      obtain ⟨before, stored, rfl⟩ := map_eq_some_iff.mp there
      have was := backed _ before stored
      rw [if_pos rfl, if_pos rfl] at sum
      rw [toNat_lessStake (by omega), was]
      omega
    next apart =>
      rw [if_neg (Ne.symm apart), if_neg (Ne.symm apart)] at sum
      rw [backed other validator there]
      omega
  · intro other validator found
    have sum := delegatedTo_setStaker store { staker with shares := staker.shares - shares } other
    rw [holds] at sum
    exact (backed other validator found).trans (Nat.add_right_cancel sum).symm

section

variable (balanced : store.Balanced)
include balanced

theorem Balanced.shares_booking (keyed : store.Keyed)
    (admitted : UnstakeAdmitted store address shares staker) :
    (store.totalShares - shares).toNat =
      (store.recordUnstake staker shares).stakers.sum (·.shares.toNat) := by
  have sum := keyed.sum_shares_recordUnstake admitted.staked admitted.owned
  have total := balanced.shares
  have le : shares ≤ store.totalShares := UInt64.le_iff_toNat_le.mpr (by omega)
  rw [UInt64.toNat_sub_of_le _ _ le]
  omega

theorem Balanced.not_booking
    (booked : bookedAmount store.totalPooledAethel store.totalShares shares ≠ 0) :
    ¬(store.booking staker shares).Balanced := by
  intro after
  have requests : (store.booking staker shares).withdrawals = store.withdrawals := by
    rw [booking, recordUnstake_eq]
  have pending := after.pending
  rw [requests, ← balanced.pending] at pending
  change (store.totalPendingWithdrawals + bookedAmount store.totalPooledAethel store.totalShares
    shares).toNat = _ at pending
  have positive : (bookedAmount store.totalPooledAethel store.totalShares shares).toNat ≠ 0 :=
    fun zero => booked (UInt64.toNat_inj.mp zero)
  have small := UInt64.toNat_lt (bookedAmount store.totalPooledAethel store.totalShares shares)
  rw [UInt64.toNat_add] at pending
  omega

/-- When a request keeps the totals. -/
theorem Balanced.setWithdrawal_iff (keyed : store.Keyed)
    {blockTime : Instant} (admitted : UnstakeAdmitted store address shares staker) :
    ((store.booking staker shares).setWithdrawal
        (store.request blockTime address shares)).Balanced ↔
      Map.share unclaimed (store.withdrawals.lookup store.nextWithdrawalID) = 0 ∧
        store.totalPendingWithdrawals.toNat +
          (bookedAmount store.totalPooledAethel store.totalShares shares).toNat < 2 ^ 64 := by
  have requests : (store.booking staker shares).withdrawals = store.withdrawals := by
    rw [booking, recordUnstake_eq]
  have written := Map.sum_insert store.withdrawals store.nextWithdrawalID
    (store.request blockTime address shares) unclaimed
  have amount : unclaimed (store.request blockTime address shares) =
    (bookedAmount store.totalPooledAethel store.totalShares shares).toNat := rfl
  have total := balanced.pending
  have open_le := Map.share_le_sum store.withdrawals store.nextWithdrawalID unclaimed
  have small := UInt64.toNat_lt (bookedAmount store.totalPooledAethel store.totalShares shares)
  have bound := UInt64.toNat_lt store.totalPendingWithdrawals
  rw [amount] at written
  have pending_iff : (store.totalPendingWithdrawals + bookedAmount store.totalPooledAethel
      store.totalShares shares).toNat = Map.sum (store.withdrawals.insert store.nextWithdrawalID
        (store.request blockTime address shares)) unclaimed ↔
      Map.share unclaimed (store.withdrawals.lookup store.nextWithdrawalID) = 0 ∧
        store.totalPendingWithdrawals.toNat +
          (bookedAmount store.totalPooledAethel store.totalShares shares).toNat < 2 ^ 64 := by
    rw [UInt64.toNat_add]
    omega
  rw [← pending_iff]
  constructor
  · intro after
    have pending := after.pending
    rw [setWithdrawal, requests] at pending
    exact pending
  · intro pending
    refine ⟨balanced.shares_booking keyed admitted, ?_, ?_⟩
    · rw [setWithdrawal, requests]
      exact pending
    · exact keyed.backed_recordUnstake balanced.delegated admitted.staked shares

theorem Balanced.withdraw (keyed : store.Keyed) {id : UInt64} {req : WithdrawalRequest}
    (found : store.withdrawals.lookup id = some req) (outstanding : req.claimed = false) :
    Balanced { store.setWithdrawal { req with claimed := true } with
      totalPendingWithdrawals := store.totalPendingWithdrawals - req.aethelAmount } := by
  obtain rfl := keyed.request id req found
  have written := Map.sum_insert store.withdrawals req.id { req with claimed := true } unclaimed
  have amount : unclaimed req = req.aethelAmount.toNat := if_neg (Bool.eq_false_iff.mp outstanding)
  have nothing : unclaimed { req with claimed := true } = 0 := rfl
  have total := balanced.pending
  rw [found, Map.share_some, amount, nothing] at written
  refine ⟨balanced.shares, ?_, balanced.delegated⟩
  have le : req.aethelAmount ≤ store.totalPendingWithdrawals :=
    UInt64.le_iff_toNat_le.mpr (by omega)
  dsimp only [setWithdrawal]
  rw [UInt64.toNat_sub_of_le _ _ le]
  omega

end

end Unstake

section Validators

variable {store : Store} {validators : List ValidatorRecord}

theorem Backed.slash (backed : store.Backed) (keyed : store.Keyed) {address : String}
    {v : ValidatorRecord} (found : store.validators.lookup address = some v) :
    (store.setValidator { v with isActive := false, slashCount := v.slashCount + 1 }).Backed := by
  obtain rfl := keyed.validator address v found
  intro other validator there
  rw [lookup_setValidator] at there
  split at there
  next same =>
    cases there
    rw [same]
    exact backed v.address v found
  · exact backed other validator there

def attested (validators : List ValidatorRecord) (stored : Map String ValidatorRecord) :
    Map String ValidatorRecord :=
  validators.foldl (fun m v => m.insert v.address { v with isActive := true }) stored

theorem persistValidators_eq (validators : List ValidatorRecord) (store : Store) :
    persistValidators validators store =
      { store with
        validators := attested validators store.validators
        activeValidators := validators.map (·.address) } := by
  have fold (store : Store) :
      validators.foldl (fun store v => store.setValidator { v with isActive := true }) store =
        { store with validators := attested validators store.validators } := by
    induction validators generalizing store with
    | nil => rfl
    | cons v rest ih =>
      rw [List.foldl_cons, ih]
      rfl
  rw [persistValidators, fold]

theorem lookup_persistValidators (distinct : (validators.map (·.address)).Nodup)
    {address : String} {validator : ValidatorRecord} :
    (persistValidators validators store).validators.lookup address = some validator ↔
      (∃ v ∈ validators, v.address = address ∧ { v with isActive := true } = validator) ∨
        (∀ v ∈ validators, v.address ≠ address) ∧
          store.validators.lookup address = some validator := by
  rw [persistValidators_eq]
  exact Map.lookup_foldl_insert distinct

theorem Backed.persistValidators_iff (backed : store.Backed)
    (distinct : (validators.map (·.address)).Nodup) :
    (persistValidators validators store).Backed ↔
      ∀ v ∈ validators, v.delegatedStake.toNat = store.delegatedTo v.address := by
  have sums (address : String) :
      (persistValidators validators store).delegatedTo address = store.delegatedTo address := by
    rw [persistValidators_eq]
    rfl
  constructor
  · intro after v member
    have found : (persistValidators validators store).validators.lookup v.address =
        some { v with isActive := true } :=
      (lookup_persistValidators distinct).mpr (.inl ⟨v, member, rfl, rfl⟩)
    have right := after v.address _ found
    rw [sums] at right
    exact right
  · intro right address validator found
    rw [sums]
    rcases (lookup_persistValidators distinct).mp found with ⟨v, member, rfl, rfl⟩ | ⟨-, there⟩
    · exact right v member
    · exact backed address validator there

end Validators

section Step

variable {store : Store}

/-- What a call must meet for the totals to stay right: an address that stakes can be resolved,
nothing wraps, no open request is overwritten, and attested stakes are those delegated. -/
def Fits (store : Store) : Call → Prop
  | .stake address amount validatorAddr => ∀ val, StakeAdmitted store amount validatorAddr val →
      (resolveEvmAddress deployment address).isSome ∧
        store.SharesFit address (mintedShares store.totalPooledAethel store.totalShares amount) ∧
        stakeOfOthers val (store.held address) validatorAddr +
          ((store.held address).stakedAmount + amount).toNat < 2 ^ 64
  | .delegateStake stakerAddr validatorAddr => ∀ staker val,
      DelegateAdmitted store stakerAddr validatorAddr staker val →
        stakeOfOthers val staker validatorAddr + staker.stakedAmount.toNat < 2 ^ 64
  | .unstake blockTime address shares => ∀ staker, UnstakeAdmitted store address shares staker →
      blockTime.nanos + UnbondingPeriod < yearTenThousand ∧
        Map.share unclaimed (store.withdrawals.lookup store.nextWithdrawalID) = 0 ∧
        store.totalPendingWithdrawals.toNat +
          (bookedAmount store.totalPooledAethel store.totalShares shares).toNat < 2 ^ 64
  | .applyValidatorSelection blockTime eligibleAddrs validators attestation epoch =>
    SelectionAdmitted deployment store blockTime eligibleAddrs validators attestation epoch →
      ∀ v ∈ validators, v.delegatedStake.toNat = store.delegatedTo v.address
  | _ => True

theorem Keyed.selecting (keyed : store.Keyed) (registry : Registry) :
    Keyed { store with registry } :=
  ⟨keyed.staker, keyed.validator, keyed.request⟩

theorem Keyed.changed {call : Call} {after : Store} (keyed : store.Keyed)
    (changes : Changes deployment store call after) : after.Keyed := by
  cases changes with
  | staked admitted resolved => exact (keyed.minting _).recordStake admitted.named
  | minted admitted unresolved => exact keyed.minting _
  | delegated admitted => exact (keyed.moving _ _ _).setStaker admitted.named
  | unstaked admitted inTime booked =>
    have booking := keyed.booking (keyed.staker _ _ admitted.staked).2
    exact booked.accounts.keyed ((booking _).setWithdrawal _)
  | late admitted late => exact keyed.booking (keyed.staker _ _ admitted.staked).2 _
  | @withdrawn _ _ _ req found outstanding =>
    have written := keyed.setWithdrawal { req with claimed := true }
    exact ⟨written.staker, written.validator, written.request⟩
  | selected admitted registry => exact (keyed.selecting registry).persistValidators _
  | slashed found slashed => exact slashed.accounts.keyed (keyed.setValidator _)
  | snapshotted taken =>
    obtain ⟨snapshots, rfl, -⟩ := taken
    exact ⟨keyed.staker, keyed.validator, keyed.request⟩
  | kept refused same => exact same.accounts.keyed keyed

theorem Keyed.step (keyed : store.Keyed) (call : Call) : (store.step deployment call).Keyed :=
  keyed.changed deployment (changes_step deployment store call)

theorem StakeAdmitted.forall_iff {amount : UInt64} {validatorAddr : String} {val : ValidatorRecord}
    (admitted : StakeAdmitted store amount validatorAddr val) {fits : ValidatorRecord → Prop} :
    (∀ val, StakeAdmitted store amount validatorAddr val → fits val) ↔ fits val := by
  refine ⟨fun every => every val admitted, fun fits other again => ?_⟩
  obtain rfl : val = other := some.inj (admitted.found.symm.trans again.found)
  exact fits

theorem DelegateAdmitted.forall_iff {stakerAddr validatorAddr : String} {staker : StakerRecord}
    {val : ValidatorRecord} (admitted : DelegateAdmitted store stakerAddr validatorAddr staker val)
    {fits : StakerRecord → ValidatorRecord → Prop} :
    (∀ staker val, DelegateAdmitted store stakerAddr validatorAddr staker val →
      fits staker val) ↔ fits staker val := by
  refine ⟨fun every => every staker val admitted, fun fits other target again => ?_⟩
  obtain rfl : staker = other := some.inj (admitted.staked.symm.trans again.staked)
  obtain rfl : val = target := some.inj (admitted.found.symm.trans again.found)
  exact fits

theorem UnstakeAdmitted.forall_iff {address : String} {shares : UInt64} {staker : StakerRecord}
    (admitted : UnstakeAdmitted store address shares staker) {fits : StakerRecord → Prop} :
    (∀ staker, UnstakeAdmitted store address shares staker → fits staker) ↔ fits staker := by
  refine ⟨fun every => every staker admitted, fun fits other again => ?_⟩
  obtain rfl : staker = other := some.inj (admitted.staked.symm.trans again.staked)
  exact fits

theorem Refused.fits {call : Call} (refused : Refused deployment store call) :
    Fits deployment store call := by
  cases call with
  | stake _ _ _ => exact fun val admitted => absurd admitted (refused val)
  | delegateStake _ _ => exact fun staker val admitted => absurd admitted (refused staker val)
  | unstake _ _ _ => exact fun staker admitted => absurd admitted (refused staker)
  | applyValidatorSelection _ _ _ _ _ => exact fun admitted => absurd admitted refused
  | _ => exact trivial

/-- When a call keeps the totals. -/
theorem Balanced.changed_iff {call : Call} {after : Store} (balanced : store.Balanced)
    (keyed : store.Keyed) (changes : Changes deployment store call after) :
    after.Balanced ↔ Fits deployment store call := by
  cases changes with
  | staked admitted resolved =>
    refine (balanced.recordStake_iff keyed admitted).trans (Iff.trans ?_
      admitted.forall_iff.symm)
    rw [resolved]
    exact (and_iff_right rfl).symm
  | minted admitted unresolved =>
    refine iff_of_false (fun after => ?_) fun fits => ?_
    · exact minting_shares_ne admitted.minted (after.shares.trans balanced.shares.symm)
    · have resolved := (fits _ admitted).1
      rw [unresolved] at resolved
      cases resolved
  | delegated admitted =>
    refine Iff.symm (admitted.forall_iff.trans ?_)
    exact (balanced.moving_iff keyed admitted).symm
  | unstaked admitted inTime booked =>
    refine booked.accounts.balanced_iff.trans ((balanced.setWithdrawal_iff keyed admitted).trans
      (Iff.trans ?_ admitted.forall_iff.symm))
    exact (and_iff_right inTime).symm
  | late admitted late =>
    exact iff_of_false (balanced.not_booking admitted.booked) fun fits =>
      late (fits _ admitted).1
  | withdrawn found outstanding =>
    exact iff_of_true (balanced.withdraw keyed found outstanding) trivial
  | selected admitted registry =>
    have distinct := (nodup_of_firstDuplicate admitted.distinct).1
    have backed : Backed { store with registry } := balanced.delegated
    have right := backed.persistValidators_iff distinct
    refine ⟨fun after _ => right.mp after.delegated, fun fits => ⟨?_, ?_, ?_⟩⟩
    · rw [persistValidators_eq]
      exact balanced.shares
    · rw [persistValidators_eq]
      exact balanced.pending
    · exact right.mpr (fits admitted)
  | slashed found slashed =>
    refine iff_of_true (slashed.accounts.balanced ?_) trivial
    exact ⟨balanced.shares, balanced.pending, balanced.delegated.slash keyed found⟩
  | snapshotted taken =>
    obtain ⟨snapshots, rfl, -⟩ := taken
    exact iff_of_true ⟨balanced.shares, balanced.pending, balanced.delegated⟩ trivial
  | kept refused same =>
    exact iff_of_true (same.accounts.balanced balanced) (refused.fits deployment)

theorem Balanced.step_iff (balanced : store.Balanced) (keyed : store.Keyed) (call : Call) :
    (store.step deployment call).Balanced ↔ Fits deployment store call :=
  balanced.changed_iff deployment keyed (changes_step deployment store call)

end Step

end Vault.Store
