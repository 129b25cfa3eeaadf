import Aethelred.Vault.StakingCalls

/- The totals that the vault stores against the records they stand for: shares against stakers,
pending withdrawals against requests, the stake of a validator against those who delegate to it. -/
namespace Vault.Store

open Go Option

variable (deployment : Deployment)

def delegatedTo (store : Store) (address : String) : Nat :=
  store.stakers.sum fun staker =>
    if staker.delegatedTo = address then staker.stakedAmount.toNat else 0

def unclaimed (request : WithdrawalRequest) : Nat :=
  if request.claimed then 0 else request.aethelAmount.toNat

/-- A validator's stake is what its stakers have delegated. -/
def Backed (store : Store) : Prop :=
  ∀ address validator, store.validators.lookup address = some validator →
    validator.delegatedStake.toNat = store.delegatedTo address

/-- Each stored total is the sum it stands for. -/
structure Balanced (store : Store) : Prop where
  shares : store.totalShares.toNat = store.stakers.sum (·.shares.toNat)
  pending : store.totalPendingWithdrawals.toNat = store.withdrawals.sum unclaimed
  delegated : store.Backed

/-- Records are stored under their own keys, and every staker delegates. -/
structure Keyed (store : Store) : Prop where
  staker : ∀ address staker, store.stakers.lookup address = some staker →
    staker.address = address ∧ staker.delegatedTo ≠ ""
  validator : ∀ address validator, store.validators.lookup address = some validator →
    validator.address = address
  request : ∀ id request, store.withdrawals.lookup id = some request → request.id = id

theorem Balanced.empty : Balanced {} :=
  ⟨rfl, rfl, fun _ _ found => nomatch found⟩

theorem Keyed.empty : Keyed {} := by
  refine ⟨?_, ?_, ?_⟩
  · rintro address staker ⟨⟩
  · rintro address validator ⟨⟩
  · rintro id request ⟨⟩

section Same

variable {store after : Store}

section

variable (same : SameAccounts after store)
include same

theorem SameAccounts.keyed (keyed : store.Keyed) : after.Keyed := by
  refine ⟨?_, ?_, ?_⟩
  · rw [same.stakers]
    exact keyed.staker
  · rw [same.validators]
    exact keyed.validator
  · rw [same.withdrawals]
    exact keyed.request

theorem SameAccounts.symm : SameAccounts store after :=
  ⟨same.pooled.symm, same.shares.symm, same.pending.symm, same.next.symm, same.stakers.symm,
    same.validators.symm, same.withdrawals.symm, same.epoch.symm, same.snapshots.symm⟩

theorem SameAccounts.balanced (balanced : store.Balanced) : after.Balanced := by
  refine ⟨?_, ?_, ?_⟩
  · rw [same.shares, same.stakers]
    exact balanced.shares
  · rw [same.pending, same.withdrawals]
    exact balanced.pending
  · unfold Backed delegatedTo
    rw [same.validators, same.stakers]
    exact balanced.delegated

theorem SameAccounts.balanced_iff :
    after.Balanced ↔ store.Balanced :=
  ⟨same.symm.balanced, same.balanced⟩

end

end Same

section Records

variable {store : Store} {staker : StakerRecord} {validator : ValidatorRecord}

/-- The record of an address, an empty one where there is none. -/
def held (store : Store) (address : String) : StakerRecord :=
  (store.stakers.lookup address).getD ⟨address, "", 0, 0, ""⟩

theorem held_of_lookup {address : String} (found : store.stakers.lookup address = some staker) :
    store.held address = staker := by
  rw [held, found, getD_some]

theorem Keyed.held_address (keyed : store.Keyed) (address : String) :
    (store.held address).address = address := by
  unfold held
  cases found : store.stakers.lookup address with
  | none => rfl
  | some staker => exact (keyed.staker address staker found).1

theorem Keyed.held_own (keyed : store.Keyed) {address : String}
    (found : store.stakers.lookup address = some staker) : store.held staker.address = staker := by
  rw [(keyed.staker address staker found).1]
  exact held_of_lookup found

theorem sum_setStaker (store : Store) (staker : StakerRecord) (amount : StakerRecord → Nat)
    (nothing : amount ⟨staker.address, "", 0, 0, ""⟩ = 0) :
    (store.setStaker staker).stakers.sum amount + amount (store.held staker.address) =
      store.stakers.sum amount + amount staker := by
  have written := Map.sum_insert store.stakers staker.address staker amount
  unfold held
  cases found : store.stakers.lookup staker.address with
  | none =>
    rw [found, Map.share_none] at written
    rw [getD_none, nothing]
    exact written
  | some before =>
    rw [found, Map.share_some] at written
    exact written

theorem held_le_sum (store : Store) (address : String) (amount : StakerRecord → Nat)
    (nothing : amount ⟨address, "", 0, 0, ""⟩ = 0) :
    amount (store.held address) ≤ store.stakers.sum amount := by
  have bounded := Map.share_le_sum store.stakers address amount
  unfold held
  cases found : store.stakers.lookup address with
  | none =>
    rw [getD_none, nothing]
    exact Nat.zero_le _
  | some before =>
    rw [found] at bounded
    exact bounded

theorem delegatedTo_setStaker (store : Store) (staker : StakerRecord) (address : String) :
    (store.setStaker staker).delegatedTo address +
        (if (store.held staker.address).delegatedTo = address then
          (store.held staker.address).stakedAmount.toNat else 0) =
      store.delegatedTo address +
        if staker.delegatedTo = address then staker.stakedAmount.toNat else 0 :=
  sum_setStaker store staker (fun record =>
    if record.delegatedTo = address then record.stakedAmount.toNat else 0)
    (by dsimp only; split <;> rfl)

theorem held_le_delegatedTo (store : Store) (address : String) :
    (store.held address).stakedAmount.toNat ≤
      store.delegatedTo (store.held address).delegatedTo := by
  have bounded := held_le_sum store address (fun staker =>
    if staker.delegatedTo = (store.held address).delegatedTo then staker.stakedAmount.toNat else 0)
    (by dsimp only; split <;> rfl)
  rwa [if_pos rfl] at bounded

end Records

section Delegation

variable {store after : Store} {old new staker : StakerRecord} {val : ValidatorRecord}
  {validatorAddr address : String} {amount : UInt64}

/-- The validator with less stake, none at least. -/
def lessStake (amount : UInt64) (validator : ValidatorRecord) : ValidatorRecord :=
  { validator with
    delegatedStake :=
      if validator.delegatedStake ≥ amount then validator.delegatedStake - amount else 0 }

theorem toNat_lessStake {validator : ValidatorRecord}
    (covered : amount.toNat ≤ validator.delegatedStake.toNat) :
    (lessStake amount validator).delegatedStake.toNat =
      validator.delegatedStake.toNat - amount.toNat := by
  have le : amount ≤ validator.delegatedStake := UInt64.le_iff_toNat_le.mpr covered
  rw [lessStake, if_pos le, UInt64.toNat_sub_of_le _ _ le]

theorem lookup_setValidator (store : Store) (validator : ValidatorRecord) (address : String) :
    (store.setValidator validator).validators.lookup address =
      if address = validator.address then some validator else store.validators.lookup address :=
  Map.lookup_insert_eq _ _ _ _

theorem lookup_setStaker (store : Store) (staker : StakerRecord) (address : String) :
    (store.setStaker staker).stakers.lookup address =
      if address = staker.address then some staker else store.stakers.lookup address :=
  Map.lookup_insert_eq _ _ _ _

theorem releaseStake_eq (store : Store) (validatorAddr : String) (amount : UInt64) :
    store.releaseStake validatorAddr amount =
      { store with validators := (store.releaseStake validatorAddr amount).validators } := by
  unfold releaseStake
  split <;> rfl

theorem Keyed.lookup_releaseStake (keyed : store.Keyed) (validatorAddr : String) (amount : UInt64)
    (address : String) :
    (store.releaseStake validatorAddr amount).validators.lookup address =
      if address = validatorAddr then (store.validators.lookup address).map (lessStake amount)
      else store.validators.lookup address := by
  unfold releaseStake
  cases found : store.validators.lookup validatorAddr with
  | none =>
    dsimp only
    by_cases same : address = validatorAddr
    · rw [if_pos same, same, found]
      rfl
    · rw [if_neg same]
  | some validator =>
    have own := keyed.validator validatorAddr validator found
    dsimp only
    rw [lookup_setValidator]
    by_cases same : address = validatorAddr
    · rw [if_pos (same.trans own.symm), if_pos same, same, found]
      rfl
    · rw [if_neg fun named => same (named.trans own), if_neg same]

def stakeOfOthers (val : ValidatorRecord) (old : StakerRecord) (validatorAddr : String) : Nat :=
  val.delegatedStake.toNat - if old.delegatedTo = validatorAddr then old.stakedAmount.toNat else 0

/-- A record takes the place of another, and the stake moves to the validator of the new one. -/
structure Delegates (store after : Store) (old new : StakerRecord) (val : ValidatorRecord) :
    Prop where
  stakers : after.stakers = (store.setStaker new).stakers
  target : ∃ validator, after.validators.lookup new.delegatedTo = some validator ∧
    validator.delegatedStake.toNat =
      (stakeOfOthers val old new.delegatedTo + new.stakedAmount.toNat) % 2 ^ 64
  others : ∀ address, address ≠ new.delegatedTo → after.validators.lookup address =
    if address = old.delegatedTo then (store.validators.lookup address).map
      (lessStake old.stakedAmount) else store.validators.lookup address

/-- A delegation keeps the stakes backed exactly if the sum fits. -/
theorem Delegates.backed_iff (moves : Delegates store after (store.held new.address) new val)
    (backed : store.Backed) (found : store.validators.lookup new.delegatedTo = some val) :
    after.Backed ↔
      stakeOfOthers val (store.held new.address) new.delegatedTo + new.stakedAmount.toNat <
        2 ^ 64 := by
  have sums (address : String) : after.delegatedTo address +
      (if (store.held new.address).delegatedTo = address then
        (store.held new.address).stakedAmount.toNat else 0) =
      store.delegatedTo address + if new.delegatedTo = address then new.stakedAmount.toNat else 0 := by
    have written := delegatedTo_setStaker store new address
    unfold delegatedTo at written ⊢
    rw [moves.stakers]
    exact written
  have owed := held_le_delegatedTo store new.address
  obtain ⟨validator, present, stake⟩ := moves.target
  have target := sums new.delegatedTo
  rw [if_pos rfl, ← backed _ val found] at target
  constructor
  · intro right
    have exact := right _ validator present
    rw [stake] at exact
    unfold stakeOfOthers at exact ⊢
    split at target
    next same =>
      rw [same, ← backed _ val found] at owed
      rw [if_pos same] at exact ⊢
      omega
    next differ =>
      rw [if_neg differ] at exact ⊢
      omega
  · intro fits address other there
    by_cases at_target : address = new.delegatedTo
    · subst at_target
      obtain rfl : validator = other := some.inj (present.symm.trans there)
      rw [stake, Nat.mod_eq_of_lt fits]
      unfold stakeOfOthers
      split at target
      next same =>
        rw [same, ← backed _ val found] at owed
        rw [if_pos same]
        omega
      next differ =>
        rw [if_neg differ]
        omega
    · have sum := sums address
      rw [if_neg (Ne.symm at_target)] at sum
      rw [moves.others address at_target] at there
      split at there
      next left =>
        subst left
        obtain ⟨before, stored, rfl⟩ := map_eq_some_iff.mp there
        have was := backed _ before stored
        rw [toNat_lessStake (was ▸ owed), was]
        rw [if_pos rfl] at sum
        omega
      next apart =>
        rw [if_neg (Ne.symm apart)] at sum
        rw [backed _ other there]
        omega

end Delegation

section Stake

variable {store : Store} {address validatorAddr evmAddr : String} {amount shares : UInt64}
  {val : ValidatorRecord}

def delegating (store : Store) (staker : StakerRecord) (amount : UInt64) (validatorAddr : String)
    (val : ValidatorRecord) : Store :=
  if staker.delegatedTo ≠ validatorAddr then
    (if staker.delegatedTo ≠ "" then store.releaseStake staker.delegatedTo staker.stakedAmount
      else store).setValidator { val with
        delegatedStake := val.delegatedStake + (staker.stakedAmount + amount) }
  else store.setValidator { val with delegatedStake := val.delegatedStake + amount }

def restaked (staker : StakerRecord) (evmAddr : String) (amount shares : UInt64)
    (validatorAddr : String) : StakerRecord :=
  { staker with
    evmAddress := if staker.evmAddress = "" then evmAddr else staker.evmAddress
    shares := staker.shares + shares
    stakedAmount := staker.stakedAmount + amount
    delegatedTo := validatorAddr }

theorem recordStake_eq (named : validatorAddr ≠ "") :
    recordStake address evmAddr amount shares validatorAddr val store =
      (store.delegating (store.held address) amount validatorAddr val).setStaker
        (restaked (store.held address) evmAddr amount shares validatorAddr) := by
  unfold recordStake held
  cases store.stakers.lookup address with
  | none =>
    rw [getD_none, delegating, if_pos named.symm, if_neg (not_not_intro rfl), restaked,
      if_pos rfl]
    simp only [UInt64.zero_add]
  | some staker =>
    rw [getD_some, delegating]
    dsimp only
    split <;> rfl

theorem delegating_eq (store : Store) (staker : StakerRecord) (amount : UInt64)
    (validatorAddr : String) (val : ValidatorRecord) :
    store.delegating staker amount validatorAddr val =
      { store with validators := (store.delegating staker amount validatorAddr val).validators } := by
  unfold delegating
  split
  · split
    · rw [releaseStake_eq]
      rfl
    · rfl
  · rfl

theorem Keyed.held_eq_zero (keyed : store.Keyed)
    (nowhere : (store.held address).delegatedTo = "") : (store.held address).stakedAmount = 0 := by
  unfold held at nowhere ⊢
  cases found : store.stakers.lookup address with
  | none => rfl
  | some staker =>
    rw [found] at nowhere
    exact absurd nowhere (keyed.staker address staker found).2

theorem lessStake_zero (validator : ValidatorRecord) : lessStake 0 validator = validator := by
  have least : validator.delegatedStake ≥ 0 := UInt64.zero_le
  rw [lessStake, if_pos least, UInt64.sub_zero]

theorem Keyed.lookup_releasing (keyed : store.Keyed) (address other : String) :
    (if (store.held address).delegatedTo ≠ "" then
      store.releaseStake (store.held address).delegatedTo (store.held address).stakedAmount
      else store).validators.lookup other =
      if other = (store.held address).delegatedTo then (store.validators.lookup other).map
        (lessStake (store.held address).stakedAmount) else store.validators.lookup other := by
  split
  · exact keyed.lookup_releaseStake _ _ other
  next nowhere =>
    split
    · rw [keyed.held_eq_zero (not_not.mp nowhere), show lessStake 0 = id from
        funext lessStake_zero, map_id]
      rfl
    · rfl

/-- Staking more delegates the new sum. -/
theorem Keyed.delegates_delegating (keyed : store.Keyed) (backed : store.Backed)
    (found : store.validators.lookup validatorAddr = some val) {new : StakerRecord}
    (target : new.delegatedTo = validatorAddr)
    (sum : new.stakedAmount = (store.held address).stakedAmount + amount) :
    Delegates store ((store.delegating (store.held address) amount validatorAddr val).setStaker new)
      (store.held address) new val := by
  subst target
  have own := keyed.validator _ val found
  have owed := held_le_delegatedTo store address
  unfold delegating
  split
  next differ =>
    refine ⟨?_, ⟨_, (lookup_setValidator _ _ _).trans (if_pos own.symm), ?_⟩, fun other apart => ?_⟩
    · split
      · rw [releaseStake_eq]
        rfl
      · rfl
    · unfold stakeOfOthers
      rw [if_neg differ, Nat.sub_zero, sum, UInt64.toNat_add]
    · refine (lookup_setValidator _ _ _).trans ?_
      rw [if_neg fun named => apart (named.trans own)]
      exact keyed.lookup_releasing address other
  next stays =>
    have stays := not_not.mp stays
    refine ⟨rfl, ⟨_, (lookup_setValidator _ _ _).trans (if_pos own.symm), ?_⟩,
      fun other apart => ?_⟩
    · unfold stakeOfOthers
      rw [stays, ← backed _ val found] at owed
      rw [if_pos stays, sum, UInt64.toNat_add, UInt64.toNat_add]
      omega
    · refine (lookup_setValidator _ _ _).trans ?_
      rw [if_neg fun named => apart (named.trans own),
        if_neg fun named => apart (named.trans stays)]

theorem recordStake_frame (named : validatorAddr ≠ "") :
    recordStake address evmAddr amount shares validatorAddr val store =
      { store with
        stakers := (store.setStaker
          (restaked (store.held address) evmAddr amount shares validatorAddr)).stakers
        validators := (store.delegating (store.held address) amount validatorAddr val).validators } := by
  rw [recordStake_eq named, delegating_eq]
  rfl

theorem Keyed.backed_recordStake_iff (keyed : store.Keyed) (backed : store.Backed)
    (found : store.validators.lookup validatorAddr = some val) (named : validatorAddr ≠ "") :
    (recordStake address evmAddr amount shares validatorAddr val store).Backed ↔
      stakeOfOthers val (store.held address) validatorAddr +
        ((store.held address).stakedAmount + amount).toNat < 2 ^ 64 := by
  rw [recordStake_eq named]
  obtain ⟨new, records⟩ : ∃ new, new =
    restaked (store.held address) evmAddr amount shares validatorAddr := ⟨_, rfl⟩
  have own : new.address = address := by
    rw [records]
    exact keyed.held_address address
  have target : new.delegatedTo = validatorAddr := by rw [records, restaked]
  have staked : new.stakedAmount = (store.held address).stakedAmount + amount := by
    rw [records, restaked]
  have moves := keyed.delegates_delegating backed found target staked
  rw [← own] at moves
  have fits := moves.backed_iff backed (target.symm ▸ found)
  rw [own, target, staked, records] at fits
  exact fits

theorem Keyed.lookup_moving (keyed : store.Keyed)
    (found : store.validators.lookup validatorAddr = some val) (staker : StakerRecord)
    (other : String) :
    (store.moving staker validatorAddr val).validators.lookup other =
      (store.delegating staker 0 validatorAddr val).validators.lookup other := by
  unfold moving delegating
  rw [UInt64.add_zero, UInt64.add_zero]
  split
  · rfl
  · have own := keyed.validator _ val found
    rw [lookup_setValidator]
    by_cases same : other = validatorAddr
    · rw [if_pos (same.trans own.symm), same, found]
    · rw [if_neg fun named => same (named.trans own)]

theorem moving_eq (store : Store) (staker : StakerRecord) (validatorAddr : String)
    (val : ValidatorRecord) :
    store.moving staker validatorAddr val =
      { store with validators := (store.moving staker validatorAddr val).validators } := by
  unfold moving
  split
  · split
    · rw [releaseStake_eq]
      rfl
    · rfl
  · rfl

/-- When a redelegation keeps the stakes backed. -/
theorem Keyed.backed_moving_iff (keyed : store.Keyed) (backed : store.Backed)
    {staker : StakerRecord} (staked : store.stakers.lookup address = some staker)
    (found : store.validators.lookup validatorAddr = some val) :
    ((store.moving staker validatorAddr val).setStaker
        { staker with delegatedTo := validatorAddr }).Backed ↔
      stakeOfOthers val staker validatorAddr + staker.stakedAmount.toNat < 2 ^ 64 := by
  obtain ⟨new, records⟩ : ∃ new, new = { staker with delegatedTo := validatorAddr } := ⟨_, rfl⟩
  have holds := held_of_lookup staked
  have own : new.address = address := by
    rw [records]
    exact (keyed.staker address staker staked).1
  have target : new.delegatedTo = validatorAddr := by rw [records]
  have amount : new.stakedAmount = (store.held address).stakedAmount + 0 := by
    rw [records, holds, UInt64.add_zero]
  have moves := keyed.delegates_delegating backed found target amount
  have moved : Delegates store ((store.moving staker validatorAddr val).setStaker new)
      (store.held new.address) new val := by
    rw [holds] at moves
    rw [own, holds]
    refine ⟨?_, ?_, ?_⟩
    · rw [moving_eq]
      rfl
    · obtain ⟨validator, present, stake⟩ := moves.target
      exact ⟨validator, (keyed.lookup_moving found staker _).trans present, stake⟩
    · intro other apart
      exact (keyed.lookup_moving found staker other).trans (moves.others other apart)
  have fits := moved.backed_iff backed (target.symm ▸ found)
  rw [own, target, amount, UInt64.add_zero, holds, records] at fits
  exact fits

end Stake

section Keyed

variable {store : Store} {staker : StakerRecord}

section

variable (keyed : store.Keyed)
include keyed

theorem Keyed.setStaker (named : staker.delegatedTo ≠ "") : (store.setStaker staker).Keyed := by
  exact ⟨Map.forall_insert ⟨rfl, named⟩ keyed.staker, keyed.validator, keyed.request⟩

theorem Keyed.setValidator (validator : ValidatorRecord) :
    (store.setValidator validator).Keyed := by
  exact ⟨keyed.staker, Map.forall_insert rfl keyed.validator, keyed.request⟩

theorem Keyed.setWithdrawal (request : WithdrawalRequest) :
    (store.setWithdrawal request).Keyed := by
  exact ⟨keyed.staker, keyed.validator, Map.forall_insert rfl keyed.request⟩

theorem Keyed.releaseStake (validatorAddr : String) (amount : UInt64) :
    (store.releaseStake validatorAddr amount).Keyed := by
  unfold Store.releaseStake
  split
  · exact keyed.setValidator _
  · exact keyed

theorem Keyed.recordStake {address evmAddr validatorAddr : String}
    {amount shares : UInt64} {val : ValidatorRecord} (named : validatorAddr ≠ "") :
    (recordStake address evmAddr amount shares validatorAddr val store).Keyed := by
  rw [recordStake_eq named]
  refine Keyed.setStaker ?_ named
  unfold delegating
  split
  · split
    · exact (keyed.releaseStake _ _).setValidator _
    · exact keyed.setValidator _
  · exact keyed.setValidator _

theorem Keyed.moving (staker : StakerRecord) (validatorAddr : String)
    (val : ValidatorRecord) : (store.moving staker validatorAddr val).Keyed := by
  unfold Store.moving
  split
  · split
    · exact (keyed.releaseStake _ _).setValidator _
    · exact keyed.setValidator _
  · exact keyed

theorem Keyed.recordUnstake (named : staker.delegatedTo ≠ "") (shares : UInt64) :
    (store.recordUnstake staker shares).Keyed := by
  unfold Store.recordUnstake
  split
  · exact (keyed.releaseStake _ _).setStaker named
  · exact keyed.setStaker named

theorem Keyed.booking
    (named : staker.delegatedTo ≠ "") (shares : UInt64) : (store.booking staker shares).Keyed :=
  have recorded := keyed.recordUnstake named shares
  ⟨recorded.staker, recorded.validator, recorded.request⟩

theorem Keyed.persistValidators (validators : List ValidatorRecord) :
    (persistValidators validators store).Keyed := by
  have fold (start : Store) (keyed : start.Keyed) :
      (validators.foldl (fun store v => store.setValidator { v with isActive := true })
        start).Keyed := by
    induction validators generalizing start with
    | nil => exact keyed
    | cons v rest ih => exact ih _ (keyed.setValidator _)
  have written := fold store keyed
  exact ⟨written.staker, written.validator, written.request⟩

end

end Keyed

end Vault.Store
