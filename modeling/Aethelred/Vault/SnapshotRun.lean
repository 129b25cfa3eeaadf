import Aethelred.Vault.Snapshot
import Aethelred.Vault.StakingRun

/- Whether a snapshot of the delegations can be taken after every call of a run: as long as no two
stakers spell one address, and validators are named in lower case. -/
namespace Vault.Store

open Go Option

variable (deployment : Deployment)

section Validators

variable {store after : Store} {val : ValidatorRecord} {validatorAddr : String}

/-- The same validators are known. -/
def SameValidators (after store : Store) : Prop :=
  ∀ address, (after.validators.lookup address).isSome = (store.validators.lookup address).isSome

theorem SameValidators.trans {between : Store} (second : SameValidators after between)
    (first : SameValidators between store) : SameValidators after store :=
  fun address => (second address).trans (first address)

theorem sameValidators_setValidator (there : (store.validators.lookup val.address).isSome) :
    SameValidators (store.setValidator val) store := by
  intro address
  rw [lookup_setValidator]
  split
  next same =>
    rw [same, there]
    rfl
  · rfl

theorem Keyed.sameValidators_releaseStake (keyed : store.Keyed) (validatorAddr : String)
    (amount : UInt64) : SameValidators (store.releaseStake validatorAddr amount) store := by
  intro address
  rw [keyed.lookup_releaseStake]
  split
  · exact isSome_map
  · rfl

section

variable (keyed : store.Keyed) (found : store.validators.lookup validatorAddr = some val)
  (staker : StakerRecord)
include keyed found staker

theorem Keyed.sameValidators_delegating (amount : UInt64) :
    SameValidators (store.delegating staker amount validatorAddr val) store := by
  have own := keyed.validator validatorAddr val found
  have there : (store.validators.lookup val.address).isSome := by
    rw [own, found]
    rfl
  unfold delegating
  split
  · split
    · have released := keyed.sameValidators_releaseStake staker.delegatedTo staker.stakedAmount
      refine .trans (sameValidators_setValidator ?_) released
      exact (released _).trans there
    · exact sameValidators_setValidator there
  · exact sameValidators_setValidator there

theorem Keyed.sameValidators_moving :
    SameValidators (store.moving staker validatorAddr val) store := by
  intro address
  rw [keyed.lookup_moving found]
  exact keyed.sameValidators_delegating found staker 0 address

end

theorem Keyed.sameValidators_recordUnstake (keyed : store.Keyed) (staker : StakerRecord)
    (shares : UInt64) : SameValidators (store.recordUnstake staker shares) store := by
  unfold Store.recordUnstake
  split
  · exact keyed.sameValidators_releaseStake _ _
  · exact fun _ => rfl

end Validators

section Listed

variable {deployment} {store after : Store} {new : StakerRecord}

theorem Keyed.holds_iff (keyed : store.Keyed)
    (stakers : after.stakers = (store.setStaker new).stakers) {staker : StakerRecord} :
    after.Holds staker ↔ staker = new ∧ new.shares ≠ 0 ∨
      staker.address ≠ new.address ∧ store.Holds staker := by
  unfold Holds
  rw [stakers]
  constructor
  · rintro ⟨⟨address, found⟩, some⟩
    rw [lookup_setStaker] at found
    split at found
    · cases found
      exact .inl ⟨rfl, some⟩
    next apart =>
      refine .inr ⟨fun same => apart ?_, ⟨address, found⟩, some⟩
      rw [← (keyed.staker address staker found).1, same]
  · rintro (⟨rfl, some⟩ | ⟨apart, ⟨address, found⟩, some⟩)
    · exact ⟨⟨staker.address, (lookup_setStaker _ _ _).trans (if_pos rfl)⟩, some⟩
    · refine ⟨⟨address, (lookup_setStaker _ _ _).trans ?_⟩, some⟩
      rw [if_neg fun same => apart ((keyed.staker address staker found).1.trans same)]
      exact found

/-- A new record is listed exactly if its validator is. -/
theorem Listed.setStaker_iff (listed : Listed deployment store) (keyed : store.Keyed)
    (stakers : after.stakers = (store.setStaker new).stakers)
    (validators : SameValidators after store) :
    Listed deployment after ↔ (new.shares ≠ 0 →
      (store.validators.lookup (deployment.toLower new.delegatedTo)).isSome ∧
        ∀ other, store.Holds other → other.address ≠ new.address →
          deployment.toLower other.evmAddress ≠ deployment.toLower new.evmAddress) := by
  have holds {staker : StakerRecord} : after.Holds staker ↔ staker = new ∧ new.shares ≠ 0 ∨
      staker.address ≠ new.address ∧ store.Holds staker := keyed.holds_iff stakers
  constructor
  · intro listed' some
    have there : after.Holds new := holds.mpr (.inl ⟨rfl, some⟩)
    refine ⟨(validators _).symm.trans (listed'.registered new there), ?_⟩
    intro other held apart same
    exact apart (congrArg _ (listed'.distinct other new (holds.mpr (.inr ⟨apart, held⟩)) there same))
  · intro fits
    refine ⟨fun first second one two same => ?_, fun staker held => ?_⟩
    · rcases holds.mp one with ⟨rfl, some⟩ | ⟨apart, before⟩
      · rcases holds.mp two with ⟨rfl, -⟩ | ⟨apart, before⟩
        · rfl
        · exact absurd same.symm ((fits some).2 second before apart)
      · rcases holds.mp two with ⟨rfl, some⟩ | ⟨apart', before'⟩
        · exact absurd same ((fits some).2 first before apart)
        · exact listed.distinct first second before before' same
    · refine (validators _).trans ?_
      rcases holds.mp held with ⟨rfl, some⟩ | ⟨apart, before⟩
      · exact (fits some).1
      · exact listed.registered staker before

theorem Listed.of_validators (listed : Listed deployment store)
    (stakers : after.stakers = store.stakers)
    (validators : ∀ address, (store.validators.lookup address).isSome →
      (after.validators.lookup address).isSome) : Listed deployment after := by
  have holds {staker : StakerRecord} : after.Holds staker → store.Holds staker := by
    unfold Holds
    rw [stakers]
    exact id
  exact ⟨fun first second one two => listed.distinct first second (holds one) (holds two),
    fun staker held => validators _ (listed.registered staker (holds held))⟩

end Listed

section Filed

variable {store after : Store} {address validatorAddr evmAddr : String} {amount shares : UInt64}

/-- What every call keeps: records under their keys and with their EVM addresses, and no snapshot of
another epoch than the first. -/
structure Filed (store : Store) : Prop where
  keyed : store.Keyed
  resolved : Resolved deployment store
  current : store.currentEpoch = 1
  later : store.delegationSnapshots.lookup 2 = none

theorem Filed.empty : Filed deployment {} := by
  refine ⟨.empty, ?_, rfl, rfl⟩
  rintro address staker ⟨⟩

variable {deployment}

theorem Resolved.setStaker {new : StakerRecord} (resolved : Resolved deployment store)
    (stakers : after.stakers = (store.setStaker new).stakers)
    (own : resolveEvmAddress deployment new.address = some new.evmAddress) :
    Resolved deployment after := by
  intro address staker found
  rw [stakers, lookup_setStaker] at found
  split at found
  next same =>
    cases found
    rw [same]
    exact own
  · exact resolved address staker found

theorem SameAccounts.filed (same : SameAccounts after store) (filed : Filed deployment store) :
    Filed deployment after := by
  refine ⟨same.keyed filed.keyed, ?_, same.epoch.trans filed.current, ?_⟩
  · unfold Resolved
    rw [same.stakers]
    exact filed.resolved
  · rw [same.snapshots]
    exact filed.later

theorem Resolved.restaked (resolved : Resolved deployment store)
    (now : resolveEvmAddress deployment address = some evmAddr) :
    (restaked (store.held address) evmAddr amount shares validatorAddr).evmAddress = evmAddr := by
  unfold Store.restaked held
  dsimp only
  cases found : store.stakers.lookup address with
  | none => exact if_pos rfl
  | some staker =>
    have before := resolved address staker found
    have same : staker.evmAddress = evmAddr := some.inj (before.symm.trans now)
    rw [getD_some, same]
    exact if_neg (resolveEvmAddress_ne_empty now)

theorem Filed.recordStake (filed : Filed deployment store) {val : ValidatorRecord}
    (named : validatorAddr ≠ "") (now : resolveEvmAddress deployment address = some evmAddr) :
    Filed deployment (recordStake address evmAddr amount shares validatorAddr val store) := by
  refine ⟨filed.keyed.recordStake named, ?_, ?_, ?_⟩
  · have stakers : (Store.recordStake address evmAddr amount shares validatorAddr val
        store).stakers = (store.setStaker
          (Store.restaked (store.held address) evmAddr amount shares validatorAddr)).stakers := by
      rw [recordStake_frame named]
    refine filed.resolved.setStaker stakers ?_
    rw [filed.resolved.restaked now]
    exact (congrArg _ (filed.keyed.held_address address)).trans now
  · rw [recordStake_frame named]
    exact filed.current
  · rw [recordStake_frame named]
    exact filed.later

theorem Filed.booking (filed : Filed deployment store) {staker : StakerRecord}
    (staked : store.stakers.lookup address = some staker) (shares : UInt64) :
    Filed deployment (store.booking staker shares) := by
  obtain ⟨own, named⟩ := filed.keyed.staker address staker staked
  obtain ⟨left, same, -, evm, -, stakers⟩ := recordUnstake_stakers store staker shares
  refine ⟨filed.keyed.booking named shares, ?_, ?_, ?_⟩
  · refine Resolved.setStaker filed.resolved stakers ?_
    rw [same, own, evm]
    exact filed.resolved address staker staked
  · rw [Store.booking, recordUnstake_eq]
    exact filed.current
  · rw [Store.booking, recordUnstake_eq]
    exact filed.later

variable (deployment)

/-- Every call keeps the addresses filed. -/
theorem Filed.step (store : Store) (call : Call) (filed : Filed deployment store) :
    Filed deployment (store.step deployment call) := by
  have keyed := filed.keyed.step deployment call
  have changes := changes_step deployment store call
  have minting (amount : UInt64) : Filed deployment (store.minting amount) :=
    ⟨filed.keyed.minting amount, filed.resolved, filed.current, filed.later⟩
  generalize store.step deployment call = after at keyed changes ⊢
  cases changes with
  | staked admitted resolved => exact (minting _).recordStake admitted.named resolved
  | minted admitted unresolved => exact minting _
  | @delegated stakerAddr _ staker _ admitted =>
    rw [moving_eq] at keyed ⊢
    refine ⟨keyed, Resolved.setStaker filed.resolved rfl ?_, filed.current, filed.later⟩
    rw [(filed.keyed.staker stakerAddr staker admitted.staked).1]
    exact filed.resolved stakerAddr staker admitted.staked
  | unstaked admitted inTime booked =>
    have booking := filed.booking admitted.staked
    refine booked.accounts.filed ⟨(booking _).keyed.setWithdrawal _, (booking _).resolved,
      (booking _).current, ?_⟩
    exact (booking _).later
  | late admitted late => exact filed.booking admitted.staked _
  | withdrawn found outstanding => exact ⟨keyed, filed.resolved, filed.current, filed.later⟩
  | selected admitted registry =>
    rw [persistValidators_eq] at keyed ⊢
    exact ⟨keyed, filed.resolved, filed.current, filed.later⟩
  | slashed found slashed =>
    exact slashed.accounts.filed
      ⟨filed.keyed.setValidator _, filed.resolved, filed.current, filed.later⟩
  | snapshotted taken =>
    obtain ⟨snapshots, rfl, others⟩ := taken
    refine ⟨keyed, filed.resolved, filed.current, (others 2 ?_).trans filed.later⟩
    rw [filed.current]
    decide
  | kept refused same => exact same.accounts.filed filed

end Filed

section Step

variable {store : Store} {address validatorAddr : String} {amount : UInt64} {val : ValidatorRecord}

/-- What a call must meet for a snapshot to stay possible: an address that stakes can be resolved and
is that of no other staker with shares, the shares fit into 64 bits, and the validator is also
registered in lower case. -/
def Spelled (store : Store) : Call → Prop
  | .stake address amount validatorAddr => ∀ val, StakeAdmitted store amount validatorAddr val →
      ∃ evmAddr, resolveEvmAddress deployment address = some evmAddr ∧
        store.SharesFit address (mintedShares store.totalPooledAethel store.totalShares amount) ∧
        ((store.held address).shares +
            mintedShares store.totalPooledAethel store.totalShares amount ≠ 0 →
          (store.validators.lookup (deployment.toLower validatorAddr)).isSome ∧
            ∀ other, store.Holds other → other.address ≠ address →
              deployment.toLower other.evmAddress ≠ deployment.toLower evmAddr)
  | .delegateStake stakerAddr validatorAddr => ∀ staker val,
      DelegateAdmitted store stakerAddr validatorAddr staker val → staker.shares ≠ 0 →
        (store.validators.lookup (deployment.toLower validatorAddr)).isSome
  | _ => True

variable {deployment}

theorem SameAccounts.ready {after : Store} (same : SameAccounts after store)
    (ready : Ready deployment store) : Ready deployment after := by
  refine ⟨?_, ready.listed.of_validators same.stakers fun _ there => ?_⟩
  · rw [same.shares, same.stakers]
    exact ready.shares
  · rw [same.validators]
    exact there

section

variable (ready : Ready deployment store) (filed : Filed deployment store)
include ready filed

/-- An unstaking keeps the store ready. -/
theorem Ready.booking {staker : StakerRecord} {shares : UInt64}
    (admitted : UnstakeAdmitted store address shares staker) :
    Ready deployment (store.booking staker shares) := by
  obtain ⟨left, own, target, evm, less, stakers⟩ := recordUnstake_stakers store staker shares
  have sum := filed.keyed.sum_shares_recordUnstake admitted.staked admitted.owned
  have total := ready.shares
  have validators := filed.keyed.sameValidators_recordUnstake staker shares
  have le : shares ≤ store.totalShares := UInt64.le_iff_toNat_le.mpr (by omega)
  constructor
  · change (store.totalShares - shares).toNat =
      (store.recordUnstake staker shares).stakers.sum (·.shares.toNat)
    rw [UInt64.toNat_sub_of_le _ _ le]
    omega
  · have written : (store.booking staker shares).stakers = (store.setStaker left).stakers := stakers
    refine (ready.listed.setStaker_iff filed.keyed written validators).mpr fun some => ?_
    have holds : store.Holds staker := by
      refine ⟨⟨address, admitted.staked⟩, fun zero => some ?_⟩
      have none : shares = 0 := by
        have bound := UInt64.le_iff_toNat_le.mp (UInt64.not_lt.mp admitted.owned)
        rw [zero] at bound
        exact UInt64.toNat_inj.mp (Nat.le_zero.mp bound)
      rw [less, zero, none]
      rfl
    rw [own, target, evm]
    refine ⟨ready.listed.registered staker holds, fun other held apart same => apart ?_⟩
    rw [ready.listed.distinct other staker held holds same]

/-- A stake keeps the store ready exactly if its address is new or its own. -/
theorem Ready.recordStake_iff (admitted : StakeAdmitted store amount validatorAddr val)
    {evmAddr : String} (now : resolveEvmAddress deployment address = some evmAddr) :
    Ready deployment (recordStake address evmAddr amount
        (mintedShares store.totalPooledAethel store.totalShares amount) validatorAddr val
        (store.minting amount)) ↔
      store.SharesFit address (mintedShares store.totalPooledAethel store.totalShares amount) ∧
        ((store.held address).shares +
            mintedShares store.totalPooledAethel store.totalShares amount ≠ 0 →
          (store.validators.lookup (deployment.toLower validatorAddr)).isSome ∧
            ∀ other, store.Holds other → other.address ≠ address →
              deployment.toLower other.evmAddress ≠ deployment.toLower evmAddr) := by
  obtain ⟨minted, mints⟩ : ∃ minted, minted =
    mintedShares store.totalPooledAethel store.totalShares amount := ⟨_, rfl⟩
  obtain ⟨after, done⟩ : ∃ after, after = recordStake address evmAddr amount minted validatorAddr
    val (store.minting amount) := ⟨_, rfl⟩
  obtain ⟨new, records⟩ : ∃ new, new =
    restaked (store.held address) evmAddr amount minted validatorAddr := ⟨_, rfl⟩
  have stakers : after.stakers = (store.setStaker new).stakers := by
    rw [done, records, recordStake_frame admitted.named]
    rfl
  have total : after.totalShares = store.totalShares + minted := by
    rw [done, recordStake_frame admitted.named, mints]
    rfl
  have validators : SameValidators after store := by
    rw [done, recordStake_frame admitted.named]
    exact (filed.keyed.minting amount).sameValidators_delegating admitted.found _ _
  have own : new.address = address := by
    rw [records]
    exact filed.keyed.held_address address
  have evm : new.evmAddress = evmAddr := by
    rw [records]
    exact filed.resolved.restaked now
  have shares : new.shares = (store.held address).shares + minted := by rw [records, restaked]
  have target : new.delegatedTo = validatorAddr := by rw [records, restaked]
  have listed := ready.listed.setStaker_iff filed.keyed stakers validators
  have fits := filed.keyed.shares_iff ready.shares address evmAddr amount minted validatorAddr
  rw [own, evm, shares, target] at listed
  rw [← records, ← total, ← stakers] at fits
  rw [← mints, ← done, ← fits, ← listed]
  exact ⟨fun ready => ⟨ready.shares, ready.listed⟩, fun both => ⟨both.1, both.2⟩⟩

/-- When a redelegation keeps the store ready. -/
theorem Ready.moving_iff
    {staker : StakerRecord} (admitted : DelegateAdmitted store address validatorAddr staker val) :
    Ready deployment ((store.moving staker validatorAddr val).setStaker
        { staker with delegatedTo := validatorAddr }) ↔
      (staker.shares ≠ 0 →
        (store.validators.lookup (deployment.toLower validatorAddr)).isSome) := by
  obtain ⟨after, done⟩ : ∃ after, after = (store.moving staker validatorAddr val).setStaker
    { staker with delegatedTo := validatorAddr } := ⟨_, rfl⟩
  have sum : after.stakers.sum (·.shares.toNat) = store.stakers.sum (·.shares.toNat) := by
    rw [done]
    exact filed.keyed.sum_shares_moving admitted.staked
  have stakers : after.stakers = (store.setStaker
      { staker with delegatedTo := validatorAddr }).stakers := by
    rw [done, moving_eq]
    rfl
  have total : after.totalShares = store.totalShares := by
    rw [done, moving_eq]
    rfl
  have validators : SameValidators after store := by
    rw [done]
    exact filed.keyed.sameValidators_moving admitted.found staker
  have listed := ready.listed.setStaker_iff filed.keyed stakers validators
  rw [← done]
  constructor
  · intro ready' some
    exact (listed.mp ready'.listed some).1
  · intro registered
    refine ⟨?_, listed.mpr fun some => ⟨registered some, fun other held apart same => apart ?_⟩⟩
    · rw [total, sum]
      exact ready.shares
    · have holds : store.Holds staker := ⟨⟨address, admitted.staked⟩, some⟩
      rw [ready.listed.distinct other staker held holds same]

end

variable (deployment)

theorem Refused.spelled {call : Call} (refused : Refused deployment store call) :
    Spelled deployment store call := by
  cases call with
  | stake _ _ _ => exact fun val admitted => absurd admitted (refused val)
  | delegateStake _ _ => exact fun staker val admitted => absurd admitted (refused staker val)
  | _ => exact trivial

/-- A call keeps the store ready exactly if it is spelled right. -/
theorem Ready.step_iff (ready : Ready deployment store) (filed : Filed deployment store)
    (call : Call) : Ready deployment (store.step deployment call) ↔ Spelled deployment store call := by
  have changes := changes_step deployment store call
  generalize store.step deployment call = after at changes ⊢
  have kept {other : Store} (stakers : other.stakers = store.stakers)
      (shares : other.totalShares = store.totalShares)
      (validators : ∀ address, (store.validators.lookup address).isSome →
        (other.validators.lookup address).isSome) : Ready deployment other := by
    refine ⟨?_, ready.listed.of_validators stakers validators⟩
    rw [shares, stakers]
    exact ready.shares
  cases changes with
  | staked admitted resolved =>
    refine Iff.symm (admitted.forall_iff.trans ?_)
    refine Iff.trans ?_ (ready.recordStake_iff filed admitted resolved).symm
    constructor
    · rintro ⟨other, now, fits⟩
      cases some.inj (resolved.symm.trans now)
      exact fits
    · exact fun fits => ⟨_, resolved, fits⟩
  | minted admitted unresolved =>
    refine iff_of_false (fun after => ?_) fun spelled => ?_
    · exact minting_shares_ne admitted.minted (after.shares.trans ready.shares.symm)
    · obtain ⟨evmAddr, resolved, -⟩ := spelled _ admitted
      cases unresolved.symm.trans resolved
  | delegated admitted =>
    refine Iff.symm (admitted.forall_iff.trans ?_)
    exact (ready.moving_iff filed admitted).symm
  | unstaked admitted inTime booked =>
    have booking := ready.booking filed admitted
    refine iff_of_true (booked.accounts.ready ⟨booking.shares, ?_⟩) trivial
    exact booking.listed.of_validators rfl fun _ there => there
  | late admitted late => exact iff_of_true (ready.booking filed admitted) trivial
  | withdrawn found outstanding => exact iff_of_true (kept rfl rfl fun _ there => there) trivial
  | @selected _ _ validators _ _ admitted registry =>
    have distinct := (nodup_of_firstDuplicate admitted.distinct).1
    refine iff_of_true (kept ?_ ?_ fun address there => ?_) trivial
    · rw [persistValidators_eq]
    · rw [persistValidators_eq]
    · obtain ⟨validator, found⟩ := isSome_iff_exists.mp there
      refine isSome_iff_exists.mpr ?_
      by_cases attested : ∃ v ∈ validators, v.address = address
      · obtain ⟨v, member, named⟩ := attested
        exact ⟨_, (lookup_persistValidators distinct).mpr (.inl ⟨v, member, named, rfl⟩)⟩
      · refine ⟨validator, (lookup_persistValidators distinct).mpr (.inr ⟨?_, found⟩)⟩
        exact fun v member named => attested ⟨v, member, named⟩
  | @slashed _ v _ found slashed =>
    have there : (store.validators.lookup v.address).isSome := by
      rw [filed.keyed.validator _ v found, found]
      rfl
    have same : SameValidators (store.setValidator
        { v with isActive := false, slashCount := v.slashCount + 1 }) store :=
      sameValidators_setValidator there
    refine iff_of_true (slashed.accounts.ready (kept rfl rfl fun address before => ?_)) trivial
    exact (same address).trans before
  | snapshotted taken =>
    obtain ⟨snapshots, rfl, -⟩ := taken
    exact iff_of_true (kept rfl rfl fun _ there => there) trivial
  | kept refused same =>
    exact iff_of_true (same.accounts.ready ready) (refused.spelled deployment)

end Step

section Runs

/-- A snapshot can be taken in every epoch that has none. -/
def Snapshottable (store : Store) : Prop :=
  ∀ epoch, store.delegationSnapshots.lookup epoch = none → Snapshots deployment store epoch

variable {deployment} {store : Store}

theorem Filed.snapshottable_iff (filed : Filed deployment store) :
    Snapshottable deployment store ↔ Ready deployment store := by
  constructor
  · intro every
    exact (filed.keyed.snapshots_iff deployment filed.resolved filed.later).mp (every 2 filed.later)
  · intro ready epoch fresh
    exact (filed.keyed.snapshots_iff deployment filed.resolved fresh).mpr ready

variable (deployment)

/-- What a run of calls that are spelt so keeps. -/
structure Prepared (store : Store) : Prop where
  filed : Filed deployment store
  ready : Ready deployment store

theorem Prepared.empty : Prepared deployment {} := by
  have none (staker : StakerRecord) : ¬Holds {} staker := by
    rintro ⟨⟨address, ⟨⟩⟩, -⟩
  refine ⟨.empty deployment, rfl, ?_, ?_⟩
  · intro first second holds
    exact absurd holds (none first)
  · intro staker holds
    exact absurd holds (none staker)

theorem Prepared.step (store : Store) (call : Call) (spelled : Spelled deployment store call)
    (prepared : Prepared deployment store) : Prepared deployment (store.step deployment call) :=
  ⟨prepared.filed.step deployment store call,
    (prepared.ready.step_iff deployment prepared.filed call).mpr spelled⟩

/-- A snapshot can be taken after every call of a run exactly if every call is spelt so. -/
theorem snapshottable_run_iff (calls : List Call) :
    (∀ first, first <+: calls →
        Snapshottable deployment (Run.exec (step deployment) {} first)) ↔
      Run.Along (step deployment) (Spelled deployment) {} calls :=
  Run.forall_prefix_iff (Prepared.step deployment)
    (fun _ prepared => prepared.filed.snapshottable_iff.mpr prepared.ready)
    (fun store call prepared after => (prepared.ready.step_iff deployment prepared.filed call).mp
      ((prepared.filed.step deployment store call).snapshottable_iff.mp after))
    (Prepared.empty deployment) calls

end Runs

def twoSpellings : List Call :=
  [.stake "00000000000000000000000000000000000000aa" 32_000_000 "val-1",
    .stake "0x00000000000000000000000000000000000000aa" 32_000_000 "val-1"]

def spelledStaker (address : String) : StakerRecord :=
  ⟨address, "00000000000000000000000000000000000000aa", 32_000_000, 32_000_000, "val-1"⟩

/-- An address with and without `0x` is two stakers and one entry. -/
theorem not_snapshottable_two_spellings :
    ¬Snapshottable sampleDeployment
      (Run.exec (step sampleDeployment) {} (sampleSelection ++ twoSpellings)) := by
  have filed := Run.invariant_of_step (Filed sampleDeployment) (Filed.step sampleDeployment)
    (sampleSelection ++ twoSpellings) (Filed.empty sampleDeployment)
  rw [filed.snapshottable_iff, Run.exec_append, exec_sampleSelection]
  intro ready
  have first : Holds (Run.exec (step sampleDeployment) sampleStore twoSpellings)
      (spelledStaker "00000000000000000000000000000000000000aa") :=
    ⟨⟨"00000000000000000000000000000000000000aa", by decide +kernel⟩, by decide⟩
  have second : Holds (Run.exec (step sampleDeployment) sampleStore twoSpellings)
      (spelledStaker "0x00000000000000000000000000000000000000aa") :=
    ⟨⟨"0x00000000000000000000000000000000000000aa", by decide +kernel⟩, by decide⟩
  exact absurd (ready.listed.distinct _ _ first second rfl) (by decide)

end Vault.Store
