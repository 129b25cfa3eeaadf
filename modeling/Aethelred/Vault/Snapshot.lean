import Aethelred.Vault.StakingSteps

/- The snapshot of the delegations: which stores it can be taken of, and what it then holds. -/
namespace Vault.Store

open Go Attempt List

variable (deployment : Deployment)

section Resolve

variable {deployment} {address evmAddr : String}

theorem resolveEvmAddress_ne_empty (resolved : resolveEvmAddress deployment address = some evmAddr) :
    evmAddr ≠ "" := by
  rintro rfl
  unfold resolveEvmAddress at resolved
  dsimp only at resolved
  split at resolved
  next bytes decoded =>
    rw [Option.some.inj resolved] at decoded
    have none : decodeExactly 20 "" = none := by decide
    rw [none] at decoded
    cases decoded
  · obtain ⟨bytes, kept, encoded⟩ := Option.map_eq_some_iff.mp resolved
    have length := of_decide_eq_true (Option.filter_eq_some_iff.mp kept).2
    have chars := congrArg String.length encoded
    rw [Hex.length_encodeToString, length] at chars
    exact absurd chars (by decide)

end Resolve

section Collect

variable {seen : List String} {stakers : List StakerRecord} {entries : List StakerStakeEntry}

def holding (stakers : List StakerRecord) : List StakerRecord :=
  stakers.filter fun staker => staker.shares ≠ 0

def entryOf (staker : StakerRecord) : StakerStakeEntry :=
  ⟨deployment.toLower staker.evmAddress, staker.shares, deployment.toLower staker.delegatedTo⟩

theorem map_eq_ok_iff {ε α β : Type} {result : Except ε α} {f : α → β} {value : β} :
    result.map f = .ok value ↔ ∃ before, result = .ok before ∧ value = f before := by
  cases result with
  | error reason => exact iff_of_false nofun fun ⟨_, impossible, _⟩ => nomatch impossible
  | ok before => simp [Except.map, eq_comm]

/-- When the stakers' entries are collected. -/
theorem collectFrom_eq_ok_iff (named : ∀ staker ∈ stakers, staker.evmAddress ≠ "") :
    collectFrom deployment seen stakers = .ok entries ↔
      entries = (holding stakers).map (entryOf deployment) ∧
        ((holding stakers).map fun staker => deployment.toLower staker.evmAddress).Nodup ∧
        ∀ staker ∈ holding stakers, deployment.toLower staker.evmAddress ∉ seen := by
  induction stakers generalizing seen entries with
  | nil => simp [collectFrom, holding, eq_comm]
  | cons staker rest ih =>
    obtain ⟨first, named⟩ := forall_mem_cons.mp named
    rw [collectFrom]
    by_cases empty : staker.shares = 0
    · have skipped : holding (staker :: rest) = holding rest :=
        filter_cons_of_neg (by simp [empty])
      rw [if_pos empty, ih named, skipped]
    · have kept : holding (staker :: rest) = staker :: holding rest :=
        filter_cons_of_pos (by simp [empty])
      rw [if_neg empty, entryAddress, if_neg first, kept]
      dsimp only
      by_cases twice : deployment.toLower staker.evmAddress ∈ seen
      · rw [if_pos twice]
        refine iff_of_false nofun ?_
        rintro ⟨-, -, unseen⟩
        exact unseen staker (mem_cons_self ..) twice
      · rw [if_neg twice, map_eq_ok_iff]
        constructor
        · rintro ⟨tail, collected, rfl⟩
          obtain ⟨rfl, distinct, unseen⟩ := (ih named).mp collected
          refine ⟨rfl, nodup_cons.mpr ⟨fun again => ?_, distinct⟩, ?_⟩
          · obtain ⟨other, member, same⟩ := mem_map.mp again
            exact unseen other member (same ▸ mem_cons_self ..)
          · refine forall_mem_cons.mpr ⟨twice, fun other member before => ?_⟩
            exact unseen other member (mem_cons_of_mem _ before)
        · rintro ⟨rfl, distinct, unseen⟩
          obtain ⟨once, distinct⟩ := nodup_cons.mp distinct
          obtain ⟨-, unseen⟩ := forall_mem_cons.mp unseen
          refine ⟨_, (ih named).mpr ⟨rfl, distinct, fun other member => ?_⟩, rfl⟩
          rw [mem_cons, not_or]
          refine ⟨fun same => once ?_, unseen other member⟩
          exact mem_map.mpr ⟨other, member, same⟩

end Collect

section Walk

variable {store : Store} {staker : StakerRecord}

theorem checkDelegations_eq_ok_iff {entries : List StakerStakeEntry} :
    checkDelegations store entries = .ok () ↔
      ∀ entry ∈ entries, entry.delegatedTo ≠ "" ∧
        (store.validators.lookup entry.delegatedTo).isSome := by
  induction entries with
  | nil => simp [checkDelegations]
  | cons entry rest ih =>
    rw [checkDelegations, forall_mem_cons]
    by_cases nowhere : entry.delegatedTo = ""
    · rw [if_pos nowhere]
      exact iff_of_false nofun fun right => right.1.1 nowhere
    · rw [if_neg nowhere]
      cases found : store.validators.lookup entry.delegatedTo with
      | none => exact iff_of_false nofun fun right => nomatch right.1.2
      | some validator => simp [ih, nowhere]

theorem mem_walkStakers : staker ∈ store.walkStakers ↔
    ∃ address, store.stakers.lookup address = some staker := by
  unfold walkStakers
  rw [mem_filterMap]
  constructor
  · rintro ⟨address, -, found⟩
    exact ⟨address, found⟩
  · rintro ⟨address, found⟩
    exact ⟨address, mem_mergeSort.mpr (Map.mem_keys_iff.mpr ⟨staker, found⟩), found⟩

theorem sum_filterMap_lookup (keys : List String) (amount : StakerRecord → Nat) :
    ((keys.filterMap store.stakers.lookup).map amount).sum =
      (keys.map fun key => Map.share amount (store.stakers.lookup key)).sum := by
  induction keys with
  | nil => rfl
  | cons key rest ih =>
    rw [filterMap_cons, map_cons, sum_cons, ← ih]
    cases store.stakers.lookup key with
    | none => simp
    | some staker => simp

theorem sum_walkStakers (store : Store) (amount : StakerRecord → Nat) :
    (store.walkStakers.map amount).sum = store.stakers.sum amount := by
  rw [walkStakers, sum_filterMap_lookup]
  exact Perm.sum_eq ((mergeSort_perm _ _).map _)

theorem sum_holding (stakers : List StakerRecord) :
    ((holding stakers).map (·.shares.toNat)).sum = (stakers.map (·.shares.toNat)).sum := by
  induction stakers with
  | nil => rfl
  | cons staker rest ih =>
    by_cases empty : staker.shares = 0
    · have skipped : holding (staker :: rest) = holding rest :=
        filter_cons_of_neg (by simp [empty])
      rw [skipped, ih, map_cons, sum_cons, empty]
      exact (Nat.zero_add _).symm
    · have kept : holding (staker :: rest) = staker :: holding rest :=
        filter_cons_of_pos (by simp [empty])
      rw [kept, map_cons, map_cons, sum_cons, sum_cons, ih]

theorem Keyed.nodup_walkStakers (keyed : store.Keyed) : store.walkStakers.Nodup := by
  have distinct : (store.stakers.keys.mergeSort fun first second => decide (first ≤ second)).Nodup :=
    (mergeSort_perm _ _).nodup_iff.mpr store.stakers.keys_nodup
  refine Nodup.filterMap (fun first second staker one other => ?_) distinct
  rw [← (keyed.staker first staker one).1, (keyed.staker second staker other).1]

end Walk

section Snapshot

variable {store : Store} {epoch : UInt64}

/-- A staker with shares. -/
def Holds (store : Store) (staker : StakerRecord) : Prop :=
  (∃ address, store.stakers.lookup address = some staker) ∧ staker.shares ≠ 0

/-- Every record has the EVM address of its staker. -/
def Resolved (store : Store) : Prop :=
  ∀ address staker, store.stakers.lookup address = some staker →
    resolveEvmAddress deployment address = some staker.evmAddress

/-- Every staker with shares can be listed: under an address of its own, and with a validator that
is registered in lower case. -/
structure Listed (store : Store) : Prop where
  distinct : ∀ first second, store.Holds first → store.Holds second →
    deployment.toLower first.evmAddress = deployment.toLower second.evmAddress → first = second
  registered : ∀ staker, store.Holds staker →
    (store.validators.lookup (deployment.toLower staker.delegatedTo)).isSome

/-- Shares add up, and the listing is that of the stakers. -/
structure Ready (store : Store) : Prop where
  shares : store.totalShares.toNat = store.stakers.sum (·.shares.toNat)
  listed : Listed deployment store

/-- In an epoch the snapshot can be taken, its addresses are distinct and its shares are the total. -/
def Snapshots (store : Store) (epoch : UInt64) : Prop :=
  ∃ entries, snapshotDelegationState deployment { store with currentEpoch := epoch } =
      (.ok (), { store with
        currentEpoch := epoch
        delegationSnapshots := store.delegationSnapshots.insert epoch entries }) ∧
    (entries.map (·.address)).Nodup ∧
    (entries.map (·.shares.toNat)).sum = store.totalShares.toNat

theorem toLower_ne_empty {text : String} (some : text ≠ "") : deployment.toLower text ≠ "" := by
  intro empty
  refine some (String.toList_inj.mp ?_)
  have chars := congrArg String.toList empty
  rw [Deployment.toLower, String.toList_ofList] at chars
  exact map_eq_nil_iff.mp chars

theorem mem_holding_walkStakers {staker : StakerRecord} :
    staker ∈ holding store.walkStakers ↔ store.Holds staker := by
  rw [holding, mem_filter, mem_walkStakers, Holds]
  simp

/-- A snapshot is refused and nothing changes, or it is filed. -/
theorem snapshotDelegationState_cases
    (fresh : store.delegationSnapshots.lookup store.currentEpoch = none) :
    (∃ reason, snapshotDelegationState deployment store = (.error reason, store) ∧
        ∀ entries, collectStakerEntries deployment store = .ok entries →
          checkDelegations store entries ≠ .ok ()) ∨
      ∃ entries, snapshotDelegationState deployment store = (.ok (), { store with
          delegationSnapshots := store.delegationSnapshots.insert store.currentEpoch entries }) ∧
        collectStakerEntries deployment store = .ok entries ∧
        checkDelegations store entries = .ok () := by
  rw [snapshotDelegationState, read_bind, ensure_bind, if_pos (by rw [fresh]; rfl)]
  cases collectStakerEntries deployment store with
  | error reason => exact .inl ⟨_, rfl, nofun⟩
  | ok collected =>
    cases checked : checkDelegations store collected with
    | error reason =>
      refine .inl ⟨reason, ?_, fun entries same => ?_⟩
      · change (ofExcept (checkDelegations store collected) >>= _) store = _
        rw [checked]
        rfl
      · cases same
        rw [checked]
        exact nofun
    | ok value =>
      refine .inr ⟨collected, ?_, rfl, checked⟩
      change (ofExcept (checkDelegations store collected) >>= _) store = _
      rw [checked]
      rfl

section

variable (keyed : store.Keyed) (resolved : Resolved deployment store)
include keyed resolved

/-- The entries pass all checks exactly if the store is ready. -/
theorem Keyed.entries_iff :
    (∃ entries, collectStakerEntries deployment store = .ok entries ∧
        checkDelegations store entries = .ok () ∧ (entries.map (·.address)).Nodup ∧
        (entries.map (·.shares.toNat)).sum = store.totalShares.toNat) ↔
      Ready deployment store := by
  have named : ∀ staker ∈ store.walkStakers, staker.evmAddress ≠ "" := by
    intro staker member
    obtain ⟨address, found⟩ := mem_walkStakers.mp member
    exact resolveEvmAddress_ne_empty (resolved address staker found)
  have distinct_iff : ((holding store.walkStakers).map fun staker =>
      deployment.toLower staker.evmAddress).Nodup ↔
      ∀ first second, store.Holds first → store.Holds second →
        deployment.toLower first.evmAddress = deployment.toLower second.evmAddress →
        first = second := by
    have once : (holding store.walkStakers).Nodup := keyed.nodup_walkStakers.filter _
    rw [nodup_map_iff_inj_on once]
    constructor
    · intro inj first second one other
      exact inj first (mem_holding_walkStakers.mpr one) second (mem_holding_walkStakers.mpr other)
    · intro inj first one second other
      exact inj first second (mem_holding_walkStakers.mp one) (mem_holding_walkStakers.mp other)
  have registered_iff : checkDelegations store
      ((holding store.walkStakers).map (entryOf deployment)) = .ok () ↔
      ∀ staker, store.Holds staker →
        (store.validators.lookup (deployment.toLower staker.delegatedTo)).isSome := by
    rw [checkDelegations_eq_ok_iff, forall_mem_map]
    constructor
    · intro right staker holds
      exact (right staker (mem_holding_walkStakers.mpr holds)).2
    · intro right staker member
      have holds := mem_holding_walkStakers.mp member
      obtain ⟨address, found⟩ := holds.1
      exact ⟨toLower_ne_empty deployment (keyed.staker address staker found).2, right staker holds⟩
  have shares : (((holding store.walkStakers).map (entryOf deployment)).map
      (·.shares.toNat)).sum = store.stakers.sum (·.shares.toNat) := by
    rw [map_map]
    exact (sum_holding store.walkStakers).trans (sum_walkStakers store _)
  unfold collectStakerEntries
  constructor
  · rintro ⟨entries, collected, checked, -, sum⟩
    obtain ⟨rfl, distinct, -⟩ := (collectFrom_eq_ok_iff deployment named).mp collected
    exact ⟨sum.symm.trans shares, distinct_iff.mp distinct, registered_iff.mp checked⟩
  · rintro ⟨total, ⟨distinct, registered⟩⟩
    have once := distinct_iff.mpr distinct
    refine ⟨_, (collectFrom_eq_ok_iff deployment named).mpr ⟨rfl, once, fun _ _ => not_mem_nil⟩,
      registered_iff.mpr registered, ?_, shares.trans total.symm⟩
    rw [map_map]
    exact once

/-- A snapshot succeeds exactly if the store is ready. -/
theorem Keyed.snapshots_iff
    (fresh : store.delegationSnapshots.lookup epoch = none) :
    Snapshots deployment store epoch ↔ Ready deployment store := by
  obtain ⟨current, now⟩ : ∃ current : Store, current = { store with currentEpoch := epoch } :=
    ⟨_, rfl⟩
  have keyed' : current.Keyed := by
    rw [now]
    exact ⟨keyed.staker, keyed.validator, keyed.request⟩
  have resolved' : Resolved deployment current := by
    rw [now]
    exact resolved
  have fresh' : current.delegationSnapshots.lookup current.currentEpoch = none := by
    rw [now]
    exact fresh
  have ready : Ready deployment current ↔ Ready deployment store := by
    rw [now]
    exact ⟨fun ready => ⟨ready.shares, ready.listed.distinct, ready.listed.registered⟩,
      fun ready => ⟨ready.shares, ready.listed.distinct, ready.listed.registered⟩⟩
  rw [← ready, ← keyed'.entries_iff deployment resolved']
  have taken := snapshotDelegationState_cases deployment fresh'
  have total : current.totalShares = store.totalShares := by rw [now]
  rw [Snapshots, ← now, total]
  constructor
  · rintro ⟨entries, done, distinct, sum⟩
    rcases taken with ⟨reason, failed, -⟩ | ⟨others, again, collected, checked⟩
    · rw [failed] at done
      cases done
    · rw [again, now] at done
      have same := congrArg (fun result => result.2.delegationSnapshots.lookup epoch) done
      simp only [AList.lookup_insert, Option.some.injEq] at same
      subst same
      exact ⟨others, collected, checked, distinct, sum⟩
  · rintro ⟨entries, collected, checked, distinct, sum⟩
    rcases taken with ⟨reason, -, never⟩ | ⟨others, done, same, -⟩
    · exact absurd checked (never entries collected)
    · obtain rfl : entries = others := Except.ok.inj (collected.symm.trans same)
      refine ⟨entries, ?_, distinct, sum⟩
      rw [done, now]

end

end Snapshot

end Vault.Store
