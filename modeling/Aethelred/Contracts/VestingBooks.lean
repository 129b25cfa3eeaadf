import Aethelred.Contracts.VestingCurve

/- The books of the vesting contract: which schedules each account is listed with, and that what
was released stays within what has vested and what was allocated. -/
namespace AethelredVesting

open Evm List Nat

section Lists

variable {id other : Bytes32} {ids : List Bytes32}

theorem removeBeneficiarySchedule_perm (id : Bytes32) (ids : List Bytes32) :
    (removeBeneficiarySchedule id ids).Perm (ids.erase id) := by
  induction ids with
  | nil => exact Perm.refl _
  | cons first rest ih =>
    unfold removeBeneficiarySchedule
    by_cases same : first = id
    · subst same
      rw [if_pos rfl, erase_cons_head]
      cases last : rest.getLast? with
      | none =>
        rw [getLast?_eq_none_iff.mp last]
      | some value =>
        obtain ⟨front, rfl⟩ := getLast?_eq_some_iff.mp last
        rw [dropLast_concat]
        exact @List.perm_append_comm _ [value] _
    · have differ : ¬(first == id) = true := fun equal => same (eq_of_beq equal)
      rw [if_neg same, erase_cons_tail differ]
      exact ih.cons first

/-- Every account is listed with the schedules it is the beneficiary of, each of them once, and
with no more than there may be. -/
structure Indexed (vesting : Storage) : Prop where
  nodup : ∀ account, (vesting.beneficiarySchedules account).Nodup
  listed : ∀ account id, id ∈ vesting.beneficiarySchedules account ↔
    (vesting.schedules id).beneficiary = account ∧ account ≠ 0
  bounded : ∀ account,
    (vesting.beneficiarySchedules account).length ≤ MAX_SCHEDULES_PER_BENEFICIARY

variable {vesting after : Storage} {new : VestingSchedule} {account : Address}

section

variable (indexed : Indexed vesting) (free : (vesting.schedules id).beneficiary = 0)
include indexed free

theorem Indexed.unlisted :
    id ∉ vesting.beneficiarySchedules account := by
  intro member
  obtain ⟨own, someone⟩ := (indexed.listed account id).mp member
  exact someone (own.symm.trans free)

/-- A schedule is listed with its new beneficiary. -/
theorem Indexed.assign
    (someone : new.beneficiary ≠ 0)
    (room : (vesting.beneficiarySchedules new.beneficiary).length < MAX_SCHEDULES_PER_BENEFICIARY)
    (schedules : after.schedules = Function.update vesting.schedules id new)
    (lists : after.beneficiarySchedules = Function.update vesting.beneficiarySchedules
      new.beneficiary (vesting.beneficiarySchedules new.beneficiary ++ [id])) : Indexed after where
  nodup account := by
    rw [lists, Function.update_apply]
    split
    · apply nodup_append_comm.mp
      exact nodup_cons.mpr ⟨indexed.unlisted free, indexed.nodup new.beneficiary⟩
    · exact indexed.nodup account
  listed account other := by
    have before := indexed.listed account other
    rw [lists, schedules, Function.update_apply, Function.update_apply]
    by_cases same : other = id
    · subst same
      rw [if_pos rfl]
      by_cases own : account = new.beneficiary
      · subst own
        rw [if_pos rfl]
        exact ⟨fun _ => ⟨rfl, someone⟩, fun _ => mem_concat_self⟩
      · rw [if_neg own]
        exact ⟨fun member => absurd member (indexed.unlisted free),
          fun given => absurd given.1.symm own⟩
    · rw [if_neg same]
      by_cases own : account = new.beneficiary
      · rw [← own, if_pos rfl, mem_append, mem_singleton, ← before]
        exact or_iff_left same
      · rw [if_neg own]
        exact before
  bounded account := by
    rw [lists, Function.update_apply]
    split
    · rw [length_append]
      exact room
    · exact indexed.bounded account

end

/-- A schedule without a beneficiary is listed nowhere. -/
theorem Indexed.unassign (indexed : Indexed vesting)
    (schedules : after.schedules = Function.update vesting.schedules id new)
    (nobody : new.beneficiary = 0)
    (lists : after.beneficiarySchedules = Function.update vesting.beneficiarySchedules
      (vesting.schedules id).beneficiary (removeBeneficiarySchedule id
        (vesting.beneficiarySchedules (vesting.schedules id).beneficiary))) : Indexed after := by
  have rest := removeBeneficiarySchedule_perm id
    (vesting.beneficiarySchedules (vesting.schedules id).beneficiary)
  refine ⟨fun account => ?_, fun account other => ?_, fun account => ?_⟩
  · rw [lists, Function.update_apply]
    split
    · exact rest.nodup_iff.mpr ((indexed.nodup _).erase id)
    · exact indexed.nodup account
  · have before := indexed.listed account other
    rw [lists, schedules, Function.update_apply, Function.update_apply]
    by_cases own : account = (vesting.schedules id).beneficiary
    · subst own
      rw [if_pos rfl, rest.mem_iff, (indexed.nodup _).mem_erase_iff]
      by_cases same : other = id
      · subst same
        rw [if_pos rfl, nobody]
        exact ⟨fun member => absurd rfl member.1, fun given => absurd given.1.symm given.2⟩
      · rw [if_neg same, before]
        exact and_iff_right same
    · rw [if_neg own]
      by_cases same : other = id
      · subst same
        rw [if_pos rfl, nobody, before]
        exact ⟨fun given => absurd given.1.symm own, fun given => absurd given.1.symm given.2⟩
      · rw [if_neg same]
        exact before
  · rw [lists, Function.update_apply]
    split
    · rw [rest.length_eq]
      exact length_erase_le.trans (indexed.bounded _)
    · exact indexed.bounded account

end Lists

def VestingSchedule.share (schedule : VestingSchedule) : Nat :=
  if schedule.revoked then schedule.releasedAmount else schedule.totalAmount

/-- What holds of each schedule; an id that was not used has an empty one. -/
structure VestingSchedule.Kept (chain : Chain) (schedule : VestingSchedule) : Prop where
  sized : schedule.Sized
  blank : schedule.beneficiary = 0 → schedule.totalAmount = 0 ∧ schedule.releasedAmount = 0
  released : schedule.revoked = false → schedule.releasedAmount ≤ vestedOf chain schedule

/-- The totals of the contract are sums over its schedules. -/
structure Ledger (chain : Chain) : Prop where
  kept : ∀ id, (chain.vesting.schedules id).Kept chain
  released : total VestingSchedule.releasedAmount chain.vesting.schedules =
    chain.vesting.totalReleased
  allocated : total VestingSchedule.share chain.vesting.schedules = chain.vesting.totalAllocated
  bounded : chain.vesting.totalAllocated < wordBound
  categories : ∀ category, chain.vesting.categoryReleased category ≤ chain.vesting.totalReleased

section Vested

variable {chain next : Chain} {schedule : VestingSchedule}

/-- Time and token generation event are as before. -/
structure SameClock (chain next : Chain) : Prop where
  now : next.block.timestamp = chain.block.timestamp
  occurred : next.vesting.tgeOccurred = chain.vesting.tgeOccurred
  tge : next.vesting.tgeTime = chain.vesting.tgeTime

theorem SameClock.vestedOf (same : SameClock chain next) :
    vestedOf next schedule = AethelredVesting.vestedOf chain schedule := by
  unfold AethelredVesting.vestedOf endOf startOf
  rw [same.now, same.occurred, same.tge]

theorem vestedOf_le (sized : schedule.Sized) : vestedOf chain schedule ≤ schedule.totalAmount := by
  unfold vestedOf
  split
  · exact zero_le _
  · split
    · exact zero_le _
    · exact sized.unlocked_le _

theorem VestingSchedule.Kept.released_le_share (kept : schedule.Kept chain) :
    schedule.releasedAmount ≤ schedule.share := by
  unfold VestingSchedule.share
  split
  · exact le_refl _
  next active =>
    exact (kept.released (Bool.eq_false_of_not_eq_true active)).trans (vestedOf_le kept.sized)

theorem VestingSchedule.Kept.clock (kept : schedule.Kept chain) (same : SameClock chain next) :
    schedule.Kept next where
  sized := kept.sized
  blank := kept.blank
  released active := by
    rw [same.vestedOf]
    exact kept.released active

def releasable (chain : Chain) (id : Bytes32) : Nat := (getReleasable chain id).toOption.getD 0

theorem VestingSchedule.Kept.computeReleasable_eq (kept : schedule.Kept chain)
    (active : schedule.revoked = false) : computeReleasable chain schedule =
      .ok (vestedOf chain schedule - schedule.releasedAmount) := by
  have fits := kept.released active
  rw [computeReleasable, computeVested_eq kept.sized]
  show checkedSub Error.arithmetic _ _ = _
  rw [checkedSub, if_pos fits]

section

variable {id : Bytes32} (kept : (chain.vesting.schedules id).Kept chain)
include kept

theorem VestingSchedule.Kept.getReleasable_eq :
    getReleasable chain id = .ok (if (chain.vesting.schedules id).beneficiary = 0 ∨
      (chain.vesting.schedules id).revoked = true then 0
      else vestedOf chain (chain.vesting.schedules id) -
        (chain.vesting.schedules id).releasedAmount) := by
  unfold getReleasable
  by_cases blank : (chain.vesting.schedules id).beneficiary = 0
  · simp only [blank, if_true, true_or]
  · by_cases revoked : (chain.vesting.schedules id).revoked = true
    · simp only [blank, revoked, if_false, if_true, or_true]
    · simp only [blank, revoked, if_false]
      exact kept.computeReleasable_eq (Bool.eq_false_of_not_eq_true revoked)

theorem VestingSchedule.Kept.releasable_eq :
    releasable chain id = if (chain.vesting.schedules id).beneficiary = 0 ∨
      (chain.vesting.schedules id).revoked = true then 0
      else vestedOf chain (chain.vesting.schedules id) -
        (chain.vesting.schedules id).releasedAmount := by
  rw [releasable, kept.getReleasable_eq]
  rfl

end

end Vested

section Booking

variable {chain next : Chain} {id : Bytes32} {amount : Nat}

def booked (id : Bytes32) (amount : Nat) (chain : Chain) : Chain :=
  let schedule := chain.vesting.schedules id
  { chain with
    vesting.schedules := Function.update chain.vesting.schedules id
      { schedule with releasedAmount := schedule.releasedAmount + amount }
    vesting.totalReleased := chain.vesting.totalReleased + amount
    vesting.categoryReleased := Function.update chain.vesting.categoryReleased schedule.category
      (chain.vesting.categoryReleased schedule.category + amount) }

theorem sameClock_booked : SameClock chain (booked id amount chain) := ⟨rfl, rfl, rfl⟩

/-- Booking what has vested keeps the totals. -/
theorem Ledger.after_booked (ledger : Ledger chain)
    (active : (chain.vesting.schedules id).revoked = false)
    (someone : (chain.vesting.schedules id).beneficiary ≠ 0)
    (vested : (chain.vesting.schedules id).releasedAmount + amount ≤
      vestedOf chain (chain.vesting.schedules id)) : Ledger (booked id amount chain) where
  kept other := by
    have same : SameClock chain (booked id amount chain) := sameClock_booked
    have before := (ledger.kept other).clock same
    simp only [booked, Function.update_apply]
    split
    next same =>
      subst same
      have sized := before.sized
      exact ⟨⟨sized.upfront, sized.total, sized.fits⟩, fun blank => absurd blank someone,
        fun _ => vested⟩
    · exact before
  released := by
    have changed := total_update VestingSchedule.releasedAmount chain.vesting.schedules id
      { chain.vesting.schedules id with
        releasedAmount := (chain.vesting.schedules id).releasedAmount + amount }
    have sum := ledger.released
    simp only [booked] at changed ⊢
    omega
  allocated := by
    refine (total_update_same ?_).trans ledger.allocated
    simp only [VestingSchedule.share, active, Bool.false_eq_true, if_false]
  bounded := ledger.bounded
  categories category := by
    have before := ledger.categories category
    simp only [booked, Function.update_apply]
    split
    next same =>
      subst same
      exact Nat.add_le_add_right before amount
    · exact before.trans (le_add_right _ _)

theorem Ledger.released_le (ledger : Ledger chain) :
    chain.vesting.totalReleased ≤ chain.vesting.totalAllocated := by
  rw [← ledger.released, ← ledger.allocated]
  exact Finset.sum_le_sum fun id _ => (ledger.kept id).released_le_share

theorem Ledger.book_eq (ledger : Ledger chain)
    (active : (chain.vesting.schedules id).revoked = false)
    (someone : (chain.vesting.schedules id).beneficiary ≠ 0)
    (vested : (chain.vesting.schedules id).releasedAmount + amount ≤
      vestedOf chain (chain.vesting.schedules id)) :
    book id amount chain = .ok (booked id amount chain) := by
  have room : chain.vesting.totalReleased + amount ≤ chain.vesting.totalAllocated :=
    (ledger.after_booked active someone vested).released_le
  have bounded := ledger.bounded
  have own := weight_le_total VestingSchedule.releasedAmount chain.vesting.schedules id
  rw [ledger.released] at own
  have category := ledger.categories (chain.vesting.schedules id).category
  unfold book
  simp only [checkedAdd_bind_eq_ok]
  exact ⟨by omega, by omega, by omega, rfl⟩

theorem releasable_booked_of_ne {other : Bytes32} (differ : other ≠ id) :
    releasable (booked id amount chain) other = releasable chain other := by
  unfold releasable getReleasable computeReleasable computeVested
  simp only [booked, Function.update_of_ne differ]

end Booking

section Release

variable {chain : Chain} {env : Environment}

/-- A payment changes amounts only. -/
structure Paid (chain next : Chain) : Prop where
  beneficiaries : ∀ id, (next.vesting.schedules id).beneficiary =
    (chain.vesting.schedules id).beneficiary
  revocations : ∀ id, (next.vesting.schedules id).revoked = (chain.vesting.schedules id).revoked
  untouched : ∀ id, (chain.vesting.schedules id).revoked = true →
    next.vesting.schedules id = chain.vesting.schedules id
  lists : next.vesting.beneficiarySchedules = chain.vesting.beneficiarySchedules
  count : next.vesting.scheduleCount = chain.vesting.scheduleCount

theorem Paid.refl (chain : Chain) : Paid chain chain :=
  ⟨fun _ => rfl, fun _ => rfl, fun _ _ => rfl, rfl, rfl⟩

theorem Paid.trans {middle last : Chain} (first : Paid chain middle) (second : Paid middle last) :
    Paid chain last where
  beneficiaries id := (second.beneficiaries id).trans (first.beneficiaries id)
  revocations id := (second.revocations id).trans (first.revocations id)
  untouched id gone := by
    rw [second.untouched id ((first.revocations id).trans gone), first.untouched id gone]
  lists := second.lists.trans first.lists
  count := second.count.trans first.count

theorem paid_booked {id : Bytes32} (active : (chain.vesting.schedules id).revoked = false)
    (amount : Nat) : Paid chain (booked id amount chain) where
  beneficiaries other := by
    simp only [booked, Function.update_apply]
    split
    next same => rw [same]
    · rfl
  revocations other := by
    simp only [booked, Function.update_apply]
    split
    next same => rw [same]
    · rfl
  untouched other gone := by
    have differ : other ≠ id := by
      intro same
      rw [same, active] at gone
      exact Bool.false_ne_true gone
    exact Function.update_of_ne differ ..
  lists := rfl
  count := rfl

/-- The loop books what is releasable of every schedule. -/
theorem Ledger.bookAll_eq (ledger : Ledger chain) {ids : List Bytes32} (distinct : ids.Nodup)
    (owned : ∀ id ∈ ids, (chain.vesting.schedules id).beneficiary ≠ 0) {sum : Nat}
    (small : sum ≤ chain.vesting.totalReleased) :
    ∃ next, bookAll ids sum chain = .ok (next, sum + (ids.map (releasable chain)).sum) ∧
      Ledger next ∧ Paid chain next ∧ next.token = chain.token := by
  induction ids generalizing chain sum with
  | nil => exact ⟨chain, rfl, ledger, Paid.refl chain, rfl⟩
  | cons id rest ih =>
    obtain ⟨fresh, distinct⟩ := nodup_cons.mp distinct
    have someone := owned id mem_cons_self
    have others : ∀ other ∈ rest, (chain.vesting.schedules other).beneficiary ≠ 0 :=
      fun other member => owned other (mem_cons_of_mem _ member)
    have kept := ledger.kept id
    have worth := kept.releasable_eq
    unfold bookAll
    rw [map_cons, sum_cons]
    by_cases revoked : (chain.vesting.schedules id).revoked = true
    · rw [if_pos (Or.inr revoked)] at worth
      rw [if_pos revoked, worth, zero_add]
      exact ih ledger distinct others small
    · have active := Bool.eq_false_of_not_eq_true revoked
      have fits := kept.released active
      rw [if_neg fun either => either.elim someone revoked] at worth
      have computed := kept.computeReleasable_eq active
      rw [← worth] at computed
      rw [if_neg revoked, computed]
      show ∃ next, (if 0 < releasable chain id then _ else _) = _ ∧ _
      by_cases positive : 0 < releasable chain id
      · have vested : (chain.vesting.schedules id).releasedAmount + releasable chain id ≤
            vestedOf chain (chain.vesting.schedules id) := by omega
        have more := ledger.after_booked active someone vested
        have first := paid_booked active (releasable chain id)
        have room : chain.vesting.totalReleased + releasable chain id ≤
            chain.vesting.totalAllocated := more.released_le
        have bounded := ledger.bounded
        have same : rest.map (releasable (booked id (releasable chain id) chain)) =
            rest.map (releasable chain) := by
          refine map_congr_left fun other member => releasable_booked_of_ne ?_
          intro this
          exact fresh (this ▸ member)
        have still : ∀ other ∈ rest, ((booked id (releasable chain id)
            chain).vesting.schedules other).beneficiary ≠ 0 := by
          intro other member
          rw [first.beneficiaries]
          exact others other member
        obtain ⟨next, done, books, second, token⟩ :=
          ih more distinct still (Nat.add_le_add_right small (releasable chain id))
        refine ⟨next, ?_, books, first.trans second, token⟩
        rw [if_pos positive, ledger.book_eq active someone vested]
        show (checkedAdd .arithmetic sum (releasable chain id) >>= fun total =>
          bookAll rest total (booked id (releasable chain id) chain)) = _
        rw [checkedAdd_bind_eq_ok, done, same, add_assoc]
        exact ⟨by omega, rfl⟩
      · rw [if_neg positive, Nat.eq_zero_of_not_pos positive, Nat.zero_add]
        exact ih ledger distinct others small

/-- What an account can release of all schedules it is the beneficiary of. The sum is over all
words, so it is never to be computed. -/
@[irreducible] def owed (chain : Chain) (account : Address) : Nat :=
  ∑ id : Bytes32, if (chain.vesting.schedules id).beneficiary = account then releasable chain id
    else 0

theorem Ledger.releasable_blank (ledger : Ledger chain) {id : Bytes32}
    (blank : (chain.vesting.schedules id).beneficiary = 0) : releasable chain id = 0 := by
  rw [(ledger.kept id).releasable_eq, if_pos (Or.inl blank)]

theorem owed_eq_filter (account : Address) : owed chain account =
    ∑ id with (chain.vesting.schedules id).beneficiary = account, releasable chain id := by
  unfold owed
  exact (Finset.sum_filter _ _).symm

theorem Indexed.owed_eq (indexed : Indexed chain.vesting) (ledger : Ledger chain)
    (account : Address) : owed chain account =
      ((chain.vesting.beneficiarySchedules account).map (releasable chain)).sum := by
  have finite := sum_toFinset (releasable chain) (indexed.nodup account)
  have same : ∑ id with (chain.vesting.schedules id).beneficiary = account, releasable chain id =
      ∑ id ∈ (chain.vesting.beneficiarySchedules account).toFinset, releasable chain id := by
    -- an id of the first sum that is not in the list belongs to nobody
    symm
    apply Finset.sum_subset
    · intro id member
      have own := (indexed.listed account id).mp (mem_toFinset.mp member)
      exact Finset.mem_filter.mpr ⟨Finset.mem_univ id, own.1⟩
    · intro id member absent
      have own := (Finset.mem_filter.mp member).2
      apply ledger.releasable_blank
      by_contra someone
      apply absent
      rw [mem_toFinset, indexed.listed]
      exact ⟨own, own ▸ someone⟩
  exact (owed_eq_filter account).trans (same.trans finite)

variable {account : Address}

theorem releaseAll_of_bookAll {after : Chain} {amount : Nat}
    (unpaused : chain.vesting.paused = false) (occurred : chain.vesting.tgeOccurred = true)
    (added : bookAll ((chain.vesting.beneficiarySchedules account).take
      MAX_SCHEDULES_PER_BENEFICIARY) 0 chain = .ok (after, amount)) :
    releaseAll env account chain = if amount = 0 then .error .NothingToRelease
      else (pay env account amount after).map fun paid => (paid, amount) := by
  simp only [releaseAll, whenNotPaused, onlyAfterTGE, unpaused, occurred, revertIf, added,
    Bool.false_eq_true, Bool.true_eq_false, if_false]
  show (revertIf (amount = 0) Error.NothingToRelease >>= fun _ =>
    pay env account amount after >>= fun paid => pure (paid, amount)) = _
  by_cases nothing : amount = 0
  · rw [if_pos nothing, revertIf, if_pos nothing]
    rfl
  · rw [if_neg nothing, revertIf, if_neg nothing]
    cases pay env account amount after <;> rfl

theorem Ledger.bookAll_owed (ledger : Ledger chain) (indexed : Indexed chain.vesting)
    (account : Address) : ∃ after, bookAll ((chain.vesting.beneficiarySchedules account).take
      MAX_SCHEDULES_PER_BENEFICIARY) 0 chain = .ok (after, owed chain account) ∧
      Ledger after ∧ Paid chain after ∧ after.token = chain.token := by
  have mine : ∀ id ∈ chain.vesting.beneficiarySchedules account,
      (chain.vesting.schedules id).beneficiary ≠ 0 := by
    intro id member blank
    obtain ⟨own, someone⟩ := (indexed.listed account id).mp member
    exact someone (own.symm.trans blank)
  obtain ⟨after, added, books, paid, token⟩ :=
    ledger.bookAll_eq (indexed.nodup account) mine (zero_le chain.vesting.totalReleased)
  refine ⟨after, ?_, books, paid, token⟩
  rw [take_of_length_le (indexed.bounded account), added, zero_add,
    ← indexed.owed_eq ledger account]

theorem Indexed.payee (indexed : Indexed chain.vesting) (ledger : Ledger chain)
    (something : owed chain account ≠ 0) : account ≠ 0 := by
  intro zero
  have none : chain.vesting.beneficiarySchedules account = [] :=
    eq_nil_iff_forall_not_mem.mpr fun id member =>
      ((indexed.listed account id).mp member).2 zero
  have sum := indexed.owed_eq ledger account
  rw [none] at sum
  exact something sum

theorem Ledger.releaseAll_eq (ledger : Ledger chain) (indexed : Indexed chain.vesting)
    (deployed : env.address ≠ 0) (unpaused : chain.vesting.paused = false)
    (occurred : chain.vesting.tgeOccurred = true)
    (funded : owed chain account ≤ chain.token.balanceOf env.address)
    (something : owed chain account ≠ 0) :
    ∃ next, releaseAll env account chain = .ok (next, owed chain account) ∧
      chain.token.transfer env.address account (owed chain account) = .ok next.token := by
  have payee := indexed.payee ledger something
  obtain ⟨after, added, -, -, token⟩ := ledger.bookAll_owed indexed account
  generalize owed chain account = amount at added funded something ⊢
  have paid : chain.token.transfer env.address account amount =
      .ok (chain.token.move env.address account amount) := by
    simp only [Erc20.transfer, revertIf_bind_eq_ok]
    exact ⟨deployed, payee, not_lt.mpr funded, rfl⟩
  have payment : pay env account amount after =
      .ok { after with token := chain.token.move env.address account amount } := by
    rw [pay, token, paid]
    rfl
  refine ⟨{ after with token := chain.token.move env.address account amount }, ?_, paid⟩
  rw [releaseAll_of_bookAll unpaused occurred added, if_neg something, payment]
  rfl

theorem Ledger.releaseAll_nothing (ledger : Ledger chain) (indexed : Indexed chain.vesting)
    (unpaused : chain.vesting.paused = false) (occurred : chain.vesting.tgeOccurred = true) (nothing : owed chain account = 0) :
    releaseAll env account chain = .error .NothingToRelease := by
  obtain ⟨after, added, -, -, -⟩ := ledger.bookAll_owed indexed account
  rw [nothing] at added
  rw [releaseAll_of_bookAll unpaused occurred added, if_pos rfl]

end Release

end AethelredVesting
