import Aethelred.Contracts.VestingBooks
import Aethelred.Lib.Run

/- Runs of the vesting contract: each account can collect what its schedules have vested, as long
as no step strands a schedule. -/
namespace AethelredVesting

open Evm List Except VestingSchedule Nat

/-- What is remembered beside the chain: the words hashed for ids, and what each schedule had vested
when it was revoked. -/
structure Register where
  hashed : List (List Nat)
  vestedAt : Bytes32 → Nat

def Register.empty : Register := ⟨[], fun _ => 0⟩

def Function.creation : Function → Option (Address × Nat × Terms)
  | .createStrategicSeedSchedule beneficiary amount =>
    some (beneficiary, amount, strategicSeedTerms)
  | .createCoreContributorSchedule beneficiary amount =>
    some (beneficiary, amount, coreContributorTerms)
  | .createPublicSalesSchedule beneficiary amount => some (beneficiary, amount, publicSalesTerms)
  | .createCustomSchedule beneficiary amount terms => some (beneficiary, amount, terms)
  | _ => none

def Register.file (chain : Chain) (record : Register) : Function → Register
  | .revokeSchedule id =>
    let vested := (computeVested chain (chain.vesting.schedules id)).toOption.getD 0
    { record with vestedAt := Function.update record.vestedAt id vested }
  | function =>
    match function.creation with
    | some (beneficiary, amount, _) => { record with
        hashed := [beneficiary.val, amount, chain.vesting.scheduleCount] :: record.hashed }
    | none => record

variable (env : Environment)

def Register.after (chain : Chain) (record : Register) : Action → Register
  | .call sender function =>
    match function.execute env sender chain with
    | .ok _ => record.file chain function
    | .error _ => record
  | _ => record

variable (state : Chain × Register)

def attend (action : Action) : Chain × Register :=
  (step env state.1 action, state.2.after env state.1 action)

/-- No two word lists hashed for ids share a hash. -/
def CollisionFree (hashed : List (List Nat)) : Prop :=
  ∀ first ∈ hashed, ∀ second ∈ hashed,
    env.keccak256 first = env.keccak256 second → first = second

/-- The products of a new schedule fit a word. -/
def Fitting (creation : Address × Nat × Terms) : Prop :=
  Fits { creation.2.2 with totalAmount := creation.2.1 }

instance (creation : Address × Nat × Terms) : Decidable (Fitting creation) :=
  inferInstanceAs (Decidable (Fits _))

/-- A call strands no schedule: the products of a new one fit, one is revoked when nothing of it is
left to release, and one is transferred to where there is room. -/
def Function.Safe (chain : Chain) : Function → Prop
  | .revokeSchedule id => computeReleasable chain (chain.vesting.schedules id) = .ok 0
  | .transferBeneficiary id newBeneficiary =>
    newBeneficiary = (chain.vesting.schedules id).beneficiary ∨
      (chain.vesting.beneficiarySchedules newBeneficiary).length < MAX_SCHEDULES_PER_BENEFICIARY
  | function => ∀ creation ∈ function.creation, Fitting creation

def SafeStep : Action → Prop
  | .call sender function =>
    (function.execute env sender state.1).toOption.isSome → function.Safe state.1
  | _ => True

instance (hashed : List (List Nat)) : Decidable (CollisionFree env hashed) :=
  inferInstanceAs (Decidable (∀ first ∈ hashed, _))

instance (chain : Chain) : (function : Function) → Decidable (function.Safe chain)
  | .revokeSchedule id => inferInstanceAs
      (Decidable (computeReleasable chain (chain.vesting.schedules id) = .ok 0))
  | .transferBeneficiary _ _ => inferInstanceAs (Decidable (_ ∨ _))
  | .createStrategicSeedSchedule _ _ | .createCoreContributorSchedule _ _
  | .createPublicSalesSchedule _ _ | .createCustomSchedule _ _ _ =>
    inferInstanceAs (Decidable (∀ creation ∈ some _, Fitting creation))
  | .executeTGE | .activateSchedule _ | .release _ | .releaseAll | .setCategoryCap _ _ | .pause
  | .unpause | .recoverTokens _ _ _ | .achieveMilestone _ _ | .grantRole _ _ | .revokeRole _ _
  | .renounceRole _ _ => inferInstanceAs (Decidable (∀ creation ∈ none, Fitting creation))

instance :
    (action : Action) → Decidable (SafeStep env state action)
  | .advance _ _ | .token _ _ => .isTrue trivial
  | .call sender function => inferInstanceAs
      (Decidable ((function.execute env sender state.1).toOption.isSome → function.Safe state.1))

/-- Whatever has vested can be collected, also of revoked schedules. -/
structure Collectible (env : Environment) (state : Chain × Register) : Prop where
  indexed : Indexed state.1.vesting
  answered : ∀ id, ∃ amount, getReleasable state.1 id = .ok amount
  collected : state.1.vesting.paused = false → state.1.vesting.tgeOccurred = true →
    ∀ account, owed state.1 account ≤ state.1.token.balanceOf env.address →
      owed state.1 account = 0 ∧ releaseAll env account state.1 = .error .NothingToRelease ∨
      owed state.1 account ≠ 0 ∧ ∃ next,
        releaseAll env account state.1 = .ok (next, owed state.1 account) ∧
        state.1.token.transfer env.address account (owed state.1 account) = .ok next.token
  settled : ∀ id, (state.1.vesting.schedules id).revoked = true →
    (state.1.vesting.schedules id).releasedAmount + releasable state.1 id = state.2.vestedAt id

/-- What every state of a run without stranded schedules keeps. -/
structure Register.Sound (env : Environment) (chain : Chain) (record : Register) : Prop where
  ledger : Ledger chain
  indexed : Indexed chain.vesting
  named : ∀ id, (chain.vesting.schedules id).beneficiary ≠ 0 → ∃ beneficiary amount count,
    id = env.keccak256 [beneficiary, amount, count] ∧ [beneficiary, amount, count] ∈ record.hashed ∧
      count < chain.vesting.scheduleCount
  settled : ∀ id, (chain.vesting.schedules id).revoked = true →
    (chain.vesting.schedules id).releasedAmount = record.vestedAt id

section Sound

variable {env : Environment} {chain next : Chain} {record : Register}

theorem Register.Sound.collectible (sound : record.Sound env chain) (deployed : env.address ≠ 0) :
    Collectible env (chain, record) where
  indexed := sound.indexed
  answered id := ⟨_, (sound.ledger.kept id).getReleasable_eq⟩
  collected unpaused occurred account funded := by
    by_cases nothing : owed chain account = 0
    · exact .inl ⟨nothing, sound.ledger.releaseAll_nothing sound.indexed unpaused occurred nothing⟩
    · exact .inr ⟨nothing,
        sound.ledger.releaseAll_eq sound.indexed deployed unpaused occurred funded nothing⟩
  settled id revoked := by
    show (chain.vesting.schedules id).releasedAmount + releasable chain id = _
    rw [(sound.ledger.kept id).releasable_eq, if_pos (Or.inr revoked), add_zero]
    exact sound.settled id revoked

/-- What a change of one schedule has to keep of the totals. -/
structure Edit (id : Bytes32) (new : VestingSchedule) (chain next : Chain) : Prop
    extends SameClock chain next where
  schedules : next.vesting.schedules = Function.update chain.vesting.schedules id new
  releasedAmount : new.releasedAmount = (chain.vesting.schedules id).releasedAmount
  totalReleased : next.vesting.totalReleased = chain.vesting.totalReleased
  categoryReleased : next.vesting.categoryReleased = chain.vesting.categoryReleased
  totalAllocated : next.vesting.totalAllocated + (chain.vesting.schedules id).share =
    chain.vesting.totalAllocated + new.share
  bounded : next.vesting.totalAllocated < wordBound

variable {id : Bytes32}

theorem Ledger.edit {new : VestingSchedule} (ledger : Ledger chain)
    (edit : Edit id new chain next) (own : new.Kept chain) : Ledger next where
  kept other := by
    rw [edit.schedules, Function.update_apply]
    split
    · exact own.clock edit.toSameClock
    · exact (ledger.kept other).clock edit.toSameClock
  released := by
    rw [edit.schedules, edit.totalReleased, ← ledger.released]
    exact total_update_same edit.releasedAmount
  allocated := by
    have changed := total_update share chain.vesting.schedules id new
    have sum := ledger.allocated
    have total := edit.totalAllocated
    rw [edit.schedules]
    omega
  bounded := edit.bounded
  categories category := by
    rw [edit.categoryReleased, edit.totalReleased]
    exact ledger.categories category

/-- What a step that touches no schedule keeps. -/
structure Untouched (chain next : Chain) : Prop where
  schedules : next.vesting.schedules = chain.vesting.schedules
  lists : next.vesting.beneficiarySchedules = chain.vesting.beneficiarySchedules
  count : next.vesting.scheduleCount = chain.vesting.scheduleCount
  totalAllocated : next.vesting.totalAllocated = chain.vesting.totalAllocated
  totalReleased : next.vesting.totalReleased = chain.vesting.totalReleased
  categoryReleased : next.vesting.categoryReleased = chain.vesting.categoryReleased

section

variable (sound : record.Sound env chain)
include sound

/-- Time alone keeps the register sound. -/
theorem Register.Sound.later (untouched : Untouched chain next)
    (grows : ∀ schedule, schedule.Kept chain → schedule.revoked = false →
      vestedOf chain schedule ≤ vestedOf next schedule) : record.Sound env next where
  ledger := {
    kept := fun id => by
      have before := sound.ledger.kept id
      rw [untouched.schedules]
      exact ⟨before.sized, before.blank,
        fun active => (before.released active).trans (grows _ before active)⟩
    released := by rw [untouched.schedules, untouched.totalReleased, sound.ledger.released]
    allocated := by rw [untouched.schedules, untouched.totalAllocated, sound.ledger.allocated]
    bounded := untouched.totalAllocated ▸ sound.ledger.bounded
    categories := fun category => by
      rw [untouched.categoryReleased, untouched.totalReleased]
      exact sound.ledger.categories category }
  indexed := {
    nodup := fun account => untouched.lists ▸ sound.indexed.nodup account
    listed := fun account id => by
      rw [untouched.lists, untouched.schedules]
      exact sound.indexed.listed account id
    bounded := fun account => untouched.lists ▸ sound.indexed.bounded account }
  named := by
    rw [untouched.schedules, untouched.count]
    exact sound.named
  settled := by
    rw [untouched.schedules]
    exact sound.settled

theorem Register.Sound.quiet (untouched : Untouched chain next)
    (clock : SameClock chain next) : record.Sound env next := by
  apply sound.later untouched
  intro schedule _ _
  exact le_of_eq clock.vestedOf.symm

theorem Register.Sound.advance (blocks seconds : Nat) :
    record.Sound env { chain with block := chain.block.advance blocks seconds } := by
  refine sound.later ⟨rfl, rfl, rfl, rfl, rfl, rfl⟩ fun schedule kept active => ?_
  have waits : chain.block.timestamp ≤ (chain.block.advance blocks seconds).timestamp :=
    le_add_right _ _
  have start : startOf { chain with block := chain.block.advance blocks seconds } schedule =
      startOf chain schedule := rfl
  simp only [vestedOf, endOf, active, start, Bool.false_eq_true, if_false]
  split
  · exact le_refl _
  · split
    · exact zero_le _
    next started =>
      rw [if_neg (by omega)]
      apply kept.sized.unlocked_mono
      omega

end

variable {sender : Address}

section

variable (sound : record.Sound env chain)
include sound

theorem Register.Sound.executeTGE
    (done : executeTGE sender chain = .ok next) : record.Sound env next := by
  simp only [AethelredVesting.executeTGE, onlyRole, onlyBeforeTGE, revertIf_bind_eq_ok] at done
  obtain ⟨-, before, done⟩ := done
  obtain rfl := ok.inj done
  refine sound.later ⟨rfl, rfl, rfl, rfl, rfl, rfl⟩ fun schedule _ _ => ?_
  have nothing : vestedOf chain schedule = 0 := if_pos (Bool.eq_false_of_not_eq_true before)
  rw [nothing]
  exact zero_le _

/-- An edit that keeps the beneficiary keeps the register sound. -/
theorem Register.Sound.rewrite {later : Register}
    {new : VestingSchedule} (edit : Edit id new chain next) (own : new.Kept chain)
    (same : new.beneficiary = (chain.vesting.schedules id).beneficiary)
    (lists : next.vesting.beneficiarySchedules = chain.vesting.beneficiarySchedules)
    (count : next.vesting.scheduleCount = chain.vesting.scheduleCount)
    (hashed : later.hashed = record.hashed)
    (elsewhere : ∀ other, other ≠ id → later.vestedAt other = record.vestedAt other)
    (settled : new.revoked = true → new.releasedAmount = later.vestedAt id) :
    later.Sound env next := by
  have beneficiaries : ∀ other, (next.vesting.schedules other).beneficiary =
      (chain.vesting.schedules other).beneficiary := by
    intro other
    rw [edit.schedules, Function.update_apply]
    split
    next this => rw [this, same]
    · rfl
  refine {
    ledger := sound.ledger.edit edit own
    indexed := ⟨?_, ?_, ?_⟩
    named := ?_
    settled := ?_ }
  · intro account
    rw [lists]
    exact sound.indexed.nodup account
  · intro account other
    rw [lists, beneficiaries]
    exact sound.indexed.listed account other
  · intro account
    rw [lists]
    exact sound.indexed.bounded account
  · intro other someone
    rw [beneficiaries] at someone
    rw [count, hashed]
    exact sound.named other someone
  · intro other
    rw [edit.schedules, Function.update_apply]
    split
    next this =>
      rw [this]
      exact settled
    next differ =>
      rw [elsewhere other differ]
      exact sound.settled other

theorem Register.Sound.activateSchedule (done : activateSchedule sender id chain = .ok next) :
    record.Sound env next := by
  simp only [AethelredVesting.activateSchedule, onlyRole, onlyAfterTGE, scheduleExists,
    revertIf_bind_eq_ok] at done
  obtain ⟨-, -, someone, inactive, done⟩ := done
  obtain rfl := ok.inj done
  have kept := sound.ledger.kept id
  have unstarted : (chain.vesting.schedules id).startTime = 0 := of_not_not inactive
  have edit : Edit id { chain.vesting.schedules id with startTime := chain.vesting.tgeTime } chain
      (withSchedule chain id { chain.vesting.schedules id with
        startTime := chain.vesting.tgeTime }) :=
    ⟨⟨rfl, rfl, rfl⟩, rfl, rfl, rfl, rfl, rfl, sound.ledger.bounded⟩
  refine sound.rewrite edit ?_ rfl rfl rfl rfl (fun _ _ => rfl) (sound.settled id)
  have sized := kept.sized
  refine ⟨⟨sized.upfront, sized.total, sized.fits⟩, kept.blank, fun active => ?_⟩
  have start : startOf chain { chain.vesting.schedules id with
      startTime := chain.vesting.tgeTime } = startOf chain (chain.vesting.schedules id) := by
    simp only [startOf, unstarted, lt_irrefl, if_false, ite_self]
  have before := kept.released active
  unfold vestedOf at before ⊢
  rw [start]
  exact before

/-- So does the revocation of a drained schedule. -/
theorem Register.Sound.revokeSchedule (done : revokeSchedule sender id chain = .ok next)
    (drained : computeReleasable chain (chain.vesting.schedules id) = .ok 0) :
    (record.file chain (.revokeSchedule id)).Sound env next := by
  have kept := sound.ledger.kept id
  simp only [AethelredVesting.revokeSchedule, onlyRole, scheduleExists, notRevoked,
    revertIf_bind_eq_ok, computeVested_eq kept.sized] at done
  obtain ⟨-, someone, unrevoked, -, done⟩ := done
  have active := Bool.eq_false_of_not_eq_true unrevoked
  replace done : (do
    let unvested ← checkedSub Error.arithmetic (chain.vesting.schedules id).totalAmount
      (vestedOf chain (chain.vesting.schedules id))
    let totalAllocated ← checkedSub .arithmetic chain.vesting.totalAllocated unvested
    let categoryAllocated ← checkedSub .arithmetic
      (chain.vesting.categoryAllocated (chain.vesting.schedules id).category) unvested
    return { chain with
      vesting.schedules := Function.update chain.vesting.schedules id
        { chain.vesting.schedules id with revoked := true, revokedTime := chain.block.timestamp }
      vesting.totalAllocated := totalAllocated
      vesting.categoryAllocated := Function.update chain.vesting.categoryAllocated
        (chain.vesting.schedules id).category categoryAllocated }) = .ok next := done
  simp only [checkedSub_bind_eq_ok] at done
  obtain ⟨vested, fits, -, done⟩ := done
  obtain rfl := ok.inj done
  have drawn : (chain.vesting.schedules id).releasedAmount =
      vestedOf chain (chain.vesting.schedules id) := by
    have least := kept.released active
    rw [kept.computeReleasable_eq active] at drained
    have none := ok.inj drained
    omega
  refine sound.rewrite (?_ : Edit id { chain.vesting.schedules id with
    revoked := true, revokedTime := chain.block.timestamp } chain _) ?_ rfl rfl rfl rfl ?_ ?_
  · refine ⟨⟨rfl, rfl, rfl⟩, rfl, rfl, rfl, rfl, ?_, ?_⟩
    · simp only [share, active, Bool.false_eq_true, if_false, if_true]
      omega
    · exact lt_of_le_of_lt (sub_le _ _) sound.ledger.bounded
  · have sized := kept.sized
    exact ⟨⟨sized.upfront, sized.total, sized.fits⟩, fun blank => absurd blank someone, by simp⟩
  · intro other differ
    exact Function.update_of_ne differ ..
  · intro _
    simp only [Register.file, Function.update_self, computeVested_eq kept.sized]
    exact drawn

end

variable {amount : Nat}

section

variable (sound : record.Sound env chain)
include sound

/-- So does a new schedule that fits. -/
theorem Register.Sound.createSchedule {beneficiary : Address}
    {terms : Terms} {made : Bytes32}
    (done : createSchedule env beneficiary amount terms chain = .ok (next, made))
    (fits : Fitting (beneficiary, amount, terms)) (unique : CollisionFree env
      ([beneficiary.val, amount, chain.vesting.scheduleCount] :: record.hashed)) :
    Register.Sound env next { record with
      hashed := [beneficiary.val, amount, chain.vesting.scheduleCount] :: record.hashed } := by
  simp only [AethelredVesting.createSchedule, revertIf_bind_eq_ok, checkedAdd_bind_eq_ok] at done
  obtain ⟨someone, positive, -, -, upfront, room, -, -, -, allocated, done⟩ := done
  obtain ⟨rfl, rfl⟩ := Prod.mk.inj (ok.inj done)
  generalize words : [beneficiary.val, amount, chain.vesting.scheduleCount] = key at unique ⊢
  have fresh : (chain.vesting.schedules (env.keccak256 key)).beneficiary = 0 := by
    by_contra used
    obtain ⟨other, sum, count, same, member, before⟩ := sound.named _ used
    have equal := unique key mem_cons_self _ (mem_cons_of_mem _ member) same
    rw [← words] at equal
    have last : chain.vesting.scheduleCount = count := by
      have tail := (cons.inj (cons.inj (cons.inj equal).2).2).1
      exact tail
    omega
  obtain ⟨empty, unreleased⟩ := (sound.ledger.kept (env.keccak256 key)).blank fresh
  have nothing : (chain.vesting.schedules (env.keccak256 key)).share = 0 := by
    simp only [share, empty, unreleased, ite_self]
  refine {
    ledger := @Ledger.edit _ _ (env.keccak256 key) _ sound.ledger ⟨⟨rfl, rfl, rfl⟩, rfl,
      unreleased.symm, rfl, rfl, ?_, allocated⟩ ?_
    indexed := sound.indexed.assign fresh someone (Nat.lt_of_not_le room) rfl rfl
    named := ?_
    settled := ?_ }
  · rw [nothing]
    rfl
  · refine ⟨⟨Nat.le_of_not_lt upfront, ?_, fits⟩, fun blank => absurd blank someone, ?_⟩
    · exact lt_of_le_of_lt (le_add_left _ _) allocated
    · exact fun _ => zero_le _
  · intro id used
    by_cases same : id = env.keccak256 key
    · exact ⟨_, _, _, words ▸ same, words ▸ mem_cons_self, lt_succ_self _⟩
    · simp only [Function.update_of_ne same] at used
      obtain ⟨other, sum, count, equal, member, before⟩ := sound.named id used
      exact ⟨other, sum, count, equal, mem_cons_of_mem _ member, lt_succ_of_lt before⟩
  · intro id
    simp only [Function.update_apply]
    split
    · simp
    · exact sound.settled id

/-- So does a transfer to someone with room. -/
theorem Register.Sound.transferBeneficiary
    {newBeneficiary : Address}
    (done : transferBeneficiary sender id newBeneficiary chain = .ok next)
    (room : newBeneficiary = (chain.vesting.schedules id).beneficiary ∨
      (chain.vesting.beneficiarySchedules newBeneficiary).length <
        MAX_SCHEDULES_PER_BENEFICIARY) : record.Sound env next := by
  simp only [AethelredVesting.transferBeneficiary, scheduleExists, notRevoked,
    revertIf_bind_eq_ok] at done
  obtain ⟨owned, unrevoked, -, -, someone, done⟩ := done
  obtain rfl := ok.inj done
  have kept := sound.ledger.kept id
  have active := Bool.eq_false_of_not_eq_true unrevoked
  have sized := kept.sized
  have listed : id ∈ chain.vesting.beneficiarySchedules (chain.vesting.schedules id).beneficiary :=
    (sound.indexed.listed _ id).mpr ⟨rfl, owned⟩
  have bounded := sound.indexed.bounded (chain.vesting.schedules id).beneficiary
  -- between the two changes of the lists the schedule is nobody's
  let between : Storage := { chain.vesting with
    schedules := Function.update chain.vesting.schedules id
      { chain.vesting.schedules id with beneficiary := 0 }
    beneficiarySchedules := Function.update chain.vesting.beneficiarySchedules
      (chain.vesting.schedules id).beneficiary (removeBeneficiarySchedule id
        (chain.vesting.beneficiarySchedules (chain.vesting.schedules id).beneficiary)) }
  have taken : Indexed between := sound.indexed.unassign rfl rfl rfl
  have free : (between.schedules id).beneficiary = 0 := by
    simp only [between, Function.update_self]
  have place : (between.beneficiarySchedules newBeneficiary).length <
      MAX_SCHEDULES_PER_BENEFICIARY := by
    simp only [between, Function.update_apply]
    split
    · rw [(removeBeneficiarySchedule_perm id _).length_eq, length_erase_of_mem listed]
      have positive := length_pos_of_mem listed
      omega
    next other => exact room.resolve_left other
  refine {
    ledger := @Ledger.edit _ _ id _ sound.ledger ⟨⟨rfl, rfl, rfl⟩, rfl, rfl, rfl, rfl, rfl,
      sound.ledger.bounded⟩ ?_
    indexed := taken.assign free someone place (Function.update_idem ..).symm rfl
    named := ?_
    settled := ?_ }
  · exact ⟨⟨sized.upfront, sized.total, sized.fits⟩, fun blank => absurd blank someone,
      kept.released⟩
  · intro other used
    by_cases same : other = id
    · subst same
      exact sound.named other owned
    · simp only [Function.update_of_ne same] at used
      exact sound.named other used
  · intro other
    simp only [Function.update_apply]
    split
    next same =>
      intro revoked
      exact absurd revoked unrevoked
    · exact sound.settled other

theorem Register.Sound.paid (ledger : Ledger next)
    (paid : Paid chain next) : record.Sound env next where
  ledger := ledger
  indexed := {
    nodup := fun account => paid.lists ▸ sound.indexed.nodup account
    listed := fun account id => by
      rw [paid.lists, paid.beneficiaries]
      exact sound.indexed.listed account id
    bounded := fun account => paid.lists ▸ sound.indexed.bounded account }
  named id someone := by
    rw [paid.beneficiaries] at someone
    rw [paid.count]
    exact sound.named id someone
  settled id revoked := by
    rw [paid.revocations] at revoked
    rw [paid.untouched id revoked]
    exact sound.settled id revoked

end

theorem pay_eq_ok {recipient : Address} (done : pay env recipient amount chain = .ok next) :
    ∃ token, next = { chain with token } := by
  obtain ⟨token, -, done⟩ := bind_eq_ok.mp done
  exact ⟨token, (ok.inj done).symm⟩

section

variable (sound : record.Sound env chain)
include sound

theorem Register.Sound.pay {recipient : Address}
    (done : pay env recipient amount chain = .ok next) : record.Sound env next := by
  obtain ⟨token, rfl⟩ := pay_eq_ok done
  exact sound.quiet ⟨rfl, rfl, rfl, rfl, rfl, rfl⟩ ⟨rfl, rfl, rfl⟩

theorem Register.Sound.release
    (done : release env sender id chain = .ok (next, amount)) : record.Sound env next := by
  have kept := sound.ledger.kept id
  simp only [AethelredVesting.release, whenNotPaused, onlyAfterTGE, scheduleExists, notRevoked,
    revertIf_bind_eq_ok] at done
  obtain ⟨-, -, someone, unrevoked, -, done⟩ := done
  have active := Bool.eq_false_of_not_eq_true unrevoked
  have least := kept.released active
  rw [kept.computeReleasable_eq active] at done
  obtain ⟨-, done⟩ := revertIf_bind_eq_ok.mp done
  have vested : (chain.vesting.schedules id).releasedAmount +
      (vestedOf chain (chain.vesting.schedules id) - (chain.vesting.schedules id).releasedAmount) ≤
        vestedOf chain (chain.vesting.schedules id) := by omega
  rw [sound.ledger.book_eq active someone vested] at done
  obtain ⟨after, same, done⟩ := bind_eq_ok.mp done
  obtain rfl := ok.inj same
  obtain ⟨last, paid, done⟩ := bind_eq_ok.mp done
  obtain ⟨rfl, -⟩ := Prod.mk.inj (ok.inj done)
  exact (sound.paid (sound.ledger.after_booked active someone vested)
    (paid_booked active _)).pay paid

theorem Register.Sound.releaseAll
    (done : releaseAll env sender chain = .ok (next, amount)) : record.Sound env next := by
  obtain ⟨after, added, books, paid, -⟩ := sound.ledger.bookAll_owed sound.indexed sender
  simp only [AethelredVesting.releaseAll, whenNotPaused, onlyAfterTGE, revertIf_bind_eq_ok] at done
  obtain ⟨-, -, done⟩ := done
  generalize owed chain sender = total at added
  obtain ⟨loop, same, done⟩ := bind_eq_ok.mp done
  obtain rfl := ok.inj (added.symm.trans same)
  obtain ⟨-, done⟩ := revertIf_bind_eq_ok.mp done
  obtain ⟨last, transferred, done⟩ := bind_eq_ok.mp done
  obtain ⟨rfl, -⟩ := Prod.mk.inj (ok.inj done)
  exact (sound.paid books paid).pay transferred

end

theorem createSchedule_of_execute {function : Function}
    {creation : Address × Nat × Terms} (creates : function.creation = some creation)
    (done : function.execute env sender chain = .ok next) :
    ∃ id, createSchedule env creation.1 creation.2.1 creation.2.2 chain = .ok (next, id) := by
  have created : ∀ {outcome : Except Error (Chain × Bytes32)}, outcome.map (·.1) = .ok next →
      (∀ made, outcome = .ok made →
        createSchedule env creation.1 creation.2.1 creation.2.2 chain = .ok made) →
      ∃ id, createSchedule env creation.1 creation.2.1 creation.2.2 chain = .ok (next, id) := by
    intro outcome mapped same
    obtain ⟨made, found, rfl⟩ := map_eq_ok.mp mapped
    exact ⟨made.2, same made found⟩
  cases function with
  | createStrategicSeedSchedule _ _ | createCoreContributorSchedule _ _
  | createPublicSalesSchedule _ _ | createCustomSchedule _ _ _ =>
    obtain rfl := Option.some.inj creates
    exact created done fun made found => (revertIf_bind_eq_ok.mp found).2
  | _ => exact nomatch creates

/-- Every safe call keeps the register sound. -/
theorem Register.Sound.execute (sound : record.Sound env chain)
    {function : Function} (done : function.execute env sender chain = .ok next)
    (safe : function.Safe chain) (unique : CollisionFree env (record.file chain function).hashed) :
    (record.file chain function).Sound env next := by
  cases creates : function.creation with
  | some creation =>
    obtain ⟨id, made⟩ := createSchedule_of_execute creates done
    cases function with
    | createStrategicSeedSchedule _ _ | createCoreContributorSchedule _ _
    | createPublicSalesSchedule _ _ | createCustomSchedule _ _ _ =>
      obtain rfl := Option.some.inj creates
      exact sound.createSchedule made (safe _ rfl) unique
    | _ => exact nomatch creates
  | none =>
    have still : ∀ {after : Chain}, Untouched chain after → SameClock chain after →
        record.Sound env after := sound.quiet
    cases function with
    | createStrategicSeedSchedule _ _ | createCoreContributorSchedule _ _
    | createPublicSalesSchedule _ _ | createCustomSchedule _ _ _ => exact nomatch creates
    | executeTGE => exact sound.executeTGE done
    | activateSchedule id => exact sound.activateSchedule done
    | release id =>
      obtain ⟨paid, released, rfl⟩ := map_eq_ok.mp done
      exact sound.release released
    | releaseAll =>
      obtain ⟨paid, released, rfl⟩ := map_eq_ok.mp done
      exact sound.releaseAll released
    | revokeSchedule id => exact sound.revokeSchedule done safe
    | transferBeneficiary id newBeneficiary => exact sound.transferBeneficiary done safe
    | setCategoryCap category cap =>
      obtain ⟨-, done⟩ := revertIf_bind_eq_ok.mp done
      obtain ⟨-, done⟩ := revertIf_bind_eq_ok.mp done
      obtain rfl := ok.inj done
      exact still ⟨rfl, rfl, rfl, rfl, rfl, rfl⟩ ⟨rfl, rfl, rfl⟩
    | pause | unpause =>
      obtain ⟨-, done⟩ := revertIf_bind_eq_ok.mp done
      obtain ⟨-, done⟩ := revertIf_bind_eq_ok.mp done
      obtain rfl := ok.inj done
      exact still ⟨rfl, rfl, rfl, rfl, rfl, rfl⟩ ⟨rfl, rfl, rfl⟩
    | recoverTokens tokenAddress amount recipient =>
      obtain ⟨-, done⟩ := revertIf_bind_eq_ok.mp done
      obtain ⟨-, done⟩ := revertIf_bind_eq_ok.mp done
      split at done
      · obtain ⟨-, done⟩ := revertIf_bind_eq_ok.mp done
        exact sound.pay done
      · obtain rfl := ok.inj done
        exact sound
    | achieveMilestone id index =>
      simp only [Function.execute, achieveMilestone, onlyRole, scheduleExists, notRevoked,
        revertIf_bind_eq_ok] at done
      obtain ⟨-, -, -, -, done⟩ := done
      split at done
      · exact nomatch done
      · obtain ⟨-, done⟩ := revertIf_bind_eq_ok.mp done
        obtain rfl := ok.inj done
        exact still ⟨rfl, rfl, rfl, rfl, rfl, rfl⟩ ⟨rfl, rfl, rfl⟩
    | grantRole role account | revokeRole role account | renounceRole role account =>
      obtain ⟨-, done⟩ := revertIf_bind_eq_ok.mp done
      obtain rfl := ok.inj done
      exact still ⟨rfl, rfl, rfl, rfl, rfl, rfl⟩ ⟨rfl, rfl, rfl⟩

theorem Register.Sound.step (sound : record.Sound env chain) (action : Action)
    (safe : SafeStep env (chain, record) action)
    (unique : CollisionFree env (record.after env chain action).hashed) :
    (record.after env chain action).Sound env (step env chain action) := by
  cases action with
  | advance blocks seconds => exact sound.advance blocks seconds
  | call sender function =>
    simp only [SafeStep] at safe
    simp only [Register.after, AethelredVesting.step] at unique ⊢
    cases done : function.execute env sender chain with
    | ok after =>
      rw [done] at safe unique
      exact sound.execute done (safe rfl) unique
    | error reason => exact sound
  | token sender call => exact sound.quiet ⟨rfl, rfl, rfl, rfl, rfl, rfl⟩ ⟨rfl, rfl, rfl⟩

end Sound

section Runs

variable {env : Environment} {chain : Chain}

theorem sized_blank : Sized {} := ⟨by decide, by decide, by decide⟩

/-- A contract without schedules is sound. -/
theorem sound_of_no_schedules (none : chain.vesting.schedules = fun _ => {})
    (unlisted : chain.vesting.beneficiarySchedules = fun _ => [])
    (allocated : chain.vesting.totalAllocated = 0) (released : chain.vesting.totalReleased = 0)
    (categories : chain.vesting.categoryReleased = fun _ => 0) :
    Register.empty.Sound env chain := by
  refine {
    ledger := ⟨?_, ?_, ?_, ?_, ?_⟩
    indexed := ⟨?_, ?_, ?_⟩
    named := ?_
    settled := ?_ }
  · intro id
    rw [none]
    exact ⟨sized_blank, fun _ => ⟨rfl, rfl⟩, fun _ => zero_le _⟩
  · rw [released]
    apply total_eq_zero
    intro id
    rw [none]
  · rw [allocated]
    apply total_eq_zero
    intro id
    rw [none]
    rfl
  · rw [allocated]
    decide
  · intro category
    rw [categories]
    exact zero_le _
  · intro account
    rw [unlisted]
    exact nodup_nil
  · intro account id
    rw [unlisted, none]
    exact ⟨nofun, fun given => absurd given.1.symm given.2⟩
  · intro account
    rw [unlisted]
    exact zero_le _
  · intro id used
    rw [none] at used
    exact absurd rfl used
  · intro id revoked
    rw [none] at revoked
    exact nomatch revoked

theorem sound_initialized (initialized : Initialized env chain) :
    Register.empty.Sound env chain := by
  have fresh : ∀ {block token tokenAddr admin authority},
      initializeVesting tokenAddr admin authority (Chain.blank block token) = .ok chain →
      Register.empty.Sound env chain := by
    intro block token tokenAddr admin authority done
    simp only [initializeVesting, revertIf_bind_eq_ok] at done
    obtain ⟨-, -, -, done⟩ := done
    obtain rfl := ok.inj done
    exact sound_of_no_schedules rfl rfl rfl rfl rfl
  cases initialized with
  | legacy done =>
    obtain ⟨-, done⟩ := revertIf_bind_eq_ok.mp done
    exact fresh done
  | timelock done =>
    obtain ⟨-, -, done⟩ := bind_eq_ok.mp done
    obtain ⟨-, -, done⟩ := bind_eq_ok.mp done
    obtain ⟨-, done⟩ := revertIf_bind_eq_ok.mp done
    exact fresh done

theorem CollisionFree.of_cons {words : List Nat} {hashed : List (List Nat)}
    (unique : CollisionFree env (words :: hashed)) : CollisionFree env hashed := by
  intro first member second other
  exact unique first (mem_cons_of_mem _ member) second (mem_cons_of_mem _ other)

theorem CollisionFree.before {record : Register} {action : Action}
    (unique : CollisionFree env (record.after env chain action).hashed) :
    CollisionFree env record.hashed := by
  cases action with
  | advance _ _ | token _ _ => exact unique
  | call sender function =>
    simp only [Register.after] at unique
    cases done : function.execute env sender chain with
    | error reason =>
      rw [done] at unique
      exact unique
    | ok next =>
      rw [done] at unique
      cases function with
      | createStrategicSeedSchedule _ _ | createCoreContributorSchedule _ _
      | createPublicSalesSchedule _ _ | createCustomSchedule _ _ _ => exact unique.of_cons
      | _ => exact unique

/-- In every run that strands no schedule each account can collect what is vested for it. -/
theorem run_collectible (initialized : Initialized env chain) (deployed : env.address ≠ 0)
    (actions : List Action)
    (unique : CollisionFree env (Run.exec (attend env) (chain, .empty) actions).2.hashed)
    (along : Run.Along (attend env) (SafeStep env) (chain, .empty) actions) :
    Collectible env (Run.exec (attend env) (chain, .empty) actions) := by
  have sound := Run.invariant
    (fun state : Chain × Register => CollisionFree env state.2.hashed → state.2.Sound env state.1)
    (fun _ action safe before unique => (before unique.before).step action safe unique)
    (fun _ => sound_initialized initialized) along
  exact (sound unique).collectible deployed

/-- In every such run the totals of the contract are the sums of its schedules, and no schedule has
released more than it has vested, or vested more than it was given. -/
theorem run_balanced (initialized : Initialized env chain) (actions : List Action)
    (unique : CollisionFree env (Run.exec (attend env) (chain, .empty) actions).2.hashed)
    (along : Run.Along (attend env) (SafeStep env) (chain, .empty) actions) :
    let state := (Run.exec (attend env) (chain, .empty) actions).1
    total releasedAmount state.vesting.schedules = state.vesting.totalReleased ∧
    total share state.vesting.schedules = state.vesting.totalAllocated ∧
    state.vesting.totalReleased ≤ state.vesting.totalAllocated ∧
    ∀ id, ∃ vested, computeVested state (state.vesting.schedules id) = .ok vested ∧
      vested ≤ (state.vesting.schedules id).totalAmount ∧
      ((state.vesting.schedules id).revoked = false →
        (state.vesting.schedules id).releasedAmount ≤ vested) := by
  have sound := Run.invariant
    (fun state : Chain × Register => CollisionFree env state.2.hashed → state.2.Sound env state.1)
    (fun _ action safe before unique => (before unique.before).step action safe unique)
    (fun _ => sound_initialized initialized) along
  have ledger := (sound unique).ledger
  refine ⟨ledger.released, ledger.allocated, ?_, fun id => ?_⟩
  · rw [← ledger.released, ← ledger.allocated]
    exact Finset.sum_le_sum fun id _ => (ledger.kept id).released_le_share
  · have kept := ledger.kept id
    exact ⟨_, computeVested_eq kept.sized, vestedOf_le kept.sized, kept.released⟩

def scheduleIds : List (List Nat × Bytes32) := [
  ([7, 10 ^ 21, 0],
    0xd5e1644aedb829ede70b1ffe806aaee4474299cf38729974c5e2b23deb4de787),
  ([7, 10 ^ 21, 1],
    0xb01f4bd1209c15219e271421069cfbc4e61d9409a25c8cd3b9d799b9671b6335),
  ([7, 10 ^ 21, 2],
    0xe10a172e9d140642346137a92209db3d0204858aa218b9279581de59a9b67170),
  ([7, 10 ^ 21, 3],
    0xca97eaefc7241e5a85fbe588eb71a99527925e868ae773447e2a0065568b483a),
  ([7, 10 ^ 21, 4],
    0x3735fe5ddff5c5792b7b4a87367da73d992cfafefb90e75415994fd8be06faa6),
  ([7, 10 ^ 21, 5],
    0x9ccd719070eb547b2af2722c2d1367f5c7648ecdf35311f4d41bf9db32973e93),
  ([7, 10 ^ 21, 6],
    0x71a94792a12f2de60572c6fcbd39b3656bcecea6795271ff9dcb0e620f6db9ab),
  ([7, 10 ^ 21, 7],
    0x563dae2110363f63bf240956c43fbd569244844405fd39f3220b8062c59e0031),
  ([7, 10 ^ 21, 8],
    0x2a0e19d80a53cd5f582e25e9def9c476ccae5d39681775cd11e8ccc9978f2135),
  ([7, 10 ^ 21, 9],
    0x4599ff10e184f784bf29f6b13caf2d521a9d4c75e18fcbd9d44325f96e0cc0f2),
  ([8, 10 ^ 21, 10],
    0x4f9667d10e5370637edf748e4649cadf30c028943cad80ba2532692f3cf8a19e),
  ([8, 10 ^ 21, 1],
    0x3570fa7eff61cc7e444d967e0b0d3e381b222f8a1fc1321d80b87cc096a71377)]

def localnet : Environment where
  keccak256 := fun words => (scheduleIds.lookup words).getD 0
  address := 0xc
  chainId := 31337
  hasCode := fun _ => false
  getMinDelay := fun _ => 0

/-- A contract on a local chain that holds a million tokens, with its admin at 0xa. -/
def localVesting : Chain :=
  let token : Erc20 := ⟨fun account => if account = 0xc then 10 ^ 24 else 0, fun _ _ => 0⟩
  let blank := Chain.blank ⟨1, 1719000000, Evm.launched⟩ token
  (legacyInitialize localnet 1 0xa blank).toOption.getD blank

theorem localVesting_initialized : Initialized localnet localVesting := by
  have done : legacyInitialize localnet 1 0xa (Chain.blank ⟨1, 1719000000, Evm.launched⟩
      ⟨fun account => if account = 0xc then 10 ^ 24 else 0, fun _ _ => 0⟩) = .ok localVesting := rfl
  exact .legacy done

def idOf (beneficiary : Address) (count : Nat) : Bytes32 :=
  localnet.keccak256 [beneficiary.val, 10 ^ 21, count]

def collected : List Action :=
  [.call 0xa (.createCoreContributorSchedule 7 (10 ^ 21)),
    .call 0xa (.createPublicSalesSchedule 8 (10 ^ 21)), .call 0xa .executeTGE,
    .advance 100000 (365 * 86400), .call 8 (.transferBeneficiary (idOf 8 1) 7), .call 7 .releaseAll,
    .call 0xa (.revokeSchedule (idOf 7 0)), .advance 100000 (365 * 86400)]

theorem run_collectible_local :
    (Run.exec (attend localnet) (localVesting, .empty) collected).2.vestedAt (idOf 7 0) ≠ 0 ∧
      Collectible localnet (Run.exec (attend localnet) (localVesting, .empty) collected) :=
  ⟨by decide +kernel, run_collectible localVesting_initialized (by decide) _ (by decide +kernel)
    (by decide +kernel)⟩

theorem run_balanced_local :
    let state := (Run.exec (attend localnet) (localVesting, .empty) collected).1
    total releasedAmount state.vesting.schedules = state.vesting.totalReleased :=
  (run_balanced localVesting_initialized collected (by decide +kernel) (by decide +kernel)).1

def revokedEarly : List Action :=
  [.call 0xa (.createCoreContributorSchedule 7 (10 ^ 21)), .call 0xa .executeTGE,
    .advance 100000 (365 * 86400), .call 0xa (.revokeSchedule (idOf 7 0))]

def overfull : List Action :=
  (range 10).map (fun _ => .call 0xa (.createPublicSalesSchedule 7 (10 ^ 21))) ++
    [.call 0xa (.createPublicSalesSchedule 8 (10 ^ 21)), .call 0xa .executeTGE,
      .call 8 (.transferBeneficiary (idOf 8 10) 7)]

/-- A revocation takes what has vested from the beneficiary, and a list can be longer than what one
call pays. -/
theorem stranded_not_collectible :
    Initialized localnet localVesting ∧ localnet.address ≠ 0 ∧
      CollisionFree localnet (scheduleIds.map (·.1)) ∧
      ¬Collectible localnet (Run.exec (attend localnet) (localVesting, .empty) revokedEarly) ∧
      ¬Collectible localnet (Run.exec (attend localnet) (localVesting, .empty) overfull) := by
  refine ⟨localVesting_initialized, by decide, by decide +kernel, fun collectible => ?_,
    fun collectible => ?_⟩
  · have settled := collectible.settled (idOf 7 0) (by decide +kernel)
    exact absurd settled (by decide +kernel)
  · have bounded := collectible.indexed.bounded 7
    exact absurd bounded (by decide +kernel)

end Runs

end AethelredVesting
