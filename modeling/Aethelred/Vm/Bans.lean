import Aethelred.Vm.SlashTaken

/- Bans over a run of slashes. Each slash replaces the record of the address, so a ban lasts exactly
as long as nothing shorter is written over it. -/
namespace Vm

open Go Attempt

/-- Tombstoned, or banned beyond this time. -/
def BanRecord.isActive (ban : BanRecord) (currentTime : Nat) : Prop :=
  ban.tombstoned = true ∨ currentTime < ban.bannedUntil

namespace SlashingManager

variable (manager : SlashingManager)

/-- Tombstoned, or under a ban that is active. -/
def isBanned (address : Address) (currentTime : Nat) : Prop :=
  address ∈ manager.tombstones ∨
    ∃ ban, manager.bans.lookup address = some ban ∧ ban.isActive currentTime

def slashAll (conditions : List SlashingCondition) : SlashingManager :=
  conditions.foldl (fun manager condition => (executeSlash condition manager).2) manager

variable (condition : SlashingCondition)

/-- The slash succeeds. -/
def GoesThrough : Prop :=
  manager.Slashable condition ∧ manager.CanReward condition ∧ manager.CanBurn condition

instance :
    Decidable (manager.GoesThrough condition) := inferInstanceAs (Decidable (_ ∧ _))

def lastSlash (address : Address) :
    SlashingManager → List SlashingCondition → Option SlashingCondition
  | _, [] => none
  | manager, condition :: rest =>
    (lastSlash address (executeSlash condition manager).2 rest).or
      (if condition.offender = address ∧ manager.GoesThrough condition then some condition
        else none)

/-- A ban for this condition is active at the time. -/
def Bars (currentTime : Nat) : Prop :=
  condition.offenseType.severity = .Critical ∨
    currentTime < banUntil condition.offenseType.severity condition.timestamp

section Slashes

variable {manager after : SlashingManager} {condition : SlashingCondition} {address : Address}
  {currentTime : Nat}

/-- Bans and tombstones are as before. -/
def SameBans (before after : SlashingManager) : Prop :=
  after.bans = before.bans ∧ after.tombstones = before.tombstones

theorem SameBans.isBanned_iff (same : SameBans manager after) :
    after.isBanned address currentTime ↔ manager.isBanned address currentTime := by
  unfold isBanned
  rw [same.1, same.2]

theorem OnlyBank.bans (only : OnlyBank manager after) : SameBans manager after := by
  obtain ⟨bank, rfl⟩ := only
  exact ⟨rfl, rfl⟩

theorem executeSlash_of_goesThrough (through : manager.GoesThrough condition) :
    executeSlash condition manager =
      (.ok (manager.slashResult condition), manager.slashed condition) := by
  obtain ⟨slashable, rewards, burns⟩ := through
  obtain ⟨short, _⟩ | ⟨_, short, _⟩ | ⟨_, _, done⟩ := executeSlash_cases manager condition
  · exact absurd ⟨slashable, rewards⟩ short
  · exact absurd burns short
  · exact done

theorem executeSlash_of_not_goesThrough (not : ¬manager.GoesThrough condition) :
    OnlyBank manager (executeSlash condition manager).2 := by
  obtain ⟨_, _, bank, failed, _⟩ | ⟨_, _, _, bank, failed, _⟩ | ⟨both, burns, _⟩ :=
    executeSlash_cases manager condition
  · rw [failed]
    exact ⟨bank, rfl⟩
  · rw [failed]
    exact ⟨bank, rfl⟩
  · exact absurd ⟨both.1, both.2, burns⟩ not

theorem isTombstone_iff {severity : OffenseSeverity} :
    severity.isTombstone = true ↔ severity = .Critical := decide_eq_true_iff

/-- Who is banned after a slash. -/
theorem isBanned_slashed (standing : condition.offender ∉ manager.tombstones) :
    (manager.slashed condition).isBanned address currentTime ↔
      if condition.offender = address then Bars condition currentTime
      else manager.isBanned address currentTime := by
  have bans : (manager.slashed condition).bans.lookup address =
      if address = condition.offender then some _ else manager.bans.lookup address :=
    Map.lookup_insert_eq _ _ _ _
  have tombstones : address ∈ (manager.slashed condition).tombstones ↔
      (condition.offenseType.severity = .Critical ∧ address = condition.offender) ∨
        address ∈ manager.tombstones := by
    change address ∈ (if condition.offenseType.severity.isTombstone = true then _ else _) ↔ _
    split
    · rename_i critical
      rw [List.mem_insert_iff]
      simp [isTombstone_iff.mp critical]
    · rename_i mild
      simp [mt isTombstone_iff.mpr mild]
  unfold isBanned Bars
  rw [bans, tombstones]
  by_cases same : address = condition.offender
  · subst same
    rw [if_pos rfl, if_pos rfl]
    simp [BanRecord.isActive, standing, isTombstone_iff]
  · rw [if_neg same, if_neg (Ne.symm same)]
    simp [same]

theorem isBanned_executeSlash :
    (executeSlash condition manager).2.isBanned address currentTime ↔
      if condition.offender = address ∧ manager.GoesThrough condition then
        Bars condition currentTime
      else manager.isBanned address currentTime := by
  by_cases through : manager.GoesThrough condition
  · rw [executeSlash_of_goesThrough through, isBanned_slashed through.1.2.1]
    simp [through]
  · rw [(executeSlash_of_not_goesThrough through).bans.isBanned_iff,
      if_neg fun both => through both.2]

theorem isBanned_slashAll (conditions : List SlashingCondition) :
    (manager.slashAll conditions).isBanned address currentTime ↔
      match lastSlash address manager conditions with
      | some condition => Bars condition currentTime
      | none => manager.isBanned address currentTime := by
  induction conditions generalizing manager with
  | nil => exact Iff.rfl
  | cons condition rest ih =>
    refine ih.trans ?_
    rw [lastSlash]
    cases lastSlash address (executeSlash condition manager).2 rest with
    | some later => exact Iff.rfl
    | none =>
      refine isBanned_executeSlash.trans ?_
      rw [Option.none_or]
      split
      · exact Iff.rfl
      · exact Iff.rfl

/-- The last slash is of this address, not yet tombstoned. -/
theorem lastSlash_spec {conditions : List SlashingCondition}
    (found : lastSlash address manager conditions = some condition) :
    condition.offender = address ∧ address ∉ manager.tombstones := by
  induction conditions generalizing manager with
  | nil => cases found
  | cons head rest ih =>
    rw [lastSlash] at found
    cases later : lastSlash address (executeSlash head manager).2 rest with
    | none =>
      rw [later, Option.none_or] at found
      split at found
      · rename_i both
        cases found
        obtain ⟨rfl, through⟩ := both
        exact ⟨rfl, through.1.2.1⟩
      · cases found
    | some last =>
      rw [later, Option.some_or] at found
      cases found
      obtain ⟨same, standing⟩ := ih later
      refine ⟨same, fun tombstoned => standing ?_⟩
      by_cases through : manager.GoesThrough head
      · rw [executeSlash_of_goesThrough through]
        change address ∈ (if head.offenseType.severity.isTombstone = true then _ else _)
        split
        · exact List.mem_insert_of_mem tombstoned
        · exact tombstoned
      · rw [(executeSlash_of_not_goesThrough through).bans.2]
        exact tombstoned

end Slashes

section Lasting

variable {manager after : SlashingManager}

/-- No ban has been lifted or shortened. -/
def StillBanned (before after : SlashingManager) : Prop :=
  ∀ address currentTime, before.isBanned address currentTime → after.isBanned address currentTime

theorem StillBanned.refl (manager : SlashingManager) : StillBanned manager manager :=
  fun _ _ banned => banned

theorem StillBanned.trans {a b c : SlashingManager} (first : StillBanned a b)
    (second : StillBanned b c) : StillBanned a c :=
  fun address currentTime banned => second address currentTime (first address currentTime banned)

theorem SameBans.still (same : SameBans manager after) : StillBanned manager after :=
  fun _ _ banned => same.isBanned_iff.mpr banned

/-- An offence bans for ever, or no shorter than the offender is banned already. -/
def Covers (manager : SlashingManager) (condition : SlashingCondition) : Prop :=
  condition.offenseType.severity = .Critical ∨
    ∀ ban, manager.bans.lookup condition.offender = some ban →
      ban.tombstoned = false ∧
        ban.bannedUntil ≤ banUntil condition.offenseType.severity condition.timestamp

/-- Of each address, the last slash that goes through is of such an offence. -/
def Prolongs (manager : SlashingManager) (conditions : List SlashingCondition) : Prop :=
  ∀ address condition, lastSlash address manager conditions = some condition →
    manager.Covers condition

/-- No ban is cut short exactly if every slash prolongs. -/
theorem stillBanned_slashAll_iff (manager : SlashingManager) (conditions : List SlashingCondition) :
    StillBanned manager (manager.slashAll conditions) ↔ manager.Prolongs conditions := by
  constructor
  · intro still address condition found
    obtain ⟨rfl, standing⟩ := lastSlash_spec found
    have barred (currentTime : Nat) (banned : manager.isBanned condition.offender currentTime) :
        Bars condition currentTime := by
      have still := isBanned_slashAll conditions |>.mp (still _ _ banned)
      rwa [found] at still
    by_contra short
    obtain ⟨mild, ban, recorded, longer⟩ := not_or.mp short |>.imp_right fun all => by
      push Not at all
      exact all
    -- At the time the new ban ends the old one is still active.
    have active : ban.isActive
        (banUntil condition.offenseType.severity condition.timestamp) := by
      cases marked : ban.tombstoned with
      | true => exact .inl marked
      | false => exact .inr (longer marked)
    obtain critical | earlier := barred _ (.inr ⟨ban, recorded, active⟩)
    · exact mild critical
    · exact Nat.lt_irrefl _ earlier
  · intro prolongs address currentTime banned
    apply (isBanned_slashAll conditions).mpr
    cases found : lastSlash address manager conditions with
    | none => exact banned
    | some condition =>
      obtain ⟨rfl, standing⟩ := lastSlash_spec found
      obtain ⟨ban, recorded, active⟩ := banned.resolve_left standing
      refine (prolongs _ condition found).imp_right fun covers => ?_
      obtain ⟨unmarked, longer⟩ := covers ban recorded
      have earlier : currentTime < ban.bannedUntil := by
        refine active.resolve_left ?_
        rw [unmarked]
        exact Bool.false_ne_true
      exact Nat.lt_of_lt_of_le earlier longer

theorem moves_fault (challenge : Challenge) (currentTime : Nat) :
    Moves StillBanned (executeSlash (challenge.fault currentTime)) := by
  intro manager
  refine (stillBanned_slashAll_iff manager [_]).mpr fun address condition found => ?_
  rw [lastSlash, lastSlash, Option.none_or] at found
  split at found
  · cases found
    exact .inl rfl
  · cases found

theorem moves_finalizeChallenge (challengeId : Hash) (currentTime : Nat) :
    Moves StillBanned (finalizeChallenge challengeId currentTime) := by
  have refl := StillBanned.refl
  have onBank (call : Bank.Call Unit) : Moves StillBanned (onBank call) :=
    fun manager => (moves_onBank call manager).bans.still
  refine .bind .trans (moves_read refl) fun manager => ?_
  refine .bind .trans (moves_okOr refl _ _) fun challenge => ?_
  refine .bind .trans (fun _ => SameBans.still ⟨rfl, rfl⟩) fun _ => ?_
  refine .bind .trans (moves_read refl) fun manager => ?_
  split
  · exact .bind .trans (onBank _) fun _ => moves_fail refl _
  · split
    · exact .bind .trans (onBank _) fun _ => moves_fault challenge currentTime
    · refine .bind .trans (onBank _) fun _ => ?_
      exact .bind .trans (onBank _) fun _ => moves_pure refl _

theorem moves_submitChallenge (sha256 : List UInt8 → Hash) (challenger : Address) (jobId : JobId)
    (prover : Address) (originalResultHash : Hash) (challengerStake currentTime : Nat)
    (availableCommittee : List Address) :
    Moves StillBanned (submitChallenge sha256 challenger jobId prover originalResultHash
      challengerStake currentTime availableCommittee) := by
  have refl := StillBanned.refl
  refine .bind .trans (moves_read refl) fun manager => ?_
  refine .bind .trans (moves_ensure refl _ _) fun _ => ?_
  refine .bind .trans (fun manager => (moves_onBank _ manager).bans.still) fun _ => ?_
  refine .bind .trans (moves_ofExcept refl _) fun committee => ?_
  exact .bind .trans (fun _ => SameBans.still ⟨rfl, rfl⟩) fun _ => moves_pure refl _

theorem moves_submitCommitteeVote (challengeId : Hash) (vote : ChallengeVote) :
    Moves StillBanned (submitCommitteeVote challengeId vote) := by
  have refl := StillBanned.refl
  refine .bind .trans (moves_read refl) fun manager => ?_
  refine .bind .trans (moves_okOr refl _ _) fun challenge => ?_
  refine .bind .trans (moves_ensure refl _ _) fun _ => ?_
  refine .bind .trans (moves_ensure refl _ _) fun _ => ?_
  exact fun _ => SameBans.still ⟨rfl, rfl⟩

end Lasting

section Runs

variable (sha256 : List UInt8 → Hash)

structure Queued where
  manager : SlashingManager
  pendingSlashes : List SlashingCondition := []

/-- Slashes are executed at once or queued. -/
inductive QueueCall
  | call (call : SlashingCall)
  | queueSlash (condition : SlashingCondition)
  | processPendingSlashes

namespace Queued

variable (queued : Queued)

def queueSlash (condition : SlashingCondition) : Queued :=
  { queued with pendingSlashes := queued.pendingSlashes ++ [condition] }

def processPendingSlashes : Queued where
  manager := queued.manager.slashAll queued.pendingSlashes

def step : QueueCall → Queued
  | .call call => { queued with manager := queued.manager.step sha256 call }
  | .queueSlash condition => queued.queueSlash condition
  | .processPendingSlashes => queued.processPendingSlashes

/-- The slashes that a call executes do not end a ban early. A challenge that is finalised never
does. -/
def Prolongs : QueueCall → Prop
  | .call (.executeSlash condition) => queued.manager.Prolongs [condition]
  | .processPendingSlashes => queued.manager.Prolongs queued.pendingSlashes
  | _ => True

theorem step_iff (call : QueueCall) :
    StillBanned queued.manager (queued.step sha256 call).manager ↔ queued.Prolongs call := by
  have refl := StillBanned.refl
  cases call with
  | queueSlash condition => exact iff_of_true (refl _) trivial
  | processPendingSlashes => exact stillBanned_slashAll_iff _ _
  | call call =>
    cases call with
    | executeSlash condition => exact stillBanned_slashAll_iff _ [condition]
    | finalizeChallenge challengeId currentTime =>
      exact iff_of_true (moves_finalizeChallenge challengeId currentTime _) trivial
    | bank next => exact iff_of_true (SameBans.still ⟨rfl, rfl⟩) trivial
    | submitCommitteeVote challengeId vote =>
      exact iff_of_true (moves_submitCommitteeVote challengeId vote _) trivial
    | submitChallenge =>
      exact iff_of_true (moves_submitChallenge sha256 _ _ _ _ _ _ _ _) trivial

/-- In every run, who is banned at some moment for some time stays banned for it in all later states
exactly if each address's last offence of a call is critical or bans at least as long as the ban
it replaces. -/
theorem bans_last_iff (start : Queued) (calls : List QueueCall) :
    Run.Lasting (step sha256) (fun before after => StillBanned before.manager after.manager)
      start calls ↔ Run.Along (step sha256) Prolongs start calls := by
  refine Run.lasting_iff_of_step ?_ ?_ (step_iff sha256) calls
  · exact fun queued => .refl queued.manager
  · exact StillBanned.trans

end Queued

end Runs

instance (manager : SlashingManager) (address : Address) (currentTime : Nat) :
    Decidable (manager.isBanned address currentTime) :=
  decidable_of_iff (address ∈ manager.tombstones ∨
      (manager.bans.lookup address).any fun ban => ban.tombstoned || currentTime < ban.bannedUntil)
    (by
      unfold isBanned BanRecord.isActive
      cases manager.bans.lookup address <;> simp)

def timeout : SlashingCondition :=
  { doubleSign none with
    offenseType := .SlaTimeout
    timestamp := 1 }

/-- A double sign bans for thirty days. A timeout a second later, and the ban ends after a day. -/
theorem doubleSign_ban_not_lasting :
    ¬Run.Lasting (Queued.step sampleSha256)
      (fun before after => StillBanned before.manager after.manager) ⟨staked 1000, []⟩
      [.call (.executeSlash (doubleSign none)), .call (.executeSlash timeout)] := by
  intro lasting
  have banned : ((staked 1000).slashAll [doubleSign none]).isBanned 1 (2 * 24 * 60 * 60) := by
    decide +kernel
  have free : ¬((staked 1000).slashAll [doubleSign none, timeout]).isBanned 1
      (2 * 24 * 60 * 60) := by decide +kernel
  have still := lasting [.call (.executeSlash (doubleSign none))] [.call (.executeSlash timeout)]
    List.prefix_rfl
  simp only [List.singleton_append, Run.exec_cons, Run.exec_nil, Queued.step,
    SlashingManager.step] at still
  exact free (still 1 _ banned)

end SlashingManager

end Vm
