import Aethelred.Consensus.ResultsRoot
import Aethelred.Lib.Window
import Mathlib.Data.List.TakeWhile

/- The sliding window of compute jobs behind a validator's reputation (`reputation.rs`). Scores are
floating point and are a parameter. -/
namespace Consensus

open Go List

def slotsPerDay : Nat := 14400

def maxComplexity : Nat := 1000000000000

structure ReputationConfig where
  windowDays : Nat
  minComplexity : Nat
  maxJobsPerDay : UInt32
  enableSmoothing : Bool

structure ComputeJobRecord where
  jobId : Hash
  complexity : Nat
  verificationMethod : ResultMethod
  verifiedAtSlot : Nat
  success : Bool
  deriving DecidableEq

def ComputeJobRecord.clamped (job : ComputeJobRecord) : ComputeJobRecord :=
  { job with complexity := min job.complexity maxComplexity }

/-- `dailyJobCounts` holds day indices with their counts, the latest seven at most. -/
structure ValidatorReputation (F : Type) where
  currentScore : Nat := 0
  smoothedScore : F
  windowJobs : List ComputeJobRecord := []
  totalJobs : Nat := 0
  successfulJobs : Nat := 0
  failedJobs : Nat := 0
  totalComplexity : Nat := 0
  lastUpdateSlot : Nat := 0
  dailyJobCounts : List (Nat × Nat) := []
  activeStreak : Nat := 0
  lastActiveDay : Nat := 0

structure Scoring (F : Type) where
  zero : F
  calculateScore : ReputationConfig → ValidatorReputation F → Nat → Nat
  smooth : ReputationConfig → F → Nat → F

structure ScoreUpdate where
  validator : Address
  oldScore : Nat
  newScore : Nat
  delta : Int
  jobId : Hash

inductive ReputationError
  | ReputationUpdateFailed (address : Address) (reason : String)

/-- A job that was recorded, with the slot of the engine at that time. -/
structure Credit where
  validator : Address
  slot : Nat
  job : ComputeJobRecord

/-- `credited` is not kept by the code. -/
structure ReputationEngine (F : Type) where
  config : ReputationConfig
  validators : Map Address (ValidatorReputation F) := ∅
  currentSlot : Nat := 0
  credited : List Credit := []

namespace ValidatorReputation

variable {F : Type} (state : ValidatorReputation F)

def getDailyCount (day : Nat) : Nat :=
  ((state.dailyJobCounts.find? (·.1 = day)).map (·.2)).getD 0

def bumpFirst (day : Nat) : List (Nat × Nat) → List (Nat × Nat)
  | [] => []
  | (other, count) :: rest =>
    if other = day then (other, min (count + 1) (2 ^ 32 - 1)) :: rest
    else (other, count) :: bumpFirst day rest

def updateDailyCount (day : Nat) : ValidatorReputation F :=
  { state with
    dailyJobCounts :=
      if state.dailyJobCounts.any (·.1 = day) then bumpFirst day state.dailyJobCounts
      else state.dailyJobCounts.drop (state.dailyJobCounts.length - 6) ++ [(day, 1)] }

def updateActiveStreak (currentDay : Nat) : ValidatorReputation F :=
  let nextActiveDay := min (state.lastActiveDay + 1) (2 ^ 32 - 1)
  { state with
    activeStreak :=
      if state.lastActiveDay = 0 then 1
      else if currentDay = nextActiveDay then min (state.activeStreak + 1) (2 ^ 32 - 1)
      else if nextActiveDay < currentDay then 1
      else state.activeStreak
    lastActiveDay := currentDay }

def push (job : ComputeJobRecord) : ValidatorReputation F :=
  { state with
    windowJobs := state.windowJobs ++ [job]
    totalJobs := state.totalJobs + 1
    totalComplexity := state.totalComplexity + job.complexity
    successfulJobs := if job.success then state.successfulJobs + 1 else state.successfulJobs
    failedJobs := if job.success then state.failedJobs else state.failedJobs + 1 }

/-- What `record_job` makes of the state of a validator that may have another job. -/
def record (scoring : Scoring F) (config : ReputationConfig) (currentSlot currentDay : Nat)
    (job : ComputeJobRecord) : ValidatorReputation F :=
  let counted := ((state.push job).updateDailyCount currentDay).updateActiveStreak currentDay
  let newScore := scoring.calculateScore config counted currentSlot
  { counted with
    currentScore := newScore
    lastUpdateSlot := currentSlot
    smoothedScore :=
      if config.enableSmoothing then scoring.smooth config counted.smoothedScore newScore
      else counted.smoothedScore }

def pruneWindowJobs (windowStartSlot : Nat) : ValidatorReputation F :=
  { state with windowJobs := state.windowJobs.dropWhile (·.verifiedAtSlot < windowStartSlot) }

end ValidatorReputation

def ReputationConfig.windowStart (config : ReputationConfig) (currentSlot : Nat) : Nat :=
  currentSlot - config.windowDays * slotsPerDay

namespace ReputationEngine

variable {F : Type} (scoring : Scoring F) (engine : ReputationEngine F)

def updateSlot (slot : Nat) : ReputationEngine F := { engine with currentSlot := slot }

/-- The day index is a `u32`. -/
def currentDay : Nat := engine.currentSlot / slotsPerDay % 2 ^ 32

def recordJob (validator : Address) (job : ComputeJobRecord) :
    Except ReputationError ScoreUpdate × ReputationEngine F :=
  if job.complexity < engine.config.minComplexity then
    (.error (.ReputationUpdateFailed validator "Job complexity below minimum"), engine)
  else
    let job := job.clamped
    let state := (engine.validators.lookup validator).getD { smoothedScore := scoring.zero }
    if engine.config.maxJobsPerDay.toNat ≤ state.getDailyCount engine.currentDay then
      (.error (.ReputationUpdateFailed validator "Daily job limit exceeded"),
        { engine with validators := engine.validators.insert validator state })
    else
      let after := state.record scoring engine.config engine.currentSlot engine.currentDay job
      let delta := (after.currentScore : Int) - state.currentScore
      (.ok ⟨validator, state.currentScore, after.currentScore, delta, job.jobId⟩,
        { engine with
          validators := engine.validators.insert validator after
          credited := engine.credited ++ [⟨validator, engine.currentSlot, job⟩] })

def recordAll : ReputationEngine F → List (Address × ComputeJobRecord) →
    List ScoreUpdate × ReputationEngine F
  | engine, [] => ([], engine)
  | engine, (validator, job) :: rest =>
    let (outcome, after) := engine.recordJob scoring validator job
    let (updates, last) := recordAll after rest
    match outcome with
    | .ok update => (update :: updates, last)
    | .error _ => (updates, last)

def pruneExpiredJobs (currentSlot : Nat) : ReputationEngine F :=
  { engine with
    validators := engine.validators.mapValues
      (·.pruneWindowJobs (engine.config.windowStart currentSlot)) }

def processBlockResults (slot : Nat) (results : List (Address × ComputeJobRecord)) :
    List ScoreUpdate × ReputationEngine F :=
  let (updates, recorded) := (engine.updateSlot slot).recordAll scoring results
  (updates, recorded.pruneExpiredJobs slot)

/-- The ways jobs and slots reach the engine. -/
inductive Call
  | updateSlot (slot : Nat)
  | recordJob (validator : Address) (job : ComputeJobRecord)
  | processBlockResults (slot : Nat) (results : List (Address × ComputeJobRecord))

def step : Call → ReputationEngine F
  | .updateSlot slot => engine.updateSlot slot
  | .recordJob validator job => (engine.recordJob scoring validator job).2
  | .processBlockResults slot results => (engine.processBlockResults scoring slot results).2

variable (v : Address)

def windowOf : List ComputeJobRecord :=
  ((engine.validators.lookup v).map (·.windowJobs)).getD []

def creditedTo : List ComputeJobRecord :=
  (engine.credited.filter (·.validator = v)).map (·.job)

def creditsOn (day : Nat) : Nat :=
  engine.credited.countP fun credit => credit.validator = v ∧ credit.slot / slotsPerDay = day

def dailyCount : Nat :=
  ((engine.validators.lookup v).map (·.getDailyCount engine.currentDay)).getD 0

/-- The engine takes the job: heavy enough, and within the day's limit. -/
def Admits (job : ComputeJobRecord) : Prop :=
  engine.config.minComplexity ≤ job.complexity ∧
    engine.dailyCount v < engine.config.maxJobsPerDay.toNat

/-- The jobs of a validator that `record_job` takes from the results of a block. -/
def admitted (results : List (Address × ComputeJobRecord)) : List ComputeJobRecord :=
  (((results.filter (·.1 = v)).map (·.2)).filter
    (engine.config.minComplexity ≤ ·.complexity)).take
      (engine.config.maxJobsPerDay.toNat - engine.dailyCount v)

section Recording

variable {engine} {v : Address}

theorem getDailyCount_bumpFirst {day : Nat} {counts : List (Nat × Nat)}
    (present : counts.any (·.1 = day)) :
    (((ValidatorReputation.bumpFirst day counts).find? (·.1 = day)).map (·.2)).getD 0 =
      min (((counts.find? (·.1 = day)).map (·.2)).getD 0 + 1) (2 ^ 32 - 1) := by
  induction counts with
  | nil => simp at present
  | cons head rest ih =>
    unfold ValidatorReputation.bumpFirst
    by_cases same : head.1 = day
    · simp [same]
    · have later : rest.any (·.1 = day) := by simpa [same] using present
      simp [same, ih later]

theorem getDailyCount_updateDailyCount (state : ValidatorReputation F) (day : Nat) :
    (state.updateDailyCount day).getDailyCount day =
      min (state.getDailyCount day + 1) (2 ^ 32 - 1) := by
  unfold ValidatorReputation.updateDailyCount ValidatorReputation.getDailyCount
  split
  next present => exact getDailyCount_bumpFirst present
  next absent =>
    have none {counts : List (Nat × Nat)} (within : counts ⊆ state.dailyJobCounts) :
        counts.find? (·.1 = day) = .none := by
      rw [find?_eq_none]
      intro entry member
      simp only [any_eq_true, not_exists, not_and] at absent
      exact absent entry (within member)
    rw [none (Subset.refl _), find?_append, none (drop_subset ..)]
    simp

/-- The state `record_job` works on. -/
def entry (scoring : Scoring F) (engine : ReputationEngine F) (v : Address) :
    ValidatorReputation F :=
  (engine.validators.lookup v).getD { smoothedScore := scoring.zero }

theorem windowOf_eq_entry : engine.windowOf v = (entry scoring engine v).windowJobs := by
  unfold windowOf entry
  cases engine.validators.lookup v <;> rfl

theorem dailyCount_eq_entry :
    engine.dailyCount v = (entry scoring engine v).getDailyCount engine.currentDay := by
  unfold dailyCount entry
  cases engine.validators.lookup v <;> rfl

/-- Windows, counts, credits, config and slot are as before. -/
structure Untouched (after engine : ReputationEngine F) : Prop where
  windows : ∀ v, after.windowOf v = engine.windowOf v
  counts : ∀ v, after.dailyCount v = engine.dailyCount v
  credited : after.credited = engine.credited
  config : after.config = engine.config
  slot : after.currentSlot = engine.currentSlot

/-- The job is in its validator's window, counted and credited. -/
structure Taken (after engine : ReputationEngine F) (who : Address) (job : ComputeJobRecord) :
    Prop where
  windows : ∀ v, after.windowOf v = engine.windowOf v ++ if who = v then [job] else []
  counts : ∀ v, after.dailyCount v = engine.dailyCount v + if who = v then 1 else 0
  credited : after.credited = engine.credited ++ [⟨who, engine.currentSlot, job⟩]
  config : after.config = engine.config
  slot : after.currentSlot = engine.currentSlot

variable (engine : ReputationEngine F)

theorem entry_insert (who v : Address) (state : ValidatorReputation F) (credited : List Credit) :
    entry scoring { engine with
        validators := engine.validators.insert who state, credited := credited } v =
      if v = who then state else entry scoring engine v := by
  unfold entry
  split
  next same => rw [same, AList.lookup_insert, Option.getD_some]
  next other => rw [AList.lookup_insert_ne other]

/-- A job is admitted and taken, or nothing changes. -/
theorem recordJob_cases (who : Address) (job : ComputeJobRecord) :
    (engine.Admits who job ∧ Taken (engine.recordJob scoring who job).2 engine who job.clamped) ∨
      (¬engine.Admits who job ∧ Untouched (engine.recordJob scoring who job).2 engine) := by
  unfold recordJob Admits
  rw [dailyCount_eq_entry scoring]
  split
  next few => exact .inr ⟨fun admits => by omega, ⟨fun _ => rfl, fun _ => rfl, rfl, rfl, rfl⟩⟩
  next enough =>
    have same : (engine.validators.lookup who).getD { smoothedScore := scoring.zero } =
      entry scoring engine who := rfl
    simp only [same]
    split
    next full =>
      have entries (v : Address) := entry_insert scoring engine who v (entry scoring engine who)
        engine.credited
      have kept (v : Address) : (if v = who then entry scoring engine who
          else entry scoring engine v) = entry scoring engine v := by
        split
        next same => rw [same]
        next => rfl
      refine .inr ⟨fun admits => by omega, ⟨fun v => ?_, fun v => ?_, rfl, rfl, rfl⟩⟩
      · rw [windowOf_eq_entry scoring, windowOf_eq_entry scoring, entries, kept]
      · rw [dailyCount_eq_entry scoring, dailyCount_eq_entry scoring, entries, kept]
        rfl
    next room =>
      have entries (v : Address) := entry_insert scoring engine who v
        ((entry scoring engine who).record scoring engine.config engine.currentSlot
          engine.currentDay job.clamped)
        (engine.credited ++ [⟨who, engine.currentSlot, job.clamped⟩])
      refine .inl ⟨⟨by omega, by omega⟩, ⟨fun v => ?_, fun v => ?_, rfl, rfl, rfl⟩⟩
      · rw [windowOf_eq_entry scoring, windowOf_eq_entry scoring, entries]
        by_cases same : v = who
        · rw [if_pos same, if_pos same.symm, same]
          rfl
        · rw [if_neg same, if_neg (Ne.symm same), append_nil]
      · rw [dailyCount_eq_entry scoring, dailyCount_eq_entry scoring, entries]
        by_cases same : v = who
        · have bump := getDailyCount_updateDailyCount
            ((entry scoring engine who).push job.clamped) engine.currentDay
          have bound := engine.config.maxJobsPerDay.toNat_lt
          rw [if_pos same, if_pos same.symm, same]
          refine Eq.trans bump ?_
          change min ((entry scoring engine who).getDailyCount engine.currentDay + 1) _ = _
          omega
        · rw [if_neg same, if_neg (Ne.symm same)]
          rfl

theorem recordAll_cons (who : Address) (job : ComputeJobRecord)
    (rest : List (Address × ComputeJobRecord)) :
    (recordAll scoring engine ((who, job) :: rest)).2 =
      (recordAll scoring (engine.recordJob scoring who job).2 rest).2 := by
  rw [recordAll]
  rcases engine.recordJob scoring who job with ⟨outcome, after⟩
  cases outcome <;> rfl

/-- A block appends its admitted jobs to their validators' windows. -/
theorem windowOf_recordAll (results : List (Address × ComputeJobRecord)) (v : Address) :
    (recordAll scoring engine results).2.windowOf v =
      engine.windowOf v ++ (engine.admitted v results).map (·.clamped) := by
  induction results generalizing engine with
  | nil => simp [recordAll, admitted]
  | cons head rest ih =>
    obtain ⟨who, job⟩ := head
    rw [recordAll_cons, ih]
    unfold admitted
    obtain ⟨⟨enough, room⟩, taken⟩ | ⟨refused, untouched⟩ := recordJob_cases scoring engine who job
    · rw [taken.windows, taken.counts, taken.config]
      by_cases same : who = v
      · subst same
        have left : engine.config.maxJobsPerDay.toNat - engine.dailyCount who =
            engine.config.maxJobsPerDay.toNat - (engine.dailyCount who + 1) + 1 := by omega
        rw [left]
        simp [enough]
      · simp [same]
    · rw [untouched.windows, untouched.counts, untouched.config]
      by_cases same : who = v
      · subst same
        by_cases enough : engine.config.minComplexity ≤ job.complexity
        · have full : engine.config.maxJobsPerDay.toNat - engine.dailyCount who = 0 := by
            have := not_and.mp refused enough
            omega
          simp [full]
        · simp [enough]
      · simp [same]

end Recording

section Invariant

/-- What is gone from the window of a validator is too old, and the count of the current day covers
every job credited on it. -/
structure Kept (engine : ReputationEngine F) : Prop where
  history : ∀ v, ∃ gone, engine.creditedTo v = gone ++ engine.windowOf v ∧
    ∀ job ∈ gone, job.verifiedAtSlot < engine.config.windowStart engine.currentSlot
  past : ∀ credit ∈ engine.credited, credit.slot ≤ engine.currentSlot
  today : ∀ v, engine.creditsOn v (engine.currentSlot / slotsPerDay) ≤ engine.dailyCount v
  limit : ∀ v day, engine.creditsOn v day ≤ engine.config.maxJobsPerDay.toNat

variable {engine : ReputationEngine F} {after : ReputationEngine F}

theorem Kept.untouched (kept : engine.Kept) (same : Untouched after engine) : after.Kept where
  history v := by
    rw [creditedTo, same.credited, same.windows, same.config, same.slot]
    exact kept.history v
  past := by
    rw [same.credited, same.slot]
    exact kept.past
  today v := by
    rw [creditsOn, same.credited, same.slot, same.counts]
    exact kept.today v
  limit v day := by
    rw [creditsOn, same.credited, same.config]
    exact kept.limit v day

theorem creditsOn_taken {who : Address} {job : ComputeJobRecord} (taken : Taken after engine who job)
    (v : Address) (day : Nat) :
    after.creditsOn v day = engine.creditsOn v day +
      if who = v ∧ engine.currentSlot / slotsPerDay = day then 1 else 0 := by
  unfold creditsOn
  rw [taken.credited, countP_append, countP_singleton]
  simp only [decide_eq_true_eq]

/-- Taking a job within the day's limit keeps the history. -/
theorem Kept.taken (kept : engine.Kept) {who : Address} {job : ComputeJobRecord}
    (room : engine.dailyCount who < engine.config.maxJobsPerDay.toNat)
    (taken : Taken after engine who job) : after.Kept where
  history v := by
    obtain ⟨gone, split, old⟩ := kept.history v
    refine ⟨gone, ?_, ?_⟩
    · unfold creditedTo at split ⊢
      rw [taken.credited, taken.windows, filter_append, map_append, split,
        append_assoc]
      by_cases same : who = v <;> simp [same]
    · rw [taken.config, taken.slot]
      exact old
  past credit member := by
    rw [taken.slot]
    rw [taken.credited] at member
    rcases mem_append.mp member with before | new
    · exact kept.past credit before
    · rw [mem_singleton.mp new]
  today v := by
    rw [taken.slot, taken.counts, creditsOn_taken taken]
    have := kept.today v
    by_cases same : who = v <;> simp [same, this]
  limit v day := by
    rw [creditsOn_taken taken, taken.config]
    split
    next both =>
      obtain ⟨rfl, rfl⟩ := both
      have := kept.today who
      omega
    next => exact kept.limit v day

theorem Kept.recordJob (kept : engine.Kept) (who : Address) (job : ComputeJobRecord) :
    (engine.recordJob scoring who job).2.Kept := by
  obtain ⟨⟨-, room⟩, taken⟩ | ⟨-, untouched⟩ := recordJob_cases scoring engine who job
  · exact kept.taken room taken
  · exact kept.untouched untouched

theorem recordJob_same (engine : ReputationEngine F) (who : Address) (job : ComputeJobRecord) :
    (engine.recordJob scoring who job).2.config = engine.config ∧
      (engine.recordJob scoring who job).2.currentSlot = engine.currentSlot := by
  obtain ⟨-, taken⟩ | ⟨-, untouched⟩ := recordJob_cases scoring engine who job
  · exact ⟨taken.config, taken.slot⟩
  · exact ⟨untouched.config, untouched.slot⟩

theorem Kept.recordAll (kept : engine.Kept) (results : List (Address × ComputeJobRecord)) :
    (recordAll scoring engine results).2.Kept ∧
      (recordAll scoring engine results).2.config = engine.config ∧
      (recordAll scoring engine results).2.currentSlot = engine.currentSlot := by
  induction results generalizing engine with
  | nil => exact ⟨kept, rfl, rfl⟩
  | cons head rest ih =>
    obtain ⟨config, slot⟩ := recordJob_same scoring engine head.1 head.2
    rw [recordAll_cons, ← config, ← slot]
    exact ih (kept.recordJob scoring head.1 head.2)

/-- Moving on to a later slot keeps the history. -/
theorem Kept.updateSlot (kept : engine.Kept) {slot : Nat} (rising : engine.currentSlot ≤ slot) :
    (engine.updateSlot slot).Kept where
  history v := by
    obtain ⟨gone, split, old⟩ := kept.history v
    refine ⟨gone, split, fun job member => lt_of_lt_of_le (old job member) ?_⟩
    exact Nat.sub_le_sub_right rising _
  past credit member := (kept.past credit member).trans rising
  today v := by
    by_cases same : slot / slotsPerDay = engine.currentSlot / slotsPerDay
    · have covered := kept.today v
      unfold ReputationEngine.dailyCount ReputationEngine.currentDay at covered ⊢
      dsimp only [ReputationEngine.updateSlot]
      rw [same]
      exact covered
    · have none : (engine.updateSlot slot).creditsOn v (slot / slotsPerDay) = 0 := by
        unfold creditsOn
        rw [countP_eq_zero]
        intro credit member
        have before := Nat.div_le_div_right (c := slotsPerDay) (kept.past credit member)
        have later := Nat.div_le_div_right (c := slotsPerDay) rising
        simp only [decide_eq_true_eq, not_and]
        omega
      exact none.trans_le (Nat.zero_le _)
  limit := kept.limit

theorem windowOf_pruneExpiredJobs (engine : ReputationEngine F) (slot : Nat) (v : Address) :
    (engine.pruneExpiredJobs slot).windowOf v =
      (engine.windowOf v).dropWhile (·.verifiedAtSlot < engine.config.windowStart slot) := by
  unfold windowOf pruneExpiredJobs
  dsimp only
  rw [Map.lookup_mapValues]
  cases engine.validators.lookup v <;> rfl

theorem Kept.pruneExpiredJobs (kept : engine.Kept) :
    (engine.pruneExpiredJobs engine.currentSlot).Kept where
  history v := by
    obtain ⟨gone, split, old⟩ := kept.history v
    refine ⟨gone ++ (engine.windowOf v).takeWhile
      (·.verifiedAtSlot < engine.config.windowStart engine.currentSlot), ?_, ?_⟩
    · rw [windowOf_pruneExpiredJobs, append_assoc, takeWhile_append_dropWhile]
      exact split
    · intro job member
      rcases mem_append.mp member with before | now
      · exact old job before
      · have aged := mem_takeWhile_imp now
        exact of_decide_eq_true aged
  past := kept.past
  today v := by
    have covered := kept.today v
    unfold dailyCount at covered ⊢
    dsimp only [ReputationEngine.pruneExpiredJobs]
    rw [Map.lookup_mapValues, Option.map_map]
    exact covered
  limit := kept.limit

end Invariant

section Windows

/-- No day has more credits than the limit, and after the results of a block no window has a job
that is too old and none has lost one that is not. -/
def Leaves (engine : ReputationEngine F) (call : Call) : Prop :=
  let after := step scoring engine call
  (∀ v day, after.creditsOn v day ≤ after.config.maxJobsPerDay.toNat) ∧
    match call with
    | .processBlockResults slot _ => ∀ v,
      (∀ job ∈ after.windowOf v, after.config.windowStart slot ≤ job.verifiedAtSlot) ∧
        ((after.creditedTo v).filter (after.config.windowStart slot ≤ ·.verifiedAtSlot)).Sublist
          (after.windowOf v)
    | _ => True

/-- In no window does a job that is too old for the block stand behind one that is not. -/
def InOrder (engine : ReputationEngine F) : Call → Prop
  | .processBlockResults slot results => ∀ v,
    (engine.windowOf v ++ (engine.updateSlot slot).admitted v results).Pairwise fun first second =>
      engine.config.windowStart slot ≤ first.verifiedAtSlot →
        engine.config.windowStart slot ≤ second.verifiedAtSlot
  | _ => True

def Rising (engine : ReputationEngine F) : Call → Prop
  | .updateSlot slot => engine.currentSlot ≤ slot
  | .processBlockResults slot _ => engine.currentSlot ≤ slot
  | .recordJob .. => True

def new (config : ReputationConfig) : ReputationEngine F where
  config := config

variable {engine : ReputationEngine F}

theorem kept_new (config : ReputationConfig) : (new config : ReputationEngine F).Kept where
  history _ := ⟨[], rfl, nofun⟩
  past := nofun
  today _ := Nat.zero_le _
  limit _ _ := Nat.zero_le _

section

variable (kept : engine.Kept)
include kept

theorem Kept.processBlockResults {slot : Nat}
    (rising : engine.currentSlot ≤ slot) (results : List (Address × ComputeJobRecord)) :
    (engine.processBlockResults scoring slot results).2.Kept := by
  obtain ⟨recorded, -, at'⟩ := (kept.updateSlot rising).recordAll scoring results
  have pruned := recorded.pruneExpiredJobs
  rw [at'] at pruned
  exact pruned

theorem Kept.step (call : Call) (rising : engine.Rising call) :
    (step scoring engine call).Kept := by
  cases call with
  | updateSlot slot => exact kept.updateSlot rising
  | recordJob who job => exact kept.recordJob scoring who job
  | processBlockResults slot results => exact kept.processBlockResults scoring rising results

theorem Kept.young_sublist (v : Address) :
    ((engine.creditedTo v).filter
        (engine.config.windowStart engine.currentSlot ≤ ·.verifiedAtSlot)).Sublist
      (engine.windowOf v) := by
  obtain ⟨gone, split, old⟩ := kept.history v
  have none : gone.filter
      (engine.config.windowStart engine.currentSlot ≤ ·.verifiedAtSlot) = [] := by
    rw [filter_eq_nil_iff]
    intro job member
    have := old job member
    simp only [decide_eq_true_eq]
    omega
  rw [split, filter_append, none, nil_append]
  exact filter_sublist

theorem windows_young_iff {slot : Nat} (rising : engine.currentSlot ≤ slot)
    (results : List (Address × ComputeJobRecord)) (v : Address) :
    (∀ job ∈ (engine.processBlockResults scoring slot results).2.windowOf v,
        engine.config.windowStart slot ≤ job.verifiedAtSlot) ↔
      (engine.windowOf v ++ (engine.updateSlot slot).admitted v results).Pairwise
        fun first second => engine.config.windowStart slot ≤ first.verifiedAtSlot →
          engine.config.windowStart slot ≤ second.verifiedAtSlot := by
  obtain ⟨-, config, -⟩ := (kept.updateSlot rising).recordAll scoring results
  have window : (engine.processBlockResults scoring slot results).2.windowOf v =
      (engine.windowOf v ++ ((engine.updateSlot slot).admitted v results).map (·.clamped)).dropWhile
        (·.verifiedAtSlot < engine.config.windowStart slot) := by
    refine (windowOf_pruneExpiredJobs _ slot v).trans ?_
    rw [config, windowOf_recordAll]
    rfl
  have front := @Window.dropWhile_young_iff ComputeJobRecord
    (engine.windowOf v ++ ((engine.updateSlot slot).admitted v results).map (·.clamped))
    fun job => decide (job.verifiedAtSlot < engine.config.windowStart slot)
  simp only [decide_eq_false_iff_not, not_lt] at front
  rw [window, front]
  simp only [pairwise_append, pairwise_map, forall_mem_map]
  rfl

theorem leaves_iff (call : Call) (rising : engine.Rising call) :
    engine.Leaves scoring call ↔ engine.InOrder call := by
  have after := kept.step scoring call rising
  unfold Leaves
  refine (and_iff_right after.limit).trans ?_
  cases call with
  | updateSlot slot => exact Iff.rfl
  | recordJob who job => exact Iff.rfl
  | processBlockResults slot results =>
    obtain ⟨-, config, at'⟩ := (kept.updateSlot rising).recordAll scoring results
    have config : (step scoring engine (.processBlockResults slot results)).config =
      engine.config := config
    have at' : (step scoring engine (.processBlockResults slot results)).currentSlot = slot := at'
    refine forall_congr' fun v => ?_
    have young := after.young_sublist v
    rw [at'] at young
    rw [and_iff_left young, config]
    exact windows_young_iff scoring kept rising results v

end

/-- The windows are faithful and the days within their limits over a run exactly if no job of a
block that is too old stands behind one that is not. -/
theorem leaves_run_iff (config : ReputationConfig) (calls : List Call)
    (rising : Run.Along (step scoring) Rising (new config) calls) :
    Run.Along (step scoring) (Leaves scoring) (new config) calls ↔
      Run.Along (step scoring) InOrder (new config) calls :=
  Run.along_iff_of_fair (fun (engine : ReputationEngine F) call (kept : engine.Kept) later =>
      leaves_iff scoring kept call later)
    (fun (engine : ReputationEngine F) call (kept : engine.Kept) later _ =>
      kept.step scoring call later)
    (kept_new config) rising

def sampleScoring : Scoring Unit := ⟨(), fun _ _ _ => 0, fun _ _ _ => ()⟩

def sampleConfig : ReputationConfig := ⟨1, 100, 10, false⟩

def sampleJob (slot : Nat) : ComputeJobRecord := ⟨fun _ => 0, 500, .TeeAttestation, slot, true⟩

def sampleAddress : Address := 7

def sampleResults : List (Address × ComputeJobRecord) :=
  [(sampleAddress, sampleJob 100), (sampleAddress, sampleJob 20000)]

/-- The older of two jobs is admitted first, and the block that brings it prunes it. -/
theorem leaves_run_sample :
    (Run.exec (step sampleScoring) (new sampleConfig)
        [.processBlockResults 20000 sampleResults]).windowOf sampleAddress = [sampleJob 20000] ∧
      Run.Along (step sampleScoring) (Leaves sampleScoring) (new sampleConfig)
        [.processBlockResults 20000 sampleResults, .recordJob sampleAddress (sampleJob 20000)] := by
  refine ⟨by decide +kernel, (leaves_run_iff sampleScoring sampleConfig
    [.processBlockResults 20000 sampleResults, .recordJob sampleAddress (sampleJob 20000)]
    ⟨Nat.zero_le _, trivial, trivial⟩).mpr ⟨fun v => ?_, trivial, trivial⟩⟩
  by_cases own : v = sampleAddress
  · subst own
    decide +kernel
  · have others : sampleResults.filter (·.1 = v) = [] := by
      simp [sampleResults, Ne.symm own]
    rw [admitted, others, map_nil, filter_nil, take_nil, append_nil]
    exact Pairwise.nil

/-- A job verified at slot 100 comes with a block after one that was verified at its slot. -/
theorem old_job_kept :
    ¬Run.Along (step sampleScoring) (Leaves sampleScoring) (new sampleConfig)
      [.processBlockResults 20000
        [(sampleAddress, sampleJob 20000), (sampleAddress, sampleJob 100)]] := by
  intro leaves
  have young := (leaves.1.2 sampleAddress).1 (sampleJob 100)
  revert young
  decide +kernel

end Windows

end ReputationEngine

end Consensus
