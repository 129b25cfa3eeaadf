import Aethelred.Pouw.SelectionStep

/- The selection of the next jobs, turn by turn. -/
namespace Aethelred.Pouw

open Go List Option AList

namespace JobScheduler

open JobPriorityQueue

/-- The order of the jobs in the middle of a selection: they keep their ranks, and those popped come
in order, ahead of those still queued. -/
structure Ranked (start : JobScheduler) (sel : Selection) : Prop where
  queued : sel.Queued
  priority : ∀ id, priorityOf sel.scheduler.jobIndex id = priorityOf start.jobIndex id
  submitted : ∀ id, submittedOf sel.scheduler.jobIndex id = submittedOf start.jobIndex id
  sorted : sel.popped.Pairwise (InOrder start.jobIndex)
  ahead : ∀ id ∈ sel.popped, ∀ other ∈ sel.scheduler.jobQueue.entries,
    InOrder start.jobIndex id other

def Selection.popping (sel : Selection) (id : String) (jobQueue : JobPriorityQueue) : Selection :=
  { sel with scheduler := { sel.scheduler with jobQueue }, popped := sel.popped ++ [id] }

section Ranks

variable {start : JobScheduler} {sel : Selection} {id : String}

theorem Ranked.inOrder_iff (ranked : Ranked start sel) (left right : String) :
    InOrder sel.scheduler.jobIndex left right ↔ InOrder start.jobIndex left right := by
  simp only [JobPriorityQueue.inOrder_iff, ranked.priority, ranked.submitted]

theorem ranked_start {pool : ValidatorPool} (queued : start.Queued) :
    Ranked start ⟨start, pool, [], []⟩ :=
  ⟨queued, fun _ => rfl, fun _ => rfl, .nil, fun _ listed => (nomatch listed)⟩

/-- The next job popped ranks behind all before it. -/
theorem Ranked.pop (ranked : Ranked start sel) {jobQueue : JobPriorityQueue}
    (popped : Heap.pop (interface sel.scheduler.jobIndex) sel.scheduler.jobQueue =
      some (id, jobQueue)) :
    Ranked start (sel.popping id jobQueue) ∧ id ∉ sel.popped ∧
      ∃ sj, sel.scheduler.jobIndex.lookup id = some sj := by
  have queued : QueueHolds sel.scheduler.jobIndex sel.scheduler.jobQueue sel.popped := ranked.queued
  obtain ⟨rest, listed, least⟩ := queued.pop popped
  have apart := rest.nodup
  rw [perm_middle.nodup_iff, nodup_cons] at apart
  have kept : ∀ other ∈ jobQueue.entries, other ∈ sel.scheduler.jobQueue.entries := by
    intro other member
    have whole := rest.contents.trans queued.contents.symm
    have left := whole.subset (mem_append_left _ member)
    refine (mem_append.mp left).resolve_right fun again => ?_
    have later : other ∈ id :: sel.popped := mem_cons_of_mem _ again
    exact (nodup_append.mp rest.nodup).2.2 other member other later rfl
  have fresh : id ∉ sel.popped := fun again => apart.1 (mem_append_right _ again)
  have inside := rest.contents.subset (mem_append_right _ mem_cons_self)
  refine ⟨⟨?_, ranked.priority, ranked.submitted, ?_, ?_⟩, fresh, Map.mem_keys_iff.mp inside⟩
  · exact rest.perm (perm_append_singleton id sel.popped).symm
  · refine pairwise_append.mpr ⟨ranked.sorted, pairwise_singleton _ _, ?_⟩
    intro earlier before last here
    rw [mem_singleton] at here
    subst here
    exact ranked.ahead earlier before last listed
  · intro earlier before other member
    rcases mem_append.mp before with before | here
    · exact ranked.ahead earlier before other (kept other member)
    · rw [mem_singleton] at here
      subst here
      exact (ranked.inOrder_iff earlier other).mp (least other (kept other member))

theorem Ranked.tryAssign (ranked : Ranked start sel) {crypto : Crypto} {blockHeight : Int}
    {entropy : Bytes × EntropyMeta} {order : RangeOrder String} {sj : ScheduledJob}
    (found : sel.scheduler.jobIndex.lookup id = some sj) (pending : sj.job.status = .pending) :
    Ranked start (JobScheduler.tryAssign crypto blockHeight entropy order sel id sj) := by
  rcases tryAssign_cases crypto blockHeight entropy order sel id pending with
    ⟨_, next⟩ | ⟨_, _, next⟩ | ⟨_, _, keeper, metadata, next⟩
  · rw [next]
    exact ⟨ranked.queued, ranked.priority, ranked.submitted, ranked.sorted, ranked.ahead⟩
  · rw [next]
    exact ⟨ranked.queued, ranked.priority, ranked.submitted, ranked.sorted, ranked.ahead⟩
  · rw [next]
    refine ⟨holds_insert ranked.queued found rfl rfl, ?_, ?_, ranked.sorted, ranked.ahead⟩
    · intro other
      rw [← ranked.priority other]
      refine priorityOf_insert found ?_ other
      rfl
    · intro other
      rw [← ranked.submitted other]
      refine submittedOf_insert found ?_ other
      rfl

end Ranks

/-- What a selected job has been granted: validators and workers enough, each once and each fit for
the job. -/
structure Served (start : JobScheduler) (before granted : ScheduledJob) : Prop where
  eligible : JobScheduler.eligible start.config before = true
  processing : granted.job.status = .processing
  validators : granted.assignedTo.length = start.config.requiredValidators
  validators_nodup : granted.assignedTo.Nodup
  validators_fit : ∀ address ∈ granted.assignedTo, ∃ cap,
    start.validatorCapabilities.lookup address = some cap ∧ cap.address ≠ "" ∧
      cap.isOnline = true ∧ cap.supports before.job.proofType = true
  workers : granted.assignedWorkers.length = start.config.requiredWorkers
  workers_nodup : granted.assignedWorkers.Nodup
  workers_fit : ∀ id ∈ granted.assignedWorkers, ∃ worker,
    start.executionWorkers.lookup id = some worker ∧ worker.isOnline = true ∧
      worker.attested = true ∧ worker.lane = before.executionLane ∧
        worker.supports before.job.proofType = true

/-- How many of the jobs `ids` hold a slot under `key`. -/
def slotsHeld (held : ScheduledJob → List String) (jobs : JobIndex) (ids : List String)
    (key : String) : Nat :=
  ids.countP fun id => (jobs.lookup id).any fun sj => key ∈ held sj

theorem slotsHeld_append {held : ScheduledJob → List String} {jobs : JobIndex} {ids : List String}
    {id : String} (fresh : id ∉ ids) (sj : ScheduledJob) (key : String) :
    slotsHeld held (jobs.insert id sj) (ids ++ [id]) key =
      slotsHeld held jobs ids key + if key ∈ held sj then 1 else 0 := by
  unfold slotsHeld
  rw [countP_append, countP_singleton]
  congr 1
  · apply countP_congr
    intro other member
    have apart : other ≠ id := fun same => fresh (same ▸ member)
    rw [lookup_insert_ne apart]
  · rw [lookup_insert, any_some]
    simp

/-- What the selection has granted so far. Only the jobs it has chosen and the counters of their
validators and workers are not as they were. -/
structure Granted (start : JobScheduler) (sel : Selection) : Prop where
  config : sel.scheduler.config = start.config
  untouched : ∀ id, id ∉ sel.chosen →
    sel.scheduler.jobIndex.lookup id = start.jobIndex.lookup id
  served : ∀ id ∈ sel.chosen, ∃ before granted, start.jobIndex.lookup id = some before ∧
    sel.scheduler.jobIndex.lookup id = some granted ∧ Served start before granted
  chosen : sel.chosen.Sublist sel.popped
  few : sel.chosen.length ≤ start.config.maxJobsPerBlock.toNat
  validators : Ledger.Drawn validatorSlots start.validatorCapabilities
    sel.scheduler.validatorCapabilities
    (slotsHeld (·.assignedTo) sel.scheduler.jobIndex sel.chosen)
  workers : Ledger.Drawn workerSlots start.executionWorkers sel.scheduler.executionWorkers
    (slotsHeld (·.assignedWorkers) sel.scheduler.jobIndex sel.chosen)
  pool : sel.pool.Holds start.validatorCapabilities

/-- Queue and index agree, and records are filed under their ids. -/
structure Ready (s : JobScheduler) : Prop where
  queued : s.Queued
  validators : s.validatorCapabilities.Keyed
  workers : s.executionWorkers.Keyed

theorem eligible_pending {config : SchedulerConfig} {sj : ScheduledJob}
    (suits : eligible config sj = true) : sj.job.status = .pending := by
  unfold eligible at suits
  simp only [Bool.and_eq_true, decide_eq_true_eq] at suits
  exact suits.1

section Grants

variable {start : JobScheduler} {sel : Selection} {id : String} {sj : ScheduledJob}
  {crypto : Crypto} {blockHeight : Int} {entropy : Bytes × EntropyMeta} {order : RangeOrder String}

theorem granted_start (ready : Ready start) (visits : RangeOrder String) :
    Granted start ⟨start, .newValidatorPool start.validatorCapabilities visits, [], []⟩ where
  config := rfl
  untouched _ _ := rfl
  served _ listed := nomatch listed
  chosen := .slnil
  few := Nat.zero_le _
  validators := .refl validatorSlots start.validatorCapabilities
  workers := .refl workerSlots start.executionWorkers
  pool := (ValidatorPool.newValidatorPool_holds ready.validators visits).1

section

variable (granted : Granted start sel)
include granted

theorem Granted.popping (jobQueue : JobPriorityQueue) : Granted start (sel.popping id jobQueue) :=
  { granted with chosen := granted.chosen.trans (sublist_append_left _ _) }

section

variable (ready : Ready start)
include ready

theorem Granted.validators_keyed :
    sel.scheduler.validatorCapabilities.Keyed :=
  Capabilities.Keyed.raised granted.validators.raised ready.validators

theorem Granted.workers_keyed : sel.scheduler.executionWorkers.Keyed :=
  ExecutionWorkers.Keyed.raised granted.workers.raised ready.workers

theorem Granted.outcome :
    (sel.pool.Outcome sel.scheduler.validatorCapabilities crypto sj.job.proofType
      sel.scheduler.config.requiredValidators (validatorsFor crypto entropy sel sj)) := by
  apply ValidatorPool.assign_outcome (granted.validators_keyed ready)
  · exact granted.pool.raised granted.validators.raised
  · exact sel.scheduler.config.requiredValidators_pos

theorem Granted.narrowed :
    (validatorsFor crypto entropy sel sj).pool.Holds start.validatorCapabilities := by
  refine ⟨(ValidatorPool.assign_spec granted.pool.distinct).2, fun proofType address listed => ?_⟩
  have here := (granted.outcome ready).narrowed proofType address listed
  exact granted.pool.sound proofType address here

end

theorem Granted.assigned :
    ((validatorsFor crypto entropy sel sj).addresses.length <
        sel.scheduler.config.requiredValidators →
      (validatorsFor crypto entropy sel sj).caps = sel.scheduler.validatorCapabilities) ∧
    (sel.scheduler.config.requiredValidators ≤
        (validatorsFor crypto entropy sel sj).addresses.length →
      ValidatorPool.Assigns sel.scheduler.validatorCapabilities
        sel.scheduler.config.requiredValidators (validatorsFor crypto entropy sel sj)) := by
  have positive := sel.scheduler.config.requiredValidators_pos
  have spec : (validatorsFor crypto entropy sel sj).addresses = [] ∧
        (validatorsFor crypto entropy sel sj).caps = sel.scheduler.validatorCapabilities ∨
      ValidatorPool.Assigns sel.scheduler.validatorCapabilities
        sel.scheduler.config.requiredValidators (validatorsFor crypto entropy sel sj) :=
    (ValidatorPool.assign_spec granted.pool.distinct).1
  rcases spec with ⟨none, same⟩ | assigns
  · refine ⟨fun _ => same, fun enough => ?_⟩
    rw [none, length_nil] at enough
    omega
  · refine ⟨fun few => ?_, fun _ => assigns⟩
    have length := assigns.length
    omega

theorem Granted.staffed (ready : Ready start)
    (enough : sel.scheduler.config.requiredWorkers ≤ (workersFor order sel sj).1.length) :
    ExecutionWorkers.Assigns sel.scheduler.executionWorkers sel.scheduler.config.requiredWorkers
      (workersFor order sel sj) := by
  rcases ExecutionWorkers.assign_spec (granted.workers_keyed ready) with none | assigns
  · have nonneg := sel.scheduler.config.requiredWorkers_nonneg
    unfold workersFor at enough ⊢
    rw [none] at enough ⊢
    rw [length_nil] at enough
    refine ⟨?_, .nil, fun id listed => (nomatch listed), rfl⟩
    rw [length_nil]
    omega
  · exact assigns

theorem Granted.serves (ready : Ready start) (suits : eligible start.config sj = true)
    (validators : ValidatorPool.Assigns sel.scheduler.validatorCapabilities
      sel.scheduler.config.requiredValidators (validatorsFor crypto entropy sel sj))
    (workers : ExecutionWorkers.Assigns sel.scheduler.executionWorkers
      sel.scheduler.config.requiredWorkers (workersFor order sel sj))
    (metadata : Map String String) :
    Served start sj (selected sj { sj.job with status := .processing, metadata := metadata }
      (validatorsFor crypto entropy sel sj) (workersFor order sel sj).1 blockHeight entropy) := by
  refine ⟨suits, rfl, ?_, validators.nodup, ?_, ?_, workers.nodup, ?_⟩
  · rw [← granted.config]
    exact validators.length
  · intro address member
    exact granted.pool.sound _ address ((granted.outcome ready).taken address member)
  · rw [← granted.config]
    exact workers.length
  · intro id member
    have able := (ExecutionWorkers.assign_outcome (granted.workers_keyed ready)).2 id member
    obtain ⟨worker, found, serves⟩ := able
    obtain ⟨before, earlier, served⟩ :=
      ExecutionWorkers.canServe_source granted.workers.raised found serves
    obtain ⟨online, attested, _, _, inLane, supported⟩ := canServe_iff.mp served
    exact ⟨before, earlier, online, attested, inLane, supported⟩

theorem Granted.draw_validators
    (validators : ValidatorPool.Assigns sel.scheduler.validatorCapabilities
      sel.scheduler.config.requiredValidators (validatorsFor crypto entropy sel sj)) :
    Ledger.Drawn validatorSlots start.validatorCapabilities
      (validatorsFor crypto entropy sel sj).caps
      fun address => slotsHeld (·.assignedTo) sel.scheduler.jobIndex sel.chosen address +
        if address ∈ (validatorsFor crypto entropy sel sj).addresses then 1 else 0 := by
  have taken : Ledger.Adjusted validatorSlots sel.scheduler.validatorCapabilities
      (validatorsFor crypto entropy sel sj).caps (validatorsFor crypto entropy sel sj).addresses
      fun current => current + 1 := by
    rw [validators.taken]
    exact Capabilities.adjusted_count validators.nodup _
  refine granted.validators.adjusted taken fun address member cap found => ?_
  have room := Capabilities.room_of_freeAt (validators.free address member) found
  exact ⟨Int.le_refl _, room⟩

theorem Granted.draw_workers (workers : ExecutionWorkers.Assigns sel.scheduler.executionWorkers
      sel.scheduler.config.requiredWorkers (workersFor order sel sj)) :
    Ledger.Drawn workerSlots start.executionWorkers (workersFor order sel sj).2
      fun id => slotsHeld (·.assignedWorkers) sel.scheduler.jobIndex sel.chosen id +
        if id ∈ (workersFor order sel sj).1 then 1 else 0 := by
  have taken : Ledger.Adjusted workerSlots sel.scheduler.executionWorkers
      (workersFor order sel sj).2 (workersFor order sel sj).1 fun current => current + 1 := by
    rw [workers.taken]
    exact ExecutionWorkers.adjusted_takeSlot workers.nodup
  refine granted.workers.adjusted taken fun id member worker found => ?_
  obtain ⟨other, same, room⟩ := workers.free id member
  obtain rfl := some.inj (found.symm.trans same)
  exact ⟨Int.le_refl _, room⟩

theorem Granted.return_validators
    (validators : ValidatorPool.Assigns sel.scheduler.validatorCapabilities
      sel.scheduler.config.requiredValidators (validatorsFor crypto entropy sel sj)) :
    Ledger.Drawn validatorSlots start.validatorCapabilities
      ((validatorsFor crypto entropy sel sj).addresses.foldl Capabilities.releaseTakenSlot
        (validatorsFor crypto entropy sel sj).caps)
      (slotsHeld (·.assignedTo) sel.scheduler.jobIndex sel.chosen) := by
  have returned : Ledger.Adjusted validatorSlots sel.scheduler.validatorCapabilities
      ((validatorsFor crypto entropy sel sj).addresses.foldl Capabilities.releaseTakenSlot
        (validatorsFor crypto entropy sel sj).caps) (validatorsFor crypto entropy sel sj).addresses
      fun current => if current + 1 > 0 then current + 1 - 1 else current + 1 := by
    rw [validators.taken]
    exact Capabilities.adjusted_released validators.nodup
  refine granted.validators.returned returned fun address member cap found => ?_
  have room := Capabilities.room_of_freeAt (validators.free address member) found
  have held : validatorSlots.held cap = cap.currentJobs := rfl
  have limit : validatorSlots.limit cap = cap.maxConcurrentJobs := rfl
  rw [held, limit]
  split <;> omega

/-- An assignment grants what it takes. -/
theorem Granted.tryAssign (ready : Ready start) (found : sel.scheduler.jobIndex.lookup id = some sj)
    (suits : eligible start.config sj = true) (fresh : id ∉ sel.chosen)
    (last : (sel.chosen ++ [id]).Sublist sel.popped)
    (room : sel.chosen.length < start.config.maxJobsPerBlock) :
    Granted start (JobScheduler.tryAssign crypto blockHeight entropy order sel id sj) := by
  have narrowed : (validatorsFor crypto entropy sel sj).pool.Holds start.validatorCapabilities :=
    granted.narrowed ready
  rcases tryAssign_cases crypto blockHeight entropy order sel id (eligible_pending suits) with
    ⟨_, next⟩ | ⟨enough, _, next⟩ | ⟨enough, staffed, keeper, metadata, next⟩
  · rw [next]
    exact { granted with pool := narrowed }
  · have validators := granted.assigned.2 enough
    rw [next]
    exact { granted with pool := narrowed, validators := granted.return_validators validators }
  · have validators := granted.assigned.2 enough
    have workers := granted.staffed ready staffed
    rw [next]
    refine ⟨granted.config, ?_, ?_, last, ?_, ?_, ?_, narrowed⟩
    · intro other outside
      rw [mem_append, mem_singleton, not_or] at outside
      rw [lookup_insert_ne outside.2]
      exact granted.untouched other outside.1
    · intro other member
      rcases mem_append.mp member with earlier | here
      · obtain ⟨before, held, was, now, served⟩ := granted.served other earlier
        have apart : other ≠ id := fun same => fresh (same ▸ earlier)
        refine ⟨before, held, was, ?_, served⟩
        rw [lookup_insert_ne apart]
        exact now
      · rw [mem_singleton] at here
        subst here
        refine ⟨sj, _, ?_, lookup_insert _, granted.serves ready suits validators workers _⟩
        rw [← granted.untouched other fresh]
        exact found
    · rw [length_append, length_singleton]
      omega
    · exact (granted.draw_validators validators).congr (slotsHeld_append fresh _)
    · exact (granted.draw_workers workers).congr (slotsHeld_append fresh _)

end

end Grants

/-- Fewer validators are available to a job than it needs, or fewer workers can serve it. -/
def TooFew (s : JobScheduler) (sj : ScheduledJob) : Prop :=
  s.validatorCapabilities.countP (·.available sj.job.proofType) < s.config.requiredValidators ∨
    s.executionWorkers.serving sj.job sj.executionLane < s.config.requiredWorkers

instance (s : JobScheduler) (sj : ScheduledJob) : Decidable (s.TooFew sj) :=
  inferInstanceAs (Decidable (_ ∨ _))

theorem TooFew.raised {s later : JobScheduler} {sj : ScheduledJob} (short : s.TooFew sj)
    (config : later.config = s.config)
    (validators : Ledger.Raised validatorSlots s.validatorCapabilities later.validatorCapabilities)
    (workers : Ledger.Raised workerSlots s.executionWorkers later.executionWorkers) :
    later.TooFew sj := by
  unfold TooFew at *
  rw [config]
  have fewer := Capabilities.countP_available_le validators sj.job.proofType
  have served : later.executionWorkers.serving sj.job sj.executionLane ≤
    s.executionWorkers.serving sj.job sj.executionLane := ExecutionWorkers.serving_le workers
  omega

/-- A job is refused its workers after one of its validators took its last free slot for it. -/
def LosesSlot (crypto : Crypto) (entropy : Bytes × EntropyMeta) (order : RangeOrder String)
    (sel : Selection) (sj : ScheduledJob) : Prop :=
  let validators := validatorsFor crypto entropy sel sj
  sel.scheduler.config.requiredValidators ≤ validators.addresses.length ∧
    (workersFor order sel sj).1.length < sel.scheduler.config.requiredWorkers ∧
    ∃ address ∈ validators.addresses, validators.caps.freeAt address = false

/-- The pool still has every available validator, and every job passed over met a shortage. -/
structure Spent (sel : Selection) : Prop where
  complete : sel.pool.Complete sel.scheduler.validatorCapabilities
  passed : ∀ id ∈ sel.popped, id ∉ sel.chosen → ∀ sj,
    sel.scheduler.jobIndex.lookup id = some sj → eligible sel.scheduler.config sj = true →
      sel.scheduler.TooFew sj

section Leftovers

variable {start : JobScheduler} {sel : Selection} {id : String} {sj : ScheduledJob}
  {crypto : Crypto} {blockHeight : Int} {entropy : Bytes × EntropyMeta} {order : RangeOrder String}

variable {a : ValidatorPool.Assignment}

theorem complete_assigned {caps later : Capabilities} {p : ValidatorPool} {proofType : ProofType}
    {required : Int} (outcome : p.Outcome caps crypto proofType required a)
    (complete : p.Complete caps) (risen : Ledger.Raised validatorSlots caps later)
    (free : ∀ address, later.freeAt address = true → a.caps.freeAt address = true) :
    a.pool.Complete later := by
  intro other address cap found available
  obtain ⟨before, earlier, was⟩ := Capabilities.available_source risen found available
  refine outcome.kept other address (complete other address before earlier was) (free address ?_)
  unfold ValidatorCapability.available at available
  simp only [Bool.and_eq_true] at available
  exact Capabilities.freeAt_eq_true.mpr ⟨cap, found, available.1.2⟩

/-- A job passed over stays in want of validators. -/
theorem passed_on {next : Selection}
    (earlier : ∀ other ∈ sel.popped, other ≠ id → other ∉ sel.chosen → ∀ sj,
      sel.scheduler.jobIndex.lookup other = some sj → eligible sel.scheduler.config sj = true →
        sel.scheduler.TooFew sj) (popped : next.popped = sel.popped)
    (chosen : ∀ other ∈ sel.chosen, other ∈ next.chosen)
    (config : next.scheduler.config = sel.scheduler.config) (others : ∀ other, other ≠ id →
      next.scheduler.jobIndex.lookup other = sel.scheduler.jobIndex.lookup other)
    (validators : Ledger.Raised validatorSlots sel.scheduler.validatorCapabilities
      next.scheduler.validatorCapabilities)
    (workers : Ledger.Raised workerSlots sel.scheduler.executionWorkers
      next.scheduler.executionWorkers)
    (own : id ∉ next.chosen → ∀ sj, next.scheduler.jobIndex.lookup id = some sj →
      next.scheduler.TooFew sj) :
    ∀ other ∈ next.popped, other ∉ next.chosen → ∀ sj,
      next.scheduler.jobIndex.lookup other = some sj → eligible next.scheduler.config sj = true →
        next.scheduler.TooFew sj := by
  intro other member left sj found suits
  by_cases same : other = id
  · subst same
    exact own left sj found
  · rw [popped] at member
    rw [others other same] at found
    rw [config] at suits
    have short := earlier other member same (fun was => left (chosen other was)) sj found suits
    exact short.raised config validators workers

section

variable {caps : Capabilities} {required : Int} (assigns : ValidatorPool.Assigns caps required a)
include assigns

theorem raised_taken :
    Ledger.Raised validatorSlots caps a.caps := by
  rw [assigns.taken]
  refine Ledger.Adjusted.raised (Capabilities.adjusted_count assigns.nodup _) fun amount => ?_
  omega

theorem raised_released :
    Ledger.Raised validatorSlots caps
      (a.addresses.foldl Capabilities.releaseTakenSlot a.caps) := by
  rw [assigns.taken]
  refine (Capabilities.adjusted_released assigns.nodup).raised fun amount => ?_
  split <;> omega

end

theorem free_released (distinct : a.addresses.Nodup)
    (kept : ∀ address ∈ a.addresses, a.caps.freeAt address = true) (address : String)
    (free : (a.addresses.foldl Capabilities.releaseTakenSlot a.caps).freeAt address = true) :
    a.caps.freeAt address = true := by
  by_cases member : address ∈ a.addresses
  · exact kept address member
  · have adjusted : Ledger.Adjusted validatorSlots a.caps
        (a.addresses.foldl Capabilities.releaseTakenSlot a.caps) a.addresses
        fun current => if current > 0 then current - 1 else current :=
      Capabilities.adjusted_count distinct _
    have same := adjusted address
    rw [if_neg member] at same
    unfold Capabilities.freeAt at *
    rwa [same] at free

/-- An eligible job that is not assigned found too few validators. -/
theorem Spent.tryAssign (granted : Granted start sel) (ready : Ready start)
    (verifies : crypto.Verifies) (complete : sel.pool.Complete sel.scheduler.validatorCapabilities)
    (earlier : ∀ other ∈ sel.popped, other ≠ id → other ∉ sel.chosen → ∀ sj,
      sel.scheduler.jobIndex.lookup other = some sj → eligible sel.scheduler.config sj = true →
        sel.scheduler.TooFew sj) (found : sel.scheduler.jobIndex.lookup id = some sj)
    (suits : eligible start.config sj = true) (keeps : ¬LosesSlot crypto entropy order sel sj) :
    Spent (JobScheduler.tryAssign crypto blockHeight entropy order sel id sj) := by
  have outcome : sel.pool.Outcome sel.scheduler.validatorCapabilities crypto sj.job.proofType
    sel.scheduler.config.requiredValidators (validatorsFor crypto entropy sel sj) :=
    granted.outcome ready
  rcases tryAssign_cases crypto blockHeight entropy order sel id (eligible_pending suits) with
    ⟨few, next⟩ | ⟨enough, refused, next⟩ | ⟨enough, staffed, keeper, metadata, next⟩
  · rw [next]
    have same := granted.assigned.1 few
    refine ⟨complete_assigned outcome complete (.refl _ _) fun address free => ?_,
      passed_on earlier rfl (fun _ was => was) rfl (fun _ _ => rfl) (.refl _ _) (.refl _ _) ?_⟩
    · rwa [same]
    · intro _ other here
      obtain rfl := some.inj (found.symm.trans here)
      exact .inl (outcome.failed few verifies complete)
  · rw [next]
    have validators := granted.assigned.2 enough
    have kept : ∀ address ∈ (validatorsFor crypto entropy sel sj).addresses,
        (validatorsFor crypto entropy sel sj).caps.freeAt address = true := by
      intro address member
      by_contra full
      exact keeps ⟨enough, refused, address, member, Bool.eq_false_iff.mpr full⟩
    refine ⟨complete_assigned outcome complete (raised_released validators)
        (free_released validators.nodup kept),
      passed_on earlier rfl (fun _ was => was) rfl (fun _ _ => rfl) (raised_released validators)
        (.refl _ _) ?_⟩
    intro _ other here
    obtain rfl := some.inj (found.symm.trans here)
    exact .inr ((ExecutionWorkers.assign_outcome (granted.workers_keyed ready)).1 refused)
  · rw [next]
    have validators := granted.assigned.2 enough
    have workers := granted.staffed ready staffed
    refine ⟨complete_assigned outcome complete (raised_taken validators) fun _ free => free,
      passed_on earlier rfl (fun _ was => mem_append_left _ was) rfl
        (fun other differs => lookup_insert_ne differs) (raised_taken validators) ?_ ?_⟩
    · rw [workers.taken]
      refine (ExecutionWorkers.adjusted_takeSlot workers.nodup).raised fun amount => ?_
      omega
    · intro left
      exact absurd (mem_append_right _ mem_cons_self) left

end Leftovers

/-- The selection takes jobs by rank and grants what they ask for. -/
structure Selecting (start : JobScheduler) (sel : Selection) : Prop where
  ranked : Ranked start sel
  granted : Granted start sel

section Loop

variable {start : JobScheduler} {crypto : Crypto} {blockHeight : Int}
  {entropy : Bytes × EntropyMeta} {orders : RangeOrders}

def KeepsSlots (crypto : Crypto) (blockHeight : Int) (entropy : Bytes × EntropyMeta)
    (orders : RangeOrders) : Nat → Selection → Prop
  | 0, _ => True
  | fuel + 1, sel =>
    sel.chosen.length < sel.scheduler.config.maxJobsPerBlock →
      ∀ id jobQueue, Heap.pop (interface sel.scheduler.jobIndex) sel.scheduler.jobQueue =
          some (id, jobQueue) →
        let order := orders.workers sel.popped.length
        (∀ sj, sel.scheduler.jobIndex.lookup id = some sj →
          eligible sel.scheduler.config sj = true →
            ¬LosesSlot crypto entropy order (sel.popping id jobQueue) sj) ∧
        KeepsSlots crypto blockHeight entropy orders fuel
          (consider crypto blockHeight entropy order
            { sel with scheduler := { sel.scheduler with jobQueue } } id)

variable {sel : Selection}

/-- Considering one job keeps the selection's promises. -/
theorem Selecting.consider (selecting : Selecting start sel) (ready : Ready start)
    (room : sel.chosen.length < start.config.maxJobsPerBlock) {id : String}
    {jobQueue : JobPriorityQueue}
    (popped : Heap.pop (interface sel.scheduler.jobIndex) sel.scheduler.jobQueue =
      some (id, jobQueue)) (order : RangeOrder String) :
    let next := JobScheduler.consider crypto blockHeight entropy order
      { sel with scheduler := { sel.scheduler with jobQueue } } id
    Selecting start next ∧
      (crypto.Verifies → Spent sel → (∀ sj, sel.scheduler.jobIndex.lookup id = some sj →
        eligible sel.scheduler.config sj = true →
          ¬LosesSlot crypto entropy order (sel.popping id jobQueue) sj) → Spent next) := by
  obtain ⟨ranked, granted⟩ := selecting
  obtain ⟨turned, fresh, sj, found⟩ := ranked.pop popped
  have offered : Granted start (sel.popping id jobQueue) := granted.popping jobQueue
  have unchosen : id ∉ sel.chosen := fun was => fresh (granted.chosen.subset was)
  have config := granted.config
  unfold JobScheduler.consider
  dsimp only
  rw [found]
  dsimp only
  split
  · rename_i suits
    have suits' := suits
    rw [config] at suits'
    have last : (sel.chosen ++ [id]).Sublist (sel.popped ++ [id]) :=
      granted.chosen.append_right [id]
    refine ⟨⟨turned.tryAssign found (eligible_pending suits),
      offered.tryAssign ready found suits' unchosen last room⟩, fun verifies spent keeps => ?_⟩
    refine Spent.tryAssign offered ready verifies spent.complete ?_ found suits'
      (keeps sj rfl suits)
    intro other member differs left
    have before := (mem_append.mp member).resolve_right fun same =>
      differs (mem_singleton.mp same)
    exact spent.passed other before left
  · rename_i unfit
    refine ⟨⟨turned, offered⟩, fun _ spent _ => ⟨spent.complete, ?_⟩⟩
    intro other member left sj' here suits
    rcases mem_append.mp member with before | same
    · exact spent.passed other before left sj' here suits
    · rw [mem_singleton] at same
      subst same
      obtain rfl := some.inj (found.symm.trans here)
      exact absurd suits unfit

theorem Selecting.selectJobs (ready : Ready start) (fuel : Nat) (selecting : Selecting start sel) :
    Selecting start (JobScheduler.selectJobs crypto blockHeight entropy orders fuel sel) ∧
      (crypto.Verifies → Spent sel → KeepsSlots crypto blockHeight entropy orders fuel sel →
        Spent (JobScheduler.selectJobs crypto blockHeight entropy orders fuel sel)) := by
  induction fuel generalizing sel with
  | zero => exact ⟨selecting, fun _ spent _ => spent⟩
  | succ fuel ih =>
    unfold JobScheduler.selectJobs
    split
    · rename_i room
      split
      · exact ⟨selecting, fun _ spent _ => spent⟩
      · rename_i id jobQueue popped
        have room' := room
        rw [selecting.granted.config] at room'
        obtain ⟨turned, spends⟩ := selecting.consider ready room' popped
          (orders.workers sel.popped.length)
        obtain ⟨selected, rest⟩ := ih turned
        refine ⟨selected, fun verifies spent keeps => ?_⟩
        obtain ⟨here, later⟩ := keeps room id jobQueue popped
        exact rest verifies (spends verifies spent here) later
    · exact ⟨selecting, fun _ spent _ => spent⟩

theorem tryAssign_frame (order : RangeOrder String) (sel : Selection) (id : String)
    {sj : ScheduledJob} (pending : sj.job.status = .pending) :
    let next := JobScheduler.tryAssign crypto blockHeight entropy order sel id sj
    next.scheduler.jobQueue = sel.scheduler.jobQueue ∧
      next.scheduler.config = sel.scheduler.config := by
  dsimp only
  rcases tryAssign_cases crypto blockHeight entropy order sel id pending with
    ⟨_, next⟩ | ⟨_, _, next⟩ | ⟨_, _, keeper, metadata, next⟩
  · rw [next]
    exact ⟨rfl, rfl⟩
  · rw [next]
    exact ⟨rfl, rfl⟩
  · rw [next]
    exact ⟨rfl, rfl⟩

theorem consider_frame (order : RangeOrder String) (sel : Selection) (id : String) :
    let next := JobScheduler.consider crypto blockHeight entropy order sel id
    next.scheduler.jobQueue = sel.scheduler.jobQueue ∧
      next.scheduler.config = sel.scheduler.config := by
  unfold JobScheduler.consider
  dsimp only
  split
  · exact ⟨rfl, rfl⟩
  · split
    · rename_i suits
      exact tryAssign_frame order _ id (eligible_pending suits)
    · exact ⟨rfl, rfl⟩

/-- A selection with room left has looked at all jobs. -/
theorem Selecting.emptied (ready : Ready start) (fuel : Nat)
    (selecting : Selecting start sel) (size : sel.scheduler.jobQueue.entries.length ≤ fuel)
    (room : (JobScheduler.selectJobs crypto blockHeight entropy orders fuel sel).chosen.length <
      start.config.maxJobsPerBlock) :
    (JobScheduler.selectJobs crypto blockHeight entropy orders
      fuel sel).scheduler.jobQueue.entries = [] := by
  induction fuel generalizing sel with
  | zero => exact eq_nil_of_length_eq_zero (Nat.le_zero.mp size)
  | succ fuel ih =>
    have config := selecting.granted.config
    unfold JobScheduler.selectJobs at room ⊢
    split at room
    · rename_i before
      rw [if_pos before]
      rw [config] at before
      cases popped : Heap.pop (interface sel.scheduler.jobIndex) sel.scheduler.jobQueue with
      | none =>
        rw [popped] at room
        dsimp only
        by_contra nonempty
        obtain ⟨first, rest, shape⟩ := exists_cons_of_ne_nil nonempty
        have head : sel.scheduler.jobQueue.entries[0]? = some first := by rw [shape]; rfl
        obtain ⟨_, found, _⟩ := Heap.pop_perm (lawful sel.scheduler.jobIndex)
          sel.scheduler.jobQueue head
        rw [popped] at found
        cases found
      | some pair =>
        obtain ⟨id, jobQueue⟩ := pair
        rw [popped] at room
        refine ih (selecting.consider ready before popped
          (orders.workers sel.popped.length)).1 ?_ room
        rw [(consider_frame _ _ _).1]
        have queued : QueueHolds sel.scheduler.jobIndex sel.scheduler.jobQueue sel.popped :=
          selecting.ranked.queued
        have lengths := ((queued.pop popped).1.contents.trans queued.contents.symm).length_eq
        rw [length_append, length_append, length_cons] at lengths
        dsimp only
        omega
    · rename_i full
      exact absurd (config ▸ room) full

end Loop

end JobScheduler

end Aethelred.Pouw
