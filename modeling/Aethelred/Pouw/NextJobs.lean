import Aethelred.Pouw.SelectionRun

/- A call for the next jobs: what it assigns and what it leaves. -/
namespace Aethelred.Pouw

open Go List

namespace ExecutionWorkers

section

variable {workers : ExecutionWorkers} (keyed : workers.Keyed)
include keyed

theorem Keyed.count (id : String)
    (change : Int → Int) : (ExecutionWorkers.count workers id change).Keyed := by
  unfold ExecutionWorkers.count
  split
  · rename_i worker found
    exact Map.forall_insert (keyed id worker found) keyed
  · exact keyed

theorem Keyed.foldl_releaseSlot
    (ids : List String) : (ids.foldl ExecutionWorkers.releaseSlot workers).Keyed := by
  induction ids generalizing workers with
  | nil => exact keyed
  | cons id rest ih => exact ih (keyed.count id _)

end

end ExecutionWorkers

namespace JobScheduler

variable {s : JobScheduler}

/-- The queue holds the jobs of the index, and each worker is kept under its own id. -/
structure WellFormed (s : JobScheduler) : Prop where
  queued : s.Queued
  workers : s.executionWorkers.Keyed

theorem foldl_expire_frame (ids : List String) :
    (ids.foldl expire s).validatorCapabilities = s.validatorCapabilities ∧
      (ids.foldl expire s).executionWorkers = s.executionWorkers := by
  induction ids generalizing s with
  | nil => exact ⟨rfl, rfl⟩
  | cons id rest ih =>
    rw [foldl_cons]
    obtain ⟨validators, workers⟩ := ih (s := s.expire id)
    rw [validators, workers]
    unfold expire
    split
    · exact ⟨rfl, rfl⟩
    · exact ⟨rfl, rfl⟩

theorem keyed_foldl_insert (caps : List ValidatorCapability) (jobsOf : ValidatorCapability → Int)
    {updated : Capabilities} (keyed : updated.Keyed) :
    Capabilities.Keyed (caps.foldl (fun updated cap =>
      updated.insert cap.address { cap with currentJobs := jobsOf cap }) updated) := by
  induction caps generalizing updated with
  | nil => exact keyed
  | cons cap rest ih =>
    exact ih (Map.forall_insert rfl keyed)

theorem refreshValidatorCapabilities_keyed (codec : AddressCodec) (ctx : SDKContext) :
    (s.refreshValidatorCapabilities codec ctx).validatorCapabilities.Keyed := by
  apply keyed_foldl_insert
  intro address cap found
  cases found

theorem WellFormed.ready (wellFormed : s.WellFormed) (codec : AddressCodec)
    (ctx : SchedulingContext) (blockHeight : Int) (orders : RangeOrders) :
    Ready (s.prepare codec ctx blockHeight orders) := by
  refine ⟨wellFormed.queued.prepare codec ctx blockHeight orders, ?_, ?_⟩
  · rw [prepare, removeExpiredJobs, (foldl_expire_frame _).1]
    exact refreshValidatorCapabilities_keyed codec ctx.sdk
  · rw [prepare, removeExpiredJobs, (foldl_expire_frame _).2]
    exact wellFormed.workers

theorem putBack_frame (sel : Selection) :
    ∃ jobQueue, putBack sel = { sel.scheduler with jobQueue } := by
  unfold putBack
  generalize sel.scheduler = s
  induction sel.popped generalizing s with
  | nil => exact ⟨s.jobQueue, rfl⟩
  | cons id rest ih =>
    rw [foldl_cons]
    exact ih _

/-- The jobs a call selects are assigned validators and workers that fit them and had slots free,
at most so many jobs a block, the first in the queue first. -/
structure Assigned (start after : JobScheduler) (jobs : List ComputeJob) (ids : List String) :
    Prop where
  returned : jobs.map some = ids.map fun id => (after.jobIndex.lookup id).map (·.job)
  distinct : ids.Nodup
  few : jobs.length ≤ start.config.maxJobsPerBlock.toNat
  in_order : ids.Pairwise (JobPriorityQueue.InOrder start.jobIndex)
  served : ∀ id ∈ ids, ∃ before granted, start.jobIndex.lookup id = some before ∧
    after.jobIndex.lookup id = some granted ∧ Served start before granted
  others : ∀ id, id ∉ ids → after.jobIndex.lookup id = start.jobIndex.lookup id
  validators : Ledger.Drawn validatorSlots start.validatorCapabilities after.validatorCapabilities
    (slotsHeld (·.assignedTo) after.jobIndex ids)
  workers : Ledger.Drawn workerSlots start.executionWorkers after.executionWorkers
    (slotsHeld (·.assignedWorkers) after.jobIndex ids)

/-- No validator is given more than it can take. -/
def WithinLimits (start after : JobScheduler) : Prop :=
  ∀ address cap, after.validatorCapabilities.lookup address = some cap →
    cap.currentJobs ≤ cap.maxConcurrentJobs ∨
      start.validatorCapabilities.lookup address = some cap

/-- Every job that could be scheduled meets a shortage. -/
def Exhausted (s : JobScheduler) : Prop :=
  ∀ id sj, s.jobIndex.lookup id = some sj → eligible s.config sj = true → s.TooFew sj

theorem Assigned.within {start after : JobScheduler} {jobs : List ComputeJob} {ids : List String}
    (assigned : Assigned start after jobs ids) : WithinLimits start after :=
  fun _ _ found => assigned.validators.within found

variable {start : JobScheduler} {sel : Selection}

theorem Selecting.assigned (selecting : Selecting start sel) :
    Assigned start (putBack sel)
      (sel.chosen.filterMap fun id => ((putBack sel).jobIndex.lookup id).map (·.job))
      sel.chosen := by
  obtain ⟨ranked, granted⟩ := selecting
  obtain ⟨jobQueue, same⟩ := putBack_frame sel
  rw [same]
  have popped : sel.popped.Nodup := (nodup_append.mp ranked.queued.nodup).2.1
  refine ⟨?_, granted.chosen.nodup popped, ?_, ranked.sorted.sublist granted.chosen, granted.served,
    granted.untouched, granted.validators, granted.workers⟩
  · rw [map_filterMap_some_eq_filter_map_isSome, filter_eq_self]
    intro job member
    obtain ⟨id, chosen, rfl⟩ := mem_map.mp member
    obtain ⟨before, served, _, now, _⟩ := granted.served id chosen
    dsimp only
    rw [now]
    rfl
  · exact Nat.le_trans (length_filterMap_le ..) granted.few

theorem assigned_none : Assigned start start [] [] where
  returned := rfl
  distinct := .nil
  few := Nat.zero_le _
  in_order := .nil
  served _ listed := nomatch listed
  others _ _ := rfl
  validators := .refl _ _
  workers := .refl _ _

theorem Selecting.exhausted (selecting : Selecting start sel) (spent : Spent sel)
    (empty : sel.scheduler.jobQueue.entries = []) : Exhausted (putBack sel) := by
  obtain ⟨jobQueue, same⟩ := putBack_frame sel
  rw [same]
  intro id sj found suits
  have contents := selecting.ranked.queued.contents
  rw [empty, nil_append] at contents
  have popped : id ∈ sel.popped := contents.symm.subset (Map.mem_keys_iff.mpr ⟨sj, found⟩)
  refine spent.passed id popped (fun chosen => ?_) sj found suits
  obtain ⟨before, granted, _, now, served⟩ := selecting.granted.served id chosen
  obtain rfl := Option.some.inj (found.symm.trans now)
  have pending := eligible_pending suits
  rw [served.processing] at pending
  cases pending

theorem countP_available_le_total {caps : Capabilities} (keyed : caps.Keyed)
    (visits : RangeOrder String) (proofType : ProofType) :
    caps.countP (·.available proofType) ≤
      (ValidatorPool.newValidatorPool caps visits).totalAvailable := by
  unfold ValidatorPool.newValidatorPool
  dsimp only
  have counted : caps.countP (·.available proofType) ≤
      ((((caps.entries visits).map (·.2)).filter fun cap =>
        cap.address ≠ "" && Capabilities.free cap).map (·.address)).length := by
    refine Map.countP_le_length fun address cap found available => ?_
    unfold ValidatorCapability.available at available
    refine mem_map.mpr ⟨cap, mem_filter.mpr ⟨?_, (Bool.and_eq_true_iff.mp available).1⟩,
      keyed address cap found⟩
    exact mem_map.mpr ⟨(address, cap), Map.mem_entries.mpr found, rfl⟩
  rwa [length_map] at counted

theorem serving_le_availableCount (workers : ExecutionWorkers) (job : ComputeJob)
    (lane : ExecutionLane) : workers.serving job lane ≤ workers.availableCount := by
  unfold ExecutionWorkers.serving ExecutionWorkers.availableCount
  have counted : workers.countP (·.canServe job lane) ≤ (((workers.entries .asGiven).filter
      fun entry => ExecutionWorkers.available entry.2).map (·.1)).length := by
    refine Map.countP_le_length fun id worker found serves => ?_
    obtain ⟨online, attested, _, room, _⟩ := canServe_iff.mp serves
    refine mem_map.mpr ⟨(id, worker), mem_filter.mpr ⟨Map.mem_entries.mpr found, ?_⟩, rfl⟩
    unfold ExecutionWorkers.available
    rw [online, attested, decide_eq_true room]
    rfl
  rwa [length_map, ← countP_eq_length_filter] at counted

/-- Nothing but a shortage keeps the call from a job: it is not turned away for want of
`MinValidatorsRequired` validators where a job needs fewer, nor for want of entropy, and no job is
refused its workers after one of its validators took its last free slot for it. -/
structure Unhindered (crypto : Crypto) (ctx : SchedulingContext) (blockHeight : Int)
    (orders : RangeOrders) (start : JobScheduler) : Prop where
  validators : start.config.minValidatorsRequired ≤ max start.config.requiredValidators
    (ValidatorPool.newValidatorPool start.validatorCapabilities orders.validators).totalAvailable
  entropy : ∃ entropy, start.usableEntropy crypto ctx blockHeight = some entropy ∧
    KeepsSlots crypto blockHeight entropy orders start.jobQueue.entries.length
      ⟨start, .newValidatorPool start.validatorCapabilities orders.validators, [], []⟩

/-- What a call for the next jobs does. -/
structure Conserving (crypto : Crypto) (ctx : SchedulingContext) (blockHeight : Int)
    (orders : RangeOrders) (start after : JobScheduler) (jobs : List ComputeJob) : Prop where
  assigned : ∃ ids, Assigned start after jobs ids
  within : WithinLimits start after
  exhausted : crypto.Verifies → Unhindered crypto ctx blockHeight orders start →
    jobs.length < start.config.maxJobsPerBlock → Exhausted after

theorem Ready.selects (ready : Ready start) (crypto : Crypto)
    (blockHeight : Int) (entropy : Bytes × EntropyMeta) (orders : RangeOrders) :
    let visits := orders.validators
    let first : Selection := ⟨start, .newValidatorPool start.validatorCapabilities visits, [], []⟩
    let last := selectJobs crypto blockHeight entropy orders start.jobQueue.entries.length first
    Selecting start last ∧ (crypto.Verifies →
      KeepsSlots crypto blockHeight entropy orders start.jobQueue.entries.length first →
        last.chosen.length < start.config.maxJobsPerBlock → Exhausted (putBack last)) := by
  intro visits first last
  have started : Selecting start first :=
    ⟨ranked_start ready.queued, granted_start ready orders.validators⟩
  have unspent : Spent first :=
    ⟨(ValidatorPool.newValidatorPool_holds ready.validators visits).2,
      fun id popped => (nomatch popped)⟩
  obtain ⟨selecting, spends⟩ : Selecting start last ∧ (crypto.Verifies → Spent first →
      KeepsSlots crypto blockHeight entropy orders start.jobQueue.entries.length first →
        Spent last) :=
    started.selectJobs ready start.jobQueue.entries.length
  refine ⟨selecting, fun verifies keeps room => ?_⟩
  have empty := started.emptied ready start.jobQueue.entries.length (Nat.le_refl _) room
  exact selecting.exhausted (spends verifies unspent keeps) empty

theorem conserving_none {crypto : Crypto} {ctx : SchedulingContext} {blockHeight : Int}
    {orders : RangeOrders}
    (exhausted : Unhindered crypto ctx blockHeight orders start → Exhausted start) :
    Conserving crypto ctx blockHeight orders start start [] :=
  ⟨⟨[], assigned_none⟩, assigned_none.within, fun _ unhindered _ => exhausted unhindered⟩

/-- A selection loses no job and no capacity. -/
theorem WellFormed.getNextJobs_conserving (wellFormed : s.WellFormed) (crypto : Crypto)
    (codec : AddressCodec) (ctx : SchedulingContext) (blockHeight : Int) (orders : RangeOrders) :
    Conserving crypto ctx blockHeight orders (s.prepare codec ctx blockHeight orders)
      (s.getNextJobs crypto codec ctx blockHeight orders).2
      (s.getNextJobs crypto codec ctx blockHeight orders).1 := by
  have ready := wellFormed.ready codec ctx blockHeight orders
  unfold getNextJobs
  dsimp only
  generalize s.prepare codec ctx blockHeight orders = start at ready ⊢
  split
  · rename_i few
    refine conserving_none fun unhindered id sj found suits => .inl ?_
    have required := unhindered.validators
    have within := countP_available_le_total ready.validators orders.validators sj.job.proofType
    omega
  · split
    · rename_i few
      refine conserving_none fun _ id sj found suits => .inr ?_
      have within := serving_le_availableCount start.executionWorkers sj.job sj.executionLane
      omega
    · split
      · rename_i unusable
        refine conserving_none fun unhindered => ?_
        obtain ⟨entropy, usable, _⟩ := unhindered.entropy
        rw [unusable] at usable
        cases usable
      · rename_i entropy usable
        obtain ⟨selecting, exhausts⟩ := ready.selects crypto blockHeight entropy orders
        have assigned := selecting.assigned
        refine ⟨⟨_, assigned⟩, assigned.within, fun verifies unhindered room => ?_⟩
        obtain ⟨entropy', usable', keeps⟩ := unhindered.entropy
        obtain rfl := Option.some.inj (usable.symm.trans usable')
        have lengths := congrArg length assigned.returned
        rw [length_map, length_map] at lengths
        rw [lengths] at room
        exact exhausts verifies keeps room

section Workers

open ExecutionWorkers (Keyed)

section

variable (workers : s.executionWorkers.Keyed)
include workers

theorem keyed_markJobComplete (jobID : String) :
    (s.markJobComplete jobID).executionWorkers.Keyed := by
  unfold markJobComplete
  split
  · exact workers
  · exact workers.foldl_releaseSlot _

theorem keyed_markJobFailed (sdk : Bool) (jobID : String) :
    (s.markJobFailed sdk jobID).executionWorkers.Keyed := by
  unfold markJobFailed
  split
  · exact workers
  · rename_i sj found
    have released : Keyed (s.releaseSlots sj).executionWorkers := workers.foldl_releaseSlot _
    dsimp only
    split
    · exact released
    · exact released

theorem keyed_syncFromChain (ctx : SDKContext) : (s.syncFromChain ctx).executionWorkers.Keyed := by
  unfold syncFromChain
  generalize s.keeper.getPendingJobs ctx = jobs
  induction jobs generalizing s with
  | nil => exact workers
  | cons job rest ih =>
    rw [foldl_cons]
    apply ih
    split
    · exact workers
    · exact workers

theorem keyed_enqueueJob {ctx : SDKContext} {job : ComputeJob} {next : JobScheduler}
    (enqueued : s.enqueueJob ctx job = .ok next) : next.executionWorkers.Keyed := by
  unfold enqueueJob at enqueued
  simp only [Except.throw_bind] at enqueued
  simp only [Except.ite_error_eq_ok] at enqueued
  obtain ⟨_, _, scheduled⟩ := enqueued
  cases resolved : resolveExecutionLane job with
  | error unknown =>
    rw [resolved] at scheduled
    cases scheduled
  | ok executionLane =>
    rw [resolved] at scheduled
    obtain rfl := Except.ok.inj scheduled
    exact workers

theorem keyed_registerExecutionWorker (worker : ExecutionWorkerCapability) :
    (s.registerExecutionWorker worker).executionWorkers.Keyed := by
  unfold registerExecutionWorker
  split
  · exact workers
  · exact Map.forall_insert rfl workers

end

end Workers

/-- Every operation keeps the scheduler well formed. -/
theorem WellFormed.step (wellFormed : s.WellFormed) (env : Environment) (op : SchedulerOp) :
    (s.step env op).WellFormed := by
  refine ⟨wellFormed.queued.step env op, ?_⟩
  have workers := wellFormed.workers
  cases op with
  | keeper op => exact workers
  | registerValidator capability => exact workers
  | registerExecutionWorker worker => exact keyed_registerExecutionWorker workers worker
  | enqueueJob ctx job =>
    unfold JobScheduler.step
    dsimp only
    split
    · rename_i next enqueued
      exact keyed_enqueueJob workers enqueued
    · exact workers
  | getNextJobs ctx blockHeight orders =>
    obtain ⟨⟨ids, assigned⟩, _⟩ :=
      wellFormed.getNextJobs_conserving env.crypto env.codec ctx blockHeight orders
    have ready := wellFormed.ready env.codec ctx blockHeight orders
    exact ExecutionWorkers.Keyed.raised assigned.workers.raised ready.workers
  | markJobComplete jobID => exact keyed_markJobComplete workers jobID
  | markJobFailed sdk jobID => exact keyed_markJobFailed workers sdk jobID
  | syncFromChain ctx => exact keyed_syncFromChain workers ctx
  | processSealTransaction ctx jobID outputHash results =>
    unfold JobScheduler.step processSealTransaction
    dsimp only
    split
    · refine keyed_markJobComplete ?_ jobID
      exact workers
    · exact workers

theorem wellFormed_run (env : Environment) (keeper : Keeper) (config : SchedulerConfig)
    (ops : List SchedulerOp) : ((newJobScheduler keeper config).run env ops).WellFormed :=
  Run.invariant_of_step WellFormed (fun _ op wellFormed => wellFormed.step env op) ops
    ⟨QueueHolds.empty, fun _ _ found => (nomatch found)⟩

theorem keepsSlots_unrequired {crypto : Crypto} {blockHeight : Int} {entropy : Bytes × EntropyMeta}
    {orders : RangeOrders} (fuel : Nat) (none : sel.scheduler.config.requiredWorkers = 0) :
    KeepsSlots crypto blockHeight entropy orders fuel sel := by
  induction fuel generalizing sel with
  | zero => exact trivial
  | succ fuel ih =>
    intro _ id jobQueue _
    refine ⟨fun sj _ _ loses => ?_, ih ?_⟩
    · have refused := loses.2.1
      have same : (sel.popping id jobQueue).scheduler.config.requiredWorkers = 0 := none
      omega
    · rw [(consider_frame _ _ _).2]
      exact none

/-- In every state a new scheduler reaches, a call for the next jobs assigns correctly, and where
only a shortage keeps it from a job it leaves none that could be assigned. -/
theorem next_jobs_conserving :
    (∀ (env : Environment) (keeper : Keeper) (config : SchedulerConfig) (ops : List SchedulerOp),
      ((newJobScheduler keeper config).run env ops).WellFormed) ∧
    ∀ s : JobScheduler, s.WellFormed → ∀ (crypto : Crypto) (codec : AddressCodec)
      (ctx : SchedulingContext) (blockHeight : Int) (orders : RangeOrders),
      Conserving crypto ctx blockHeight orders (s.prepare codec ctx blockHeight orders)
        (s.getNextJobs crypto codec ctx blockHeight orders).2
        (s.getNextJobs crypto codec ctx blockHeight orders).1 :=
  ⟨wellFormed_run, fun _ wellFormed => wellFormed.getNextJobs_conserving⟩

end JobScheduler

/- One validator with one slot, and two jobs for it. -/
namespace OneSlot

open JobScheduler

def crypto : Crypto where
  sha256 data := (data ++ replicate 32 0).take 32
  sha256_length := length_padded
  ed25519Public seed := seed
  ed25519Sign seed message := seed ++ message
  ed25519Verify key message signature := signature = key ++ message

theorem verifies : crypto.Verifies := fun _ _ => decide_eq_true rfl

def codec : AddressCodec where
  accAddressFromBech32 address := some (utf8 address)
  valAddressFromBech32 address := some (utf8 address)
  accAddressString _ := ""

def validator : ValidatorCapability where
  address := "validator"
  teePlatforms := ["aws-nitro"]
  zkmlSystems := []
  maxConcurrentJobs := 1
  currentJobs := 0
  isOnline := true
  reputationScore := 100

def job (id : String) : ComputeJob where
  id
  modelHash := []
  inputHash := []
  requestedBy := "requester"
  proofType := .tee
  purpose := ""
  status := .pending

def jobs : Map String ComputeJob :=
  ((∅ : Map String ComputeJob).insert "first" (job "first")).insert "second" (job "second")

def ctx : SchedulingContext where
  sdk := {
    blockHeight := ⟨1, .one⟩
    blockTime := ⟨0⟩
    validators := [⟨"validator", .bonded, 10 ^ 30⟩] }

def scheduler (minValidatorsRequired : Int) : JobScheduler :=
  let keeper : Keeper := {
    validatorCapabilities := (∅ : Capabilities).insert "validator" validator
    jobs
    pendingJobs := jobs
    params := some { Params.default with allowSimulated := true } }
  let config := { SchedulerConfig.default with minValidatorsRequired, validatorsPerJob := 1 }
  (newJobScheduler keeper config).run ⟨crypto, codec⟩ [.syncFromChain ctx.sdk]

/-- With one validator a job is served and the other left, for want of a second slot. -/
theorem next_jobs_conserving_one_slot :
    let outcome := (scheduler 1).getNextJobs crypto codec ctx 1 {}
    outcome.1.map (·.id) = ["first"] ∧
      (∃ ids, Assigned ((scheduler 1).prepare codec ctx 1 {}) outcome.2 outcome.1 ids) ∧
      Exhausted outcome.2 := by
  have chosen : ((scheduler 1).getNextJobs crypto codec ctx 1 {}).1.map (·.id) = ["first"] := by
    decide +kernel
  have conserving :=
    next_jobs_conserving.2 (scheduler 1) (wellFormed_run _ _ _ _) crypto codec ctx 1 {}
  have usable : (((scheduler 1).prepare codec ctx 1 {}).usableEntropy crypto ctx 1).isSome := by
    decide +kernel
  obtain ⟨entropy, usable⟩ := Option.isSome_iff_exists.mp usable
  have unhindered : Unhindered crypto ctx 1 {} ((scheduler 1).prepare codec ctx 1 {}) :=
    ⟨by decide +kernel, entropy, usable, keepsSlots_unrequired _ (by decide +kernel)⟩
  refine ⟨chosen, conserving.assigned, conserving.exhausted verifies unhindered ?_⟩
  have length := congrArg length chosen
  rw [length_map] at length
  rw [length]
  decide +kernel

/-- With fewer validators than the least the call asks for, no job is selected though one could
be. -/
theorem next_jobs_stop_below_minimum :
    let start := (scheduler 3).prepare codec ctx 1 {}
    let outcome := (scheduler 3).getNextJobs crypto codec ctx 1 {}
    (scheduler 3).WellFormed ∧ crypto.Verifies ∧
      outcome.1.length < start.config.maxJobsPerBlock ∧ ¬Exhausted outcome.2 := by
  refine ⟨wellFormed_run _ _ _ _, verifies, by decide +kernel, fun exhausted => ?_⟩
  have left : (((scheduler 3).getNextJobs crypto codec ctx 1 {}).2.jobIndex.lookup "first").any
      (fun sj => eligible ((scheduler 3).getNextJobs crypto codec ctx 1 {}).2.config sj &&
        !decide (((scheduler 3).getNextJobs crypto codec ctx 1 {}).2.TooFew sj)) = true := by
    decide +kernel
  obtain ⟨sj, found, passes⟩ := (Option.any_eq_true ..).mp left
  obtain ⟨suits, served⟩ := Bool.and_eq_true_iff.mp passes
  rw [Bool.not_eq_true', decide_eq_false_iff_not] at served
  exact served (exhausted "first" sj found suits)

end OneSlot

end Aethelred.Pouw
