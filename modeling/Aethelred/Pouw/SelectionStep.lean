import Aethelred.Pouw.PoolSpec
import Aethelred.Pouw.QueueRun

/- One turn of the selection of the next jobs. -/
namespace Aethelred.Pouw

open Go List

def workerSlots : Ledger.Account ExecutionWorkerCapability where
  held worker := worker.currentJobs
  withHeld worker amount := { worker with currentJobs := amount }
  limit worker := worker.maxConcurrentJobs
  held_withHeld _ _ := rfl
  limit_withHeld _ _ := rfl
  withHeld_withHeld _ _ _ := rfl
  withHeld_held _ := rfl

def ExecutionWorkerCapability.supports (w : ExecutionWorkerCapability) : ProofType → Bool
  | .tee => w.teePlatforms ≠ []
  | .zkml => w.zkmlSystems ≠ []
  | .hybrid => w.teePlatforms ≠ [] && w.zkmlSystems ≠ []
  | _ => false

namespace ExecutionWorkers

/-- Each worker is kept under its own id. -/
def Keyed (workers : ExecutionWorkers) : Prop :=
  ∀ id worker, workers.lookup id = some worker → worker.id = id

theorem takeSlot_eq_update (workers : ExecutionWorkers) (id : String) :
    workers.takeSlot id = Ledger.update workerSlots workers id fun current => current + 1 := by
  unfold takeSlot count Ledger.update
  cases workers.lookup id with
  | none => rfl
  | some worker => rfl

theorem adjusted_takeSlot {workers : ExecutionWorkers} {ids : List String} (distinct : ids.Nodup) :
    Ledger.Adjusted workerSlots workers (ids.foldl takeSlot workers) ids
      fun current => current + 1 := by
  have same : takeSlot = fun workers id =>
      Ledger.update workerSlots workers id fun current => current + 1 := by
    funext workers id
    exact takeSlot_eq_update workers id
  rw [same]
  exact Ledger.adjusted_foldl_update distinct _

end ExecutionWorkers

namespace Capabilities

variable {caps : Capabilities}

section

variable {addresses : List String} (distinct : addresses.Nodup)
include distinct

theorem adjusted_count (change : Int → Int) :
    Ledger.Adjusted validatorSlots caps
      (addresses.foldl (fun caps address => Capabilities.count caps address change) caps) addresses
      change := by
  simp only [count_eq_update]
  exact Ledger.adjusted_foldl_update distinct change

/-- Slots that are taken and given back; a counter below zero does not come back down. -/
theorem adjusted_released :
    Ledger.Adjusted validatorSlots caps
      (addresses.foldl releaseTakenSlot (addresses.foldl takeSlot caps)) addresses
      fun current => if current + 1 > 0 then current + 1 - 1 else current + 1 :=
  (adjusted_count distinct fun current => current + 1).trans (adjusted_count distinct _)

end

theorem room_of_freeAt {address : String} {cap : ValidatorCapability}
    (free : caps.freeAt address = true) (found : caps.lookup address = some cap) :
    cap.currentJobs < cap.maxConcurrentJobs := by
  obtain ⟨other, same, open'⟩ := freeAt_eq_true.mp free
  obtain rfl := Option.some.inj (found.symm.trans same)
  unfold Capabilities.free at open'
  simp only [Bool.and_eq_true, decide_eq_true_eq] at open'
  exact open'.2

end Capabilities

theorem canServe_iff {w : ExecutionWorkerCapability} {job : ComputeJob} {lane : ExecutionLane} :
    w.canServe job lane = true ↔ w.isOnline = true ∧ w.attested = true ∧ 0 < w.maxConcurrentJobs ∧
      w.currentJobs < w.maxConcurrentJobs ∧ w.lane = lane ∧ w.supports job.proofType = true := by
  unfold ExecutionWorkerCapability.canServe ExecutionWorkerCapability.supports
  cases job.proofType <;> simp [and_assoc]

namespace ExecutionWorkers

variable {workers : ExecutionWorkers} {order : RangeOrder String} {job : ComputeJob}
  {lane : ExecutionLane} {required : Int}

def serving (workers : ExecutionWorkers) (job : ComputeJob) (lane : ExecutionLane) : Nat :=
  workers.countP (·.canServe job lane)

/-- Workers assigned can serve, and too few are assigned only where too few can. -/
theorem assign_outcome (keyed : workers.Keyed) :
    ((assign workers order job lane required).1.length < required →
        (workers.serving job lane : Int) < required) ∧
      ∀ id ∈ (assign workers order job lane required).1, ∃ worker,
        workers.lookup id = some worker ∧ worker.canServe job lane = true := by
  unfold assign
  split
  · rename_i none
    exact ⟨fun short => by simp at short; omega, fun id listed => nomatch listed⟩
  · rename_i positive
    dsimp only
    have listed : ∀ id worker, workers.lookup id = some worker → worker.canServe job lane = true →
        id ∈ ((((workers.entries order).map (·.2)).filter (·.canServe job lane)).map (·.id)) := by
      intro id worker found serves
      refine mem_map.mpr ⟨worker, mem_filter.mpr ⟨mem_map.mpr
        ⟨(id, worker), Map.mem_entries.mpr found, rfl⟩, serves⟩, keyed id worker found⟩
    split
    · rename_i few
      refine ⟨fun _ => ?_, fun id member => nomatch member⟩
      have within := Map.countP_le_length listed
      rw [length_map] at within
      unfold serving
      omega
    · rename_i enough
      have sorted := perm_insertionSort workerOrder
        (((workers.entries order).map (·.2)).filter (·.canServe job lane))
      refine ⟨fun short => ?_, fun id member => ?_⟩
      · rw [length_map, length_take, sorted.length_eq] at short
        omega
      · obtain ⟨worker, taken, rfl⟩ := mem_map.mp member
        have kept := sorted.mem_iff.mp ((take_sublist _ _).subset taken)
        obtain ⟨visited, serves⟩ := mem_filter.mp kept
        obtain ⟨entry, given, rfl⟩ := mem_map.mp visited
        have found := Map.mem_entries.mp given
        exact ⟨entry.2, (keyed _ _ found).symm ▸ found, serves⟩

section Raised

variable {later : ExecutionWorkers} (risen : Ledger.Raised workerSlots workers later)
include risen

theorem Keyed.raised (keyed : workers.Keyed) : later.Keyed := by
  intro id worker found
  obtain ⟨before, earlier, same, _⟩ := risen.source found
  rw [same]
  exact keyed id before earlier

theorem canServe_source {id : String} {worker : ExecutionWorkerCapability}
    (found : later.lookup id = some worker) (serves : worker.canServe job lane = true) :
    ∃ before, workers.lookup id = some before ∧ before.canServe job lane = true := by
  obtain ⟨before, earlier, same, less⟩ := risen.source found
  refine ⟨before, earlier, ?_⟩
  rw [same, canServe_iff] at serves
  obtain ⟨online, attested, positive, room, inLane, supported⟩ := serves
  have room' := Int.lt_of_le_of_lt less room
  exact canServe_iff.mpr ⟨online, attested, positive, room', inLane, supported⟩

theorem serving_le : later.serving job lane ≤ workers.serving job lane :=
  Map.countP_le fun _ _ found serves => canServe_source risen found serves

end Raised

end ExecutionWorkers

theorem SchedulerConfig.requiredWorkers_nonneg (c : SchedulerConfig) : 0 ≤ c.requiredWorkers := by
  unfold requiredWorkers
  split
  · omega
  · split <;> omega

namespace JobScheduler

theorem persistSchedulingMetadata_eq (k : Keeper) (sdk : Bool) (sj : ScheduledJob) :
    ∃ metadata, (persistSchedulingMetadata k sdk sj).1 =
      { sj with job := { sj.job with metadata := metadata } } := by
  unfold persistSchedulingMetadata
  split
  · refine ⟨SchedulingMetadata.record sj, ?_⟩
    dsimp only
    split <;> rfl
  · exact ⟨sj.job.metadata, rfl⟩

theorem markProcessing_pending {job : ComputeJob} (pending : job.status = .pending) :
    job.markProcessing = .ok { job with status := .processing } := by
  have allowed : job.canTransitionTo .processing = true := by
    unfold ComputeJob.canTransitionTo
    rw [pending]
    decide
  exact if_pos allowed

def validatorsFor (crypto : Crypto) (entropy : Bytes × EntropyMeta) (sel : Selection)
    (sj : ScheduledJob) : ValidatorPool.Assignment :=
  sel.pool.assign crypto sel.scheduler.validatorCapabilities sj.job
    sel.scheduler.config.requiredValidators entropy.1

def workersFor (order : RangeOrder String) (sel : Selection) (sj : ScheduledJob) :
    List String × ExecutionWorkers :=
  sel.scheduler.executionWorkers.assign order sj.job sj.executionLane
    sel.scheduler.config.requiredWorkers

/-- A job is assigned, or set aside for want of validators or workers. -/
theorem tryAssign_cases (crypto : Crypto) (blockHeight : Int) (entropy : Bytes × EntropyMeta)
    (order : RangeOrder String) (sel : Selection) (id : String) {sj : ScheduledJob}
    (pending : sj.job.status = .pending) :
    let validators := validatorsFor crypto entropy sel sj
    let workers := workersFor order sel sj
    let next := tryAssign crypto blockHeight entropy order sel id sj
    (validators.addresses.length < sel.scheduler.config.requiredValidators ∧
      next = { sel with pool := validators.pool }) ∨
    (sel.scheduler.config.requiredValidators ≤ validators.addresses.length ∧
      workers.1.length < sel.scheduler.config.requiredWorkers ∧
      next = { sel with
        pool := validators.pool
        scheduler := { sel.scheduler with
          validatorCapabilities :=
            validators.addresses.foldl Capabilities.releaseTakenSlot validators.caps } }) ∨
    (sel.scheduler.config.requiredValidators ≤ validators.addresses.length ∧
      sel.scheduler.config.requiredWorkers ≤ workers.1.length ∧
      ∃ (keeper : Keeper) (metadata : Map String String),
        next = { sel with
          pool := validators.pool
          chosen := sel.chosen ++ [id]
          scheduler := { sel.scheduler with
            keeper
            executionWorkers := workers.2
            validatorCapabilities := validators.caps
            jobIndex := sel.scheduler.jobIndex.insert id
              (selected sj { sj.job with status := .processing, metadata } validators workers.1
                blockHeight entropy) } }) := by
  intro validators workers next
  by_cases few : (validators.addresses.length : Int) < sel.scheduler.config.requiredValidators
  · left
    refine ⟨few, ?_⟩
    show tryAssign crypto blockHeight entropy order sel id sj = _
    unfold tryAssign
    exact if_pos few
  · by_cases refused : (workers.1.length : Int) < sel.scheduler.config.requiredWorkers
    · right; left
      refine ⟨Int.not_lt.mp few, refused, ?_⟩
      show tryAssign crypto blockHeight entropy order sel id sj = _
      unfold tryAssign
      have positive : sel.scheduler.config.requiredWorkers > 0 := by omega
      exact (if_neg few).trans (if_pos ⟨positive, refused⟩)
    · right; right
      refine ⟨Int.not_lt.mp few, Int.not_lt.mp refused, ?_⟩
      let chosen := selected sj { sj.job with status := .processing } validators workers.1
        blockHeight entropy
      obtain ⟨metadata, same⟩ := persistSchedulingMetadata_eq sel.scheduler.keeper true chosen
      refine ⟨(persistSchedulingMetadata sel.scheduler.keeper true chosen).2, metadata, ?_⟩
      show tryAssign crypto blockHeight entropy order sel id sj = _
      unfold tryAssign
      refine (if_neg few).trans ((if_neg fun both => refused both.2).trans ?_)
      rw [markProcessing_pending pending]
      dsimp only
      congr 3

end JobScheduler

end Aethelred.Pouw
