import Aethelred.Pouw.Scheduler
import Aethelred.Go.HeapOrder

/- The scheduler's queue: its entries against the index of jobs, their positions and their order. -/
namespace Aethelred.Pouw

open Go

namespace JobPriorityQueue

/-- Whether one entry may stand above another. -/
def InOrder (jobs : JobIndex) (left right : String) : Prop := ¬before jobs right left = true

def indexOf (pq : JobPriorityQueue) (id : String) : Int := pq.index.get id 0

variable (jobs : JobIndex)

theorem before_iff {left right : String} : before jobs left right = true ↔
    priorityOf jobs right < priorityOf jobs left ∨
      (priorityOf jobs left = priorityOf jobs right ∧
        submittedOf jobs left < submittedOf jobs right) := by
  unfold before
  by_cases same : priorityOf jobs left = priorityOf jobs right
  · simp [same]
  · simp [same]

theorem inOrder_iff {left right : String} : InOrder jobs left right ↔
    priorityOf jobs right < priorityOf jobs left ∨
      (priorityOf jobs left = priorityOf jobs right ∧
        submittedOf jobs left ≤ submittedOf jobs right) := by
  unfold InOrder
  rw [before_iff]
  omega

theorem lawful : (interface jobs).Lawful entries where
  len _ := rfl
  swap pq i j first second := by
    simp only [interface, swap, List.getElem?_eq_getElem first, List.getElem?_eq_getElem second]
  push _ _ := rfl
  pop pq nonempty := by
    have last := List.getLast?_eq_getLast_of_ne_nil nonempty
    refine ⟨⟨pq.entries.dropLast, pq.index.insert (pq.entries.getLast nonempty) (-1)⟩, ?_, rfl⟩
    simp only [interface, pop, last, Option.map_some]

theorem indexed : (interface jobs).Indexed entries indexOf where
  swap pq i j first second id := by
    simp only [interface, swap, List.getElem?_eq_getElem first, List.getElem?_eq_getElem second,
      indexOf, Map.get_insert_eq]
  push pq id other := by
    simp only [interface, push, indexOf, Map.get_insert_eq]
  pop pq id rest popped other differs := by
    simp only [interface, pop] at popped
    obtain ⟨last, _, same⟩ := Option.map_eq_some_iff.mp popped
    obtain ⟨rfl, rfl⟩ := Prod.mk.inj same
    simp only [indexOf, Map.get_insert_eq, if_neg differs]

theorem compares : (interface jobs).Compares entries (InOrder jobs) where
  less_iff pq i j first second := by
    unfold InOrder
    rw [not_not]
    exact Iff.rfl
  trans first second := by
    rw [inOrder_iff] at *
    omega
  total left right := by
    rw [inOrder_iff, inOrder_iff]
    omega

end JobPriorityQueue

/-- The queue holds the jobs of the index that are not taken out, each once and where it says, and
is a heap. -/
structure QueueHolds (jobs : JobIndex) (pq : JobPriorityQueue) (taken : List String) : Prop where
  contents : (pq.entries ++ taken).Perm jobs.keys
  at_index : ∀ {i : Nat} {id : String}, pq.entries[i]? = some id → pq.indexOf id = i
  ordered : Heap.Ordered (JobPriorityQueue.InOrder jobs) (Heap.item pq.entries) 0 pq.entries.length

namespace QueueHolds

open JobPriorityQueue

variable {jobs jobs' : JobIndex} {pq : JobPriorityQueue} {taken : List String} {id : String}

theorem nodup (holds : QueueHolds jobs pq taken) : (pq.entries ++ taken).Nodup :=
  holds.contents.nodup_iff.mpr jobs.keys_nodup

theorem positioned (holds : QueueHolds jobs pq taken) : Heap.Positioned entries indexOf pq :=
  ⟨(List.nodup_append.mp holds.nodup).1, holds.at_index⟩

theorem empty : QueueHolds ∅ {} [] :=
  ⟨.rfl, fun found => (nomatch found), fun _ _ inside => (nomatch inside)⟩

theorem reindex (holds : QueueHolds jobs pq taken) (keys : jobs.keys.Perm jobs'.keys)
    (priority : ∀ id ∈ pq.entries, priorityOf jobs' id = priorityOf jobs id)
    (submitted : ∀ id ∈ pq.entries, submittedOf jobs' id = submittedOf jobs id) :
    QueueHolds jobs' pq taken := by
  refine ⟨holds.contents.trans keys, holds.at_index, holds.ordered.congr (Nat.le_refl _) ?_⟩
  intro left listed right too before
  rw [inOrder_iff] at *
  rwa [priority _ listed, priority _ too, submitted _ listed, submitted _ too]

theorem enter (holds : QueueHolds jobs pq taken) (fresh : jobs.lookup id = none)
    (sj : ScheduledJob) : QueueHolds (jobs.insert id sj) pq (id :: taken) := by
  have unlisted : id ∉ pq.entries := by
    intro listed
    have member := holds.contents.subset (List.mem_append_left _ listed)
    obtain ⟨value, found⟩ := Map.mem_keys_iff.mp member
    rw [fresh] at found
    cases found
  have same : ∀ other ∈ pq.entries, (jobs.insert id sj).lookup other = jobs.lookup other := by
    intro other listed
    exact AList.lookup_insert_ne fun equal => unlisted (equal ▸ listed)
  have outside : id ∉ jobs.keys := by
    intro member
    obtain ⟨value, found⟩ := Map.mem_keys_iff.mp member
    rw [fresh] at found
    cases found
  refine ⟨?_, holds.at_index, holds.ordered.congr (Nat.le_refl _) ?_⟩
  · rw [AList.keys_insert, List.erase_of_not_mem outside]
    exact List.perm_middle.trans (holds.contents.cons id)
  · intro left listed right too before
    rw [inOrder_iff] at *
    simpa only [priorityOf, submittedOf, same _ listed, same _ too] using before

theorem erase (holds : QueueHolds jobs pq (id :: taken)) : QueueHolds (jobs.erase id) pq taken := by
  have apart := holds.nodup
  rw [List.perm_middle.nodup_iff, List.nodup_cons] at apart
  have same : ∀ other ∈ pq.entries, (jobs.erase id).lookup other = jobs.lookup other := by
    intro other listed
    apply AList.lookup_erase_ne
    intro equal
    exact apart.1 (List.mem_append_left _ (equal ▸ listed))
  refine ⟨?_, holds.at_index, holds.ordered.congr (Nat.le_refl _) ?_⟩
  · rw [AList.keys_erase]
    have perm := (List.perm_middle.symm.trans holds.contents).erase id
    rwa [List.erase_cons_head] at perm
  · intro left listed right too before
    rw [inOrder_iff] at *
    simpa only [priorityOf, submittedOf, same _ listed, same _ too] using before

theorem push (holds : QueueHolds jobs pq (id :: taken)) :
    QueueHolds jobs (Heap.push (interface jobs) pq id) taken := by
  have apart := holds.nodup
  rw [List.perm_middle.nodup_iff, List.nodup_cons] at apart
  have pushed := Heap.push_positioned (lawful jobs) (indexed jobs) holds.positioned
    fun listed => apart.1 (List.mem_append_left _ listed)
  refine ⟨?_, pushed.at_index, Heap.push_ordered (lawful jobs) (compares jobs) id holds.ordered⟩
  exact ((Heap.push_perm (lawful jobs) pq id).append_right taken).trans
    (List.perm_middle.symm.trans holds.contents)

section

variable (holds : QueueHolds jobs pq taken)
include holds

theorem pop {rest : JobPriorityQueue} (popped : Heap.pop (interface jobs) pq = some (id, rest)) :
    QueueHolds jobs rest (id :: taken) ∧ id ∈ pq.entries ∧
      ∀ other ∈ pq.entries, InOrder jobs id other := by
  have nonempty : pq.entries ≠ [] := by
    intro none
    have stuck : Heap.pop (interface jobs) pq = .none := by
      simp [Heap.pop, Heap.down, Heap.downLoop, interface, swap, JobPriorityQueue.pop, none]
    rw [stuck] at popped
    cases popped
  obtain ⟨least, ordered⟩ := Heap.pop_ordered (lawful jobs) (compares jobs) holds.ordered nonempty
    popped
  have positive : 0 < pq.entries.length := List.length_pos_iff.mpr nonempty
  obtain ⟨rest', popped', perm⟩ :=
    Heap.pop_perm (lawful jobs) pq (List.getElem?_eq_getElem positive)
  rw [popped, Option.some.injEq, Prod.mk.injEq] at popped'
  obtain ⟨root, rfl⟩ := popped'
  rw [← root] at perm
  have placed := Heap.pop_positioned (lawful jobs) (indexed jobs) holds.positioned nonempty popped
  refine ⟨⟨?_, placed.at_index, ordered⟩, perm.symm.subset List.mem_cons_self, least⟩
  exact List.perm_middle.trans ((perm.symm.append_right taken).trans holds.contents)

theorem remove (listed : id ∈ pq.entries) :
    QueueHolds jobs (pq.removeEntry jobs id) (id :: taken) := by
  obtain ⟨found, positive⟩ := holds.positioned.getElem? listed
  obtain ⟨inside, _⟩ := List.getElem?_eq_some_iff.mp found
  obtain ⟨rest, removed, perm⟩ := Heap.remove_perm (lawful jobs) pq found
  have result : pq.removeEntry jobs id = rest := by
    unfold removeEntry indexOf at *
    dsimp only
    rw [if_pos (by omega), removed]
  rw [result]
  have placed := Heap.remove_positioned (lawful jobs) (indexed jobs) holds.positioned inside removed
  refine ⟨?_, placed.at_index,
    Heap.remove_ordered (lawful jobs) (compares jobs) holds.ordered inside removed⟩
  exact List.perm_middle.trans ((perm.symm.append_right taken).trans holds.contents)

/-- An entry with a new priority finds its place. -/
theorem fix (listed : id ∈ pq.entries) (sj : ScheduledJob) :
    QueueHolds (jobs.insert id sj) (pq.fixEntry (jobs.insert id sj) id) taken := by
  obtain ⟨found, positive⟩ := holds.positioned.getElem? listed
  obtain ⟨inside, here⟩ := List.getElem?_eq_some_iff.mp found
  have result : pq.fixEntry (jobs.insert id sj) id =
      Heap.fix (interface (jobs.insert id sj)) pq (pq.indexOf id).toNat := by
    unfold fixEntry indexOf at *
    dsimp only
    rw [if_pos positive]
  rw [result]
  have perm := Heap.fix_perm (lawful (jobs.insert id sj)) pq inside
  have placed := Heap.fix_positioned (lawful (jobs.insert id sj)) (indexed (jobs.insert id sj))
    holds.positioned inside
  have member : id ∈ jobs.keys := holds.contents.subset (List.mem_append_left _ listed)
  have keys : jobs.keys.Perm (jobs.insert id sj).keys := by
    rw [AList.keys_insert]
    exact List.perm_cons_erase member
  refine ⟨(perm.append_right taken).trans (holds.contents.trans keys), placed.at_index, ?_⟩
  rw [perm.length_eq]
  apply Heap.settle_ordered (lawful _) (compares _) (Nat.le_refl _) inside
  refine holds.ordered.but holds.positioned.nodup inside (compares jobs).trans ?_
  intro left _ right _ notLeft notRight before
  rw [here] at notLeft notRight
  rw [inOrder_iff] at *
  simpa only [priorityOf, submittedOf, AList.lookup_insert_ne notLeft,
    AList.lookup_insert_ne notRight] using before

theorem init (keys : jobs.keys.Perm jobs'.keys) :
    QueueHolds jobs' (Heap.init (interface jobs') pq) taken := by
  have perm := Heap.init_perm (lawful jobs') pq
  have placed := Heap.init_positioned (lawful jobs') (indexed jobs') holds.positioned
  refine ⟨(perm.append_right taken).trans (holds.contents.trans keys), placed.at_index, ?_⟩
  rw [perm.length_eq]
  exact Heap.init_ordered (lawful jobs') (compares jobs') pq

theorem perm {other : List String} (same : taken.Perm other) : QueueHolds jobs pq other :=
  ⟨(same.symm.append_left pq.entries).trans holds.contents, holds.at_index, holds.ordered⟩

theorem mem_entries {sj : ScheduledJob}
    (found : jobs.lookup id = some sj) (kept : id ∉ taken) : id ∈ pq.entries := by
  have member := holds.contents.symm.subset (Map.mem_keys_iff.mpr ⟨sj, found⟩)
  exact (List.mem_append.mp member).resolve_right kept

end

end QueueHolds

/- The queue over whole runs of the scheduler. -/

namespace JobScheduler

/-- Index and queue agree. -/
def Queued (s : JobScheduler) : Prop := QueueHolds s.jobIndex s.jobQueue []

variable {s : JobScheduler} {id : String} {jobs : JobIndex}

theorem keys_insert_perm {old : ScheduledJob} (found : jobs.lookup id = some old)
    (sj : ScheduledJob) : jobs.keys.Perm (jobs.insert id sj).keys := by
  rw [AList.keys_insert]
  exact List.perm_cons_erase (Map.mem_keys_iff.mpr ⟨old, found⟩)

variable {old sj : ScheduledJob}

open JobPriorityQueue in
theorem priorityOf_insert
    (found : jobs.lookup id = some old) (same : sj.effectivePriority = old.effectivePriority)
    (other : String) : priorityOf (jobs.insert id sj) other = priorityOf jobs other := by
  unfold priorityOf
  rw [Map.lookup_insert_eq]
  split
  · rename_i here
    rw [here, found, Option.map_some, Option.map_some, same]
  · rfl

open JobPriorityQueue in
theorem submittedOf_insert
    (found : jobs.lookup id = some old) (same : sj.submittedBlock = old.submittedBlock)
    (other : String) : submittedOf (jobs.insert id sj) other = submittedOf jobs other := by
  unfold submittedOf
  rw [Map.lookup_insert_eq]
  split
  · rename_i here
    rw [here, found, Option.map_some, Option.map_some, same]
  · rfl

theorem holds_insert {pq : JobPriorityQueue} {taken : List String}
    (holds : QueueHolds jobs pq taken) (found : jobs.lookup id = some old)
    (priority : sj.effectivePriority = old.effectivePriority)
    (submitted : sj.submittedBlock = old.submittedBlock) :
    QueueHolds (jobs.insert id sj) pq taken :=
  holds.reindex (keys_insert_perm found sj) (fun other _ => priorityOf_insert found priority other)
    fun other _ => submittedOf_insert found submitted other

theorem persistSchedulingMetadata_fields (k : Keeper) (sdk : Bool) (sj : ScheduledJob) :
    (persistSchedulingMetadata k sdk sj).1.effectivePriority = sj.effectivePriority ∧
      (persistSchedulingMetadata k sdk sj).1.submittedBlock = sj.submittedBlock := by
  unfold persistSchedulingMetadata
  split
  · dsimp only
    split
    · exact ⟨rfl, rfl⟩
    · exact ⟨rfl, rfl⟩
  · exact ⟨rfl, rfl⟩

section

variable (queued : s.Queued)
include queued

theorem Queued.push {sj : ScheduledJob}
    (fresh : s.jobIndex.lookup sj.job.id = none) : (s.push sj).Queued :=
  (queued.enter fresh sj).push

theorem Queued.drop {sj : ScheduledJob}
    (found : s.jobIndex.lookup id = some sj) : (s.drop id).Queued :=
  (queued.remove (queued.mem_entries found List.not_mem_nil)).erase

theorem Queued.enqueueJob {ctx : SDKContext} {job : ComputeJob}
    {next : JobScheduler} (enqueued : s.enqueueJob ctx job = .ok next) : next.Queued := by
  unfold JobScheduler.enqueueJob at enqueued
  simp only [Except.throw_bind] at enqueued
  simp only [Except.ite_error_eq_ok] at enqueued
  obtain ⟨_, fresh, scheduled⟩ := enqueued
  rw [Option.not_isSome_iff_eq_none] at fresh
  cases resolved : resolveExecutionLane job with
  | error unknown =>
    rw [resolved] at scheduled
    cases scheduled
  | ok executionLane =>
    rw [resolved] at scheduled
    obtain rfl := Except.ok.inj scheduled
    let sj : ScheduledJob :=
      { job, effectivePriority := job.priority, submittedBlock := ctx.blockHeight.val,
        executionLane }
    have pushed : (s.push sj).Queued := queued.push fresh
    have fields := persistSchedulingMetadata_fields s.keeper true sj
    exact holds_insert pushed (AList.lookup_insert _) fields.1 fields.2

theorem Queued.expire (id : String) : (s.expire id).Queued := by
  unfold JobScheduler.expire
  split
  · exact queued
  · rename_i sj found
    exact queued.drop found

theorem Queued.foldl_expire (ids : List String) : (ids.foldl JobScheduler.expire s).Queued := by
  induction ids generalizing s with
  | nil => exact queued
  | cons id rest ih => exact ih (queued.expire id)

theorem Queued.updatePriorities (currentBlock : Int) :
    (s.updatePriorities currentBlock).Queued := by
  unfold JobScheduler.updatePriorities
  refine queued.init ?_
  generalize s.jobQueue.entries = ids
  generalize s.jobIndex = jobs
  induction ids generalizing jobs with
  | nil => exact .rfl
  | cons id rest ih =>
    rw [List.foldl_cons]
    split
    · rename_i sj found
      exact (keys_insert_perm found _).trans (ih _)
    · exact ih _

theorem Queued.prepare (codec : AddressCodec) (ctx : SchedulingContext) (blockHeight : Int)
    (orders : RangeOrders) : (s.prepare codec ctx blockHeight orders).Queued := by
  have refreshed : (s.refreshValidatorCapabilities codec ctx.sdk).Queued := queued
  exact (refreshed.updatePriorities blockHeight).foldl_expire _

end

/-- Index and queue agree but for the popped jobs. -/
def Selection.Queued (sel : Selection) : Prop :=
  QueueHolds sel.scheduler.jobIndex sel.scheduler.jobQueue sel.popped

section Loop

variable {crypto : Crypto} {blockHeight : Int} {entropy : Bytes × EntropyMeta} {sel : Selection}

theorem Selection.Queued.tryAssign (queued : sel.Queued) {order : RangeOrder String}
    {sj : ScheduledJob} (found : sel.scheduler.jobIndex.lookup id = some sj) :
    Selection.Queued (JobScheduler.tryAssign crypto blockHeight entropy order sel id sj) := by
  unfold JobScheduler.tryAssign
  dsimp only
  split
  · exact queued
  · split
    · exact queued
    · split
      · exact queued
      · rename_i processing _
        have fields := persistSchedulingMetadata_fields sel.scheduler.keeper true
          (selected sj processing (sel.pool.assign crypto sel.scheduler.validatorCapabilities sj.job
            sel.scheduler.config.requiredValidators entropy.1)
            (sel.scheduler.executionWorkers.assign order sj.job sj.executionLane
              sel.scheduler.config.requiredWorkers).1 blockHeight entropy)
        exact holds_insert queued found fields.1 fields.2

theorem Selection.Queued.consider (id : String)
    (queued : QueueHolds sel.scheduler.jobIndex sel.scheduler.jobQueue (id :: sel.popped))
    {order : RangeOrder String} :
    Selection.Queued (JobScheduler.consider crypto blockHeight entropy order sel id) := by
  have popped : Selection.Queued { sel with popped := sel.popped ++ [id] } :=
    queued.perm (List.perm_append_singleton id sel.popped).symm
  unfold JobScheduler.consider
  dsimp only
  split
  · exact popped
  · rename_i sj found
    split
    · exact popped.tryAssign found
    · exact popped

theorem Selection.Queued.selectJobs {orders : RangeOrders} (fuel : Nat) (queued : sel.Queued) :
    Selection.Queued (JobScheduler.selectJobs crypto blockHeight entropy orders fuel sel) := by
  induction fuel generalizing sel with
  | zero => exact queued
  | succ fuel ih =>
    unfold JobScheduler.selectJobs
    split
    · split
      · exact queued
      · rename_i id jobQueue popped
        apply ih
        exact Selection.Queued.consider id (queued.pop popped).1
    · exact queued

end Loop

theorem Selection.Queued.putBack {sel : Selection} (queued : sel.Queued) :
    (JobScheduler.putBack sel).Queued := by
  have pushed (ids : List String) (s : JobScheduler)
      (holds : QueueHolds s.jobIndex s.jobQueue ids) :
      (ids.foldl (fun s id => { s with
        jobQueue := Heap.push (JobPriorityQueue.interface s.jobIndex) s.jobQueue id })
        s).Queued := by
    induction ids generalizing s with
    | nil => exact holds
    | cons id rest ih => exact ih _ holds.push
  exact pushed sel.popped sel.scheduler queued

section

variable (queued : s.Queued)
include queued

theorem Queued.getNextJobs (crypto : Crypto) (codec : AddressCodec)
    (ctx : SchedulingContext) (blockHeight : Int) (orders : RangeOrders) :
    (s.getNextJobs crypto codec ctx blockHeight orders).2.Queued := by
  have prepared := queued.prepare codec ctx blockHeight orders
  unfold JobScheduler.getNextJobs
  dsimp only
  split
  · exact prepared
  · split
    · exact prepared
    · split
      · exact prepared
      · rename_i entropy _
        have started : Selection.Queued ⟨s.prepare codec ctx blockHeight orders,
          .newValidatorPool (s.prepare codec ctx blockHeight orders).validatorCapabilities
            orders.validators, [], []⟩ := prepared
        exact (started.selectJobs _).putBack

theorem Queued.markJobComplete (jobID : String) : (s.markJobComplete jobID).Queued := by
  unfold JobScheduler.markJobComplete
  split
  · exact queued
  · rename_i sj found
    exact queued.drop found

theorem Queued.markJobFailed (sdk : Bool) (jobID : String) :
    (s.markJobFailed sdk jobID).Queued := by
  unfold JobScheduler.markJobFailed
  split
  · exact queued
  · rename_i sj found
    have released : (s.releaseSlots sj).Queued := queued
    dsimp only
    split
    · exact released.drop found
    · have fixed := queued.fix (queued.mem_entries found List.not_mem_nil)
      have fields := persistSchedulingMetadata_fields s.keeper sdk
      exact holds_insert (fixed _) (AList.lookup_insert _) (fields _).1 (fields _).2

theorem Queued.syncFromChain (ctx : SDKContext) : (s.syncFromChain ctx).Queued := by
  unfold JobScheduler.syncFromChain
  generalize s.keeper.getPendingJobs ctx = jobs
  induction jobs generalizing s with
  | nil => exact queued
  | cons job rest ih =>
    rw [List.foldl_cons]
    apply ih
    split
    · exact queued
    · rename_i unscheduled
      have fresh := Option.not_isSome_iff_eq_none.mp unscheduled
      exact Queued.push queued fresh

/-- Every operation keeps index and queue in agreement. -/
theorem Queued.step (env : Environment) (op : SchedulerOp) : (s.step env op).Queued := by
  cases op with
  | keeper op => exact queued
  | registerValidator capability => exact queued
  | registerExecutionWorker worker =>
    unfold JobScheduler.step registerExecutionWorker
    dsimp only
    split
    · exact queued
    · exact queued
  | enqueueJob ctx job =>
    unfold JobScheduler.step
    dsimp only
    split
    · rename_i next enqueued
      exact queued.enqueueJob enqueued
    · exact queued
  | getNextJobs ctx blockHeight orders =>
    exact queued.getNextJobs env.crypto env.codec ctx blockHeight orders
  | markJobComplete jobID => exact queued.markJobComplete jobID
  | markJobFailed sdk jobID => exact queued.markJobFailed sdk jobID
  | syncFromChain ctx => exact queued.syncFromChain ctx
  | processSealTransaction ctx jobID outputHash results =>
    unfold JobScheduler.step JobScheduler.processSealTransaction
    dsimp only
    split
    · have kept : JobScheduler.Queued { s with
          keeper := (s.keeper.completeJob env.crypto env.codec ctx jobID outputHash results).2 } :=
        queued
      exact kept.markJobComplete jobID
    · exact queued

end

theorem queued_run (env : Environment) (keeper : Keeper) (config : SchedulerConfig)
    (ops : List SchedulerOp) : ((newJobScheduler keeper config).run env ops).Queued :=
  Run.invariant_of_step Queued (fun _ op queued => queued.step env op) ops QueueHolds.empty

open JobPriorityQueue in
/-- The queue has each job of the index once and nothing else, each where it says, none below one
that comes after it, so that each job is removed or fixed at its own position. -/
structure QueueSound (s : JobScheduler) : Prop where
  once : s.jobQueue.entries.Nodup
  exactly : ∀ id, id ∈ s.jobQueue.entries ↔ (s.jobIndex.lookup id).isSome
  at_index : ∀ (i : Nat) (id : String),
    s.jobQueue.entries[i]? = some id → s.jobQueue.indexOf id = i
  ordered : ∀ (i child : Nat) (above below : String), child = 2 * i + 1 ∨ child = 2 * i + 2 →
    s.jobQueue.entries[i]? = some above → s.jobQueue.entries[child]? = some below →
      before s.jobIndex below above = false
  intended : ∀ id, (s.jobIndex.lookup id).isSome → 0 ≤ s.jobQueue.indexOf id ∧
    s.jobQueue.entries[(s.jobQueue.indexOf id).toNat]? = some id ∧
      s.jobQueue.entries.Perm (id :: (s.jobQueue.removeEntry s.jobIndex id).entries)

theorem Queued.sound (queued : s.Queued) : QueueSound s := by
  have exactly : ∀ id, id ∈ s.jobQueue.entries ↔ (s.jobIndex.lookup id).isSome := by
    intro id
    rw [Option.isSome_iff_exists, ← Map.mem_keys_iff]
    have same := queued.contents.mem_iff (a := id)
    rwa [List.append_nil] at same
  refine ⟨queued.positioned.nodup, exactly, fun i id found => queued.at_index found, ?_, ?_⟩
  · intro i child above below edge atParent atChild
    obtain ⟨insideP, valueP⟩ := List.getElem?_eq_some_iff.mp atParent
    obtain ⟨insideC, valueC⟩ := List.getElem?_eq_some_iff.mp atChild
    have parent : Heap.parent child = i := (Heap.parent_eq_iff (by omega)).mpr edge
    have inOrder := queued.ordered child (by omega) insideC (Nat.zero_le _)
    rw [parent] at inOrder
    simp only [Heap.item, List.getD_eq_getElem?_getD, atParent, atChild,
      Option.getD_some] at inOrder
    exact Bool.eq_false_iff.mpr inOrder
  · intro id scheduled
    have listed := (exactly id).mpr scheduled
    obtain ⟨found, positive⟩ := queued.positioned.getElem? listed
    refine ⟨positive, found, ?_⟩
    have whole := queued.contents.trans (queued.remove listed).contents.symm
    rw [List.append_nil] at whole
    exact whole.trans List.perm_append_comm

/-- The queue is sound in every state a new scheduler reaches, and wherever a call for the next jobs
removes one that has timed out. -/
theorem scheduler_queue_sound (env : Environment) (keeper : Keeper) (config : SchedulerConfig)
    (ops : List SchedulerOp) :
    let s := (newJobScheduler keeper config).run env ops
    QueueSound s ∧ ∀ (ctx : SDKContext) (blockHeight : Int) (expired : List String),
      QueueSound (expired.foldl expire
        ((s.refreshValidatorCapabilities env.codec ctx).updatePriorities blockHeight)) := by
  have queued := queued_run env keeper config ops
  refine ⟨queued.sound, fun ctx blockHeight expired => Queued.sound ?_⟩
  have refreshed : (((newJobScheduler keeper config).run env ops).refreshValidatorCapabilities
      env.codec ctx).Queued := queued
  exact (refreshed.updatePriorities blockHeight).foldl_expire expired

end JobScheduler

end Aethelred.Pouw
