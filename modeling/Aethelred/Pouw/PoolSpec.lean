import Aethelred.Pouw.Scheduler
import Aethelred.Lib.Ledger
import Aethelred.Go.MapSum

/- What an assignment takes: distinct validators and workers, each with a free slot. -/
namespace Aethelred.Pouw

open Go List

namespace ValidatorHeap

variable (caps : Capabilities)

theorem lawful : (interface caps).Lawful id where
  len _ := rfl
  swap h i j first second := by
    simp only [interface, swap, id_eq] at first second ⊢
    simp only [getElem?_eq_getElem first, getElem?_eq_getElem second]
  push _ _ := rfl
  pop h nonempty := by
    have last := getLast?_eq_getLast_of_ne_nil nonempty
    refine ⟨h.dropLast, ?_, rfl⟩
    simp only [interface, pop, id_eq] at last ⊢
    rw [last, Option.map_some]

theorem popAll_perm {fuel : Nat} {h : ValidatorHeap}
    (size : h.length = fuel) : (popAll caps fuel h).Perm h := by
  induction fuel generalizing h with
  | zero => rw [eq_nil_of_length_eq_zero size, popAll]
  | succ fuel ih =>
    obtain ⟨first, tail, rfl⟩ := exists_cons_of_length_eq_add_one size
    obtain ⟨rest, popped, perm⟩ := Heap.pop_perm (lawful caps) (first :: tail) (x := first) rfl
    have shorter : rest.length = fuel := by
      have lengths := perm.length_eq
      simp only [id_eq, length_cons] at lengths size
      omega
    simp only [popAll, popped]
    exact (Perm.cons _ (ih shorter)).trans perm.symm

theorem reinsertAvailable_perm (h : ValidatorHeap) (candidates : List String) :
    (reinsertAvailable caps h candidates).Perm (candidates.filter caps.freeAt ++ h) := by
  unfold reinsertAvailable
  induction candidates generalizing h with
  | nil => exact .rfl
  | cons address rest ih =>
    rw [foldl_cons]
    by_cases available : caps.freeAt address = true
    · rw [if_pos available, filter_cons_of_pos available]
      refine (ih _).trans ?_
      have pushed := Heap.push_perm (lawful caps) h address
      exact (Perm.append_left _ pushed).trans perm_middle
    · rw [if_neg available, filter_cons_of_neg available]
      exact ih h

end ValidatorHeap

namespace ValidatorPool

variable {crypto : Crypto} {caps : Capabilities} {job : ComputeJob} {entropy : Bytes}

/-- No validator stands twice in a list of the pool. -/
structure Distinct (p : ValidatorPool) : Prop where
  tee : p.tee.Nodup
  zkml : p.zkml.Nodup
  hybrid : p.hybrid.Nodup

variable {p : ValidatorPool}

theorem Distinct.heap (distinct : p.Distinct) {proofType : ProofType}
    {h : ValidatorHeap} (found : p.heapForProofType proofType = some h) : h.Nodup := by
  cases proofType <;> simp only [heapForProofType, Option.some.injEq, reduceCtorEq] at found
  · exact found ▸ distinct.tee
  · exact found ▸ distinct.zkml
  · exact found ▸ distinct.hybrid

theorem Distinct.setHeap (distinct : p.Distinct) (proofType : ProofType)
    {h : ValidatorHeap} (nodup : h.Nodup) : (p.setHeap proofType h).Distinct := by
  obtain ⟨tee, zkml, hybrid⟩ := distinct
  cases proofType <;> constructor <;> assumption

theorem score_address {alphaRoot : Bytes} {address : String} {candidate : ScoredCandidate}
    (scored : scoreCandidateWithVRF crypto alphaRoot address = some candidate) :
    candidate.address = address := by
  unfold scoreCandidateWithVRF at scored
  split at scored
  · cases scored
  · simp only at scored
    split at scored
    · cases scored
      rfl
    · cases scored

theorem scored_sublist (popped : List String) :
    ((scored crypto caps job entropy popped).map (·.address)).Sublist
      (popped.filter caps.freeAt) := by
  unfold scored
  induction popped.filter caps.freeAt with
  | nil => exact .slnil
  | cons address rest ih =>
    cases outcome : scoreCandidateWithVRF crypto (buildAssignmentAlphaRoot crypto job entropy)
      address with
    | none =>
      rw [filterMap_cons_none outcome]
      exact ih.cons _
    | some candidate =>
      rw [filterMap_cons_some outcome, map_cons, score_address outcome]
      exact ih.cons_cons _

/-- What an assignment that found enough validators took. -/
structure Assigns (caps : Capabilities) (required : Int) (a : Assignment) : Prop where
  length : a.addresses.length = required
  nodup : a.addresses.Nodup
  free : ∀ address ∈ a.addresses, caps.freeAt address = true
  taken : a.caps = a.addresses.foldl Capabilities.takeSlot caps

theorem assign_spec (distinct : p.Distinct) {required : Int} :
    ((assign crypto p caps job required entropy).addresses = [] ∧
      (assign crypto p caps job required entropy).caps = caps ∨
      Assigns caps required (assign crypto p caps job required entropy)) ∧
    (assign crypto p caps job required entropy).pool.Distinct := by
  unfold assign
  simp only
  split
  · exact ⟨.inl ⟨rfl, rfl⟩, distinct⟩
  · rename_i positive
    split
    · exact ⟨.inl ⟨rfl, rfl⟩, distinct⟩
    · rename_i h found
      split
      · exact ⟨.inl ⟨rfl, rfl⟩, distinct⟩
      · have popped := ValidatorHeap.popAll_perm caps (rfl : h.length = h.length)
        have nodup : (ValidatorHeap.popAll caps h.length h).Nodup :=
          popped.nodup_iff.mpr (distinct.heap found)
        have reinserted : ∀ caps', (ValidatorHeap.reinsertAvailable caps' []
            (ValidatorHeap.popAll caps h.length h)).Nodup := by
          intro caps'
          rw [(ValidatorHeap.reinsertAvailable_perm caps' [] _).nodup_iff, append_nil]
          exact nodup.filter _
        split
        · exact ⟨.inl ⟨rfl, rfl⟩, distinct.setHeap _ (reinserted _)⟩
        · rename_i enough
          obtain ⟨-, candidates⟩ := not_or.mp enough
          have addresses := ((perm_insertionSort scoreOrder (scored crypto caps job entropy
            (ValidatorHeap.popAll caps h.length h))).map (·.address)).symm
          refine ⟨.inr ⟨?_, ?_, ?_, rfl⟩, distinct.setHeap _ (reinserted _)⟩
          · simp only [length_map, length_take, length_insertionSort]
            omega
          · exact addresses.nodup_iff.mp ((scored_sublist _).nodup (nodup.filter _)) |>.sublist
              (take_sublist _ _ |>.map _)
          · intro address member
            have scoredHere := addresses.mem_iff.mpr
              (((take_sublist _ _).map _).subset member)
            exact (mem_filter.mp ((scored_sublist _).subset scoredHere)).2

theorem newValidatorPool_distinct {order : RangeOrder String}
    (keyed : ∀ address cap, caps.lookup address = some cap → cap.address = address) :
    (newValidatorPool caps order).Distinct := by
  have nodup : ((caps.entries order).map fun entry => entry.2.address).Nodup := by
    have same : ((caps.entries order).map fun entry => entry.2.address) =
        (caps.entries order).map Prod.fst :=
      map_congr_left fun entry member => keyed _ _ (Map.mem_entries.mp member)
    rw [same]
    exact caps.nodup_fst_entries order
  have sub : ∀ (available supports : ValidatorCapability → Bool),
      (Heap.init (ValidatorHeap.interface caps)
        (((((caps.entries order).map (·.2)).filter available).filter supports).map
          (·.address))).Nodup := by
    intro available supports
    refine (Heap.init_perm (ValidatorHeap.lawful caps) _).nodup_iff.mpr (nodup.sublist ?_)
    have whole : ((caps.entries order).map fun entry => entry.2.address) =
        ((caps.entries order).map (·.2)).map (·.address) := (map_map ..).symm
    rw [whole]
    exact (filter_sublist.trans filter_sublist).map _
  exact ⟨sub _ _, sub _ _, sub _ _⟩

end ValidatorPool

namespace ExecutionWorkers

variable {workers : ExecutionWorkers} {order : RangeOrder String} {job : ComputeJob}
  {lane : ExecutionLane} {required : Int}

/-- What an assignment that found enough workers took. -/
structure Assigns (workers : ExecutionWorkers) (required : Int)
    (outcome : List String × ExecutionWorkers) : Prop where
  length : outcome.1.length = required
  nodup : outcome.1.Nodup
  free : ∀ id ∈ outcome.1, ∃ worker, workers.lookup id = some worker ∧
    worker.currentJobs < worker.maxConcurrentJobs
  taken : outcome.2 = outcome.1.foldl takeSlot workers

theorem assign_spec (keyed : ∀ id worker, workers.lookup id = some worker → worker.id = id) :
    assign workers order job lane required = ([], workers) ∨
      Assigns workers required (assign workers order job lane required) := by
  unfold assign
  split
  · exact .inl rfl
  · simp only
    split
    · exact .inl rfl
    · rename_i positive enough
      right
      have candidate : ∀ worker ∈ ((workers.entries order).map (·.2)).filter (·.canServe job lane),
          workers.lookup worker.id = some worker ∧
            worker.currentJobs < worker.maxConcurrentJobs := by
        intro worker member
        obtain ⟨listed, serves⟩ := mem_filter.mp member
        obtain ⟨⟨id, entry⟩, visited, rfl⟩ := mem_map.mp listed
        have found := Map.mem_entries.mp visited
        simp only [ExecutionWorkerCapability.canServe, Bool.and_eq_true, decide_eq_true_eq] at serves
        exact ⟨keyed id entry found ▸ found, serves.1.1.2⟩
      have ids : (((workers.entries order).map (·.2)).map (·.id)).Nodup := by
        have same : ((workers.entries order).map (·.2)).map (·.id) =
            (workers.entries order).map Prod.fst := by
          rw [map_map]
          exact map_congr_left fun entry member => keyed _ _ (Map.mem_entries.mp member)
        rw [same]
        exact workers.nodup_fst_entries order
      have sorted := (perm_insertionSort workerOrder
        (((workers.entries order).map (·.2)).filter (·.canServe job lane)))
      refine ⟨?_, ?_, ?_, rfl⟩
      · simp only [length_map, length_take, length_insertionSort]
        omega
      · exact ((sorted.map _).nodup_iff.mpr (ids.sublist (filter_sublist.map _))).sublist
          ((take_sublist _ _).map _)
      · intro id member
        obtain ⟨worker, taken, rfl⟩ := mem_map.mp member
        have free := candidate worker (sorted.mem_iff.mp ((take_sublist _ _).subset taken))
        exact ⟨worker, free⟩

end ExecutionWorkers

/- Which validators a pool holds, and what an assignment leaves in it. -/

def ValidatorCapability.supports (cap : ValidatorCapability) : ProofType → Bool
  | .tee => cap.teePlatforms ≠ []
  | .zkml => cap.zkmlSystems ≠ []
  | .hybrid => cap.teePlatforms ≠ [] && cap.zkmlSystems ≠ []
  | _ => false

def ValidatorCapability.available (proofType : ProofType) (cap : ValidatorCapability) : Bool :=
  cap.address ≠ "" && Capabilities.free cap && cap.supports proofType

def validatorSlots : Ledger.Account ValidatorCapability where
  held cap := cap.currentJobs
  withHeld cap amount := { cap with currentJobs := amount }
  limit cap := cap.maxConcurrentJobs
  held_withHeld _ _ := rfl
  limit_withHeld _ _ := rfl
  withHeld_withHeld _ _ _ := rfl
  withHeld_held _ := rfl

/-- The key pairs sign what they verify. -/
def Crypto.Verifies (crypto : Crypto) : Prop :=
  ∀ seed message, crypto.ed25519Verify (crypto.ed25519Public seed) message
    (crypto.ed25519Sign seed message) = true

namespace Capabilities

theorem count_eq_update (caps : Capabilities) (address : String) (change : Int → Int) :
    caps.count address change = Ledger.update validatorSlots caps address change := by
  unfold count Ledger.update
  cases caps.lookup address with
  | none => rfl
  | some cap => rfl

/-- Each capability is kept under its own address. -/
def Keyed (caps : Capabilities) : Prop :=
  ∀ address cap, caps.lookup address = some cap → cap.address = address

theorem freeAt_eq_true {caps : Capabilities} {address : String} :
    caps.freeAt address = true ↔ ∃ cap, caps.lookup address = some cap ∧ free cap = true := by
  unfold freeAt
  cases caps.lookup address with
  | none => simp
  | some cap => simp

section Raised

variable {caps later : Capabilities} (risen : Ledger.Raised validatorSlots caps later)
include risen

theorem Keyed.raised (keyed : caps.Keyed) : later.Keyed := by
  intro address cap found
  obtain ⟨before, earlier, same, _⟩ := risen.source found
  rw [same]
  exact keyed address before earlier

theorem available_source {proofType : ProofType} {address : String} {cap : ValidatorCapability}
    (found : later.lookup address = some cap) (available : cap.available proofType = true) :
    ∃ before, caps.lookup address = some before ∧ before.available proofType = true := by
  obtain ⟨before, earlier, same, less⟩ := risen.source found
  refine ⟨before, earlier, ?_⟩
  rw [same] at available
  unfold ValidatorCapability.available free at *
  simp only [Bool.and_eq_true, decide_eq_true_eq] at *
  obtain ⟨⟨named, online, room⟩, supported⟩ := available
  exact ⟨⟨named, online, Int.lt_of_le_of_lt less room⟩, supported⟩

theorem countP_available_le (proofType : ProofType) :
    later.countP (·.available proofType) ≤ caps.countP (·.available proofType) :=
  Map.countP_le fun _ _ found available => available_source risen found available

end Raised

end Capabilities

namespace ValidatorPool

def candidates (p : ValidatorPool) (proofType : ProofType) : List String :=
  (p.heapForProofType proofType).getD []

/-- The candidates are named validators that are online and support the type. -/
structure Holds (caps : Capabilities) (p : ValidatorPool) : Prop where
  distinct : p.Distinct
  sound : ∀ proofType, ∀ address ∈ p.candidates proofType, ∃ cap,
    caps.lookup address = some cap ∧ cap.address ≠ "" ∧ cap.isOnline = true ∧
      cap.supports proofType = true

/-- Every available validator is a candidate. -/
def Complete (caps : Capabilities) (p : ValidatorPool) : Prop :=
  ∀ proofType address cap, caps.lookup address = some cap → cap.available proofType = true →
    address ∈ p.candidates proofType

variable {p : ValidatorPool}

theorem Holds.raised {caps later : Capabilities} (holds : p.Holds caps)
    (raised : Ledger.Raised validatorSlots caps later) : p.Holds later := by
  refine ⟨holds.distinct, fun proofType address listed => ?_⟩
  obtain ⟨cap, found, fits⟩ := holds.sound proofType address listed
  obtain ⟨amount, next, _⟩ := (raised address).2 cap found
  exact ⟨validatorSlots.withHeld cap amount, next, fits⟩

variable {proofType : ProofType} {h : ValidatorHeap}

theorem candidates_setHeap
    (found : p.heapForProofType proofType = some h) (h' : ValidatorHeap) (other : ProofType) :
    (p.setHeap proofType h').candidates other =
      if other = proofType then h' else p.candidates other := by
  unfold candidates
  cases proofType <;> cases other <;> first | rfl | cases found

theorem heap_eq_candidates
    (found : p.heapForProofType proofType = some h) : p.candidates proofType = h := by
  unfold candidates
  rw [found, Option.getD_some]

variable {caps : Capabilities} {crypto : Crypto} {job : ComputeJob} {entropy : Bytes}

section

variable (keyed : caps.Keyed) (order : RangeOrder String)
include keyed order

/-- The heap of a proof type holds the free validators that support it. -/
theorem mem_init (supports : ValidatorCapability → Bool) (address : String) :
    address ∈ Heap.init (ValidatorHeap.interface caps)
        (((((caps.entries order).map (·.2)).filter fun cap =>
          cap.address ≠ "" && Capabilities.free cap).filter supports).map (·.address)) ↔
      ∃ cap, caps.lookup address = some cap ∧
        (cap.address ≠ "" && Capabilities.free cap && supports cap) = true := by
  have perm (l : List String) : (Heap.init (ValidatorHeap.interface caps) l).Perm l :=
    Heap.init_perm (ValidatorHeap.lawful caps) l
  rw [(perm _).mem_iff, mem_map]
  constructor
  · intro listed
    obtain ⟨cap, kept, rfl⟩ := listed
    obtain ⟨free, supported⟩ := mem_filter.mp kept
    obtain ⟨visited, passes⟩ := mem_filter.mp free
    obtain ⟨entry, member, rfl⟩ := mem_map.mp visited
    have found := Map.mem_entries.mp member
    refine ⟨entry.2, (keyed _ _ found).symm ▸ found, ?_⟩
    rw [passes, supported]
    rfl
  · rintro ⟨cap, found, passes⟩
    obtain ⟨free, supported⟩ := Bool.and_eq_true_iff.mp passes
    refine ⟨cap, mem_filter.mpr ⟨mem_filter.mpr ⟨?_, free⟩, supported⟩,
      keyed address cap found⟩
    exact mem_map.mpr ⟨(address, cap), Map.mem_entries.mpr found, rfl⟩

theorem mem_newValidatorPool (proofType : ProofType) (address : String) :
    address ∈ (newValidatorPool caps order).candidates proofType ↔
      ∃ cap, caps.lookup address = some cap ∧ cap.available proofType = true := by
  cases proofType with
  | tee => exact mem_init keyed order _ address
  | zkml => exact mem_init keyed order _ address
  | hybrid => exact mem_init keyed order _ address
  | _ =>
    constructor
    · intro listed
      cases listed
    · rintro ⟨cap, _, available⟩
      unfold ValidatorCapability.available ValidatorCapability.supports at available
      rw [Bool.and_false] at available
      cases available

theorem newValidatorPool_holds :
    (newValidatorPool caps order).Holds caps ∧ (newValidatorPool caps order).Complete caps := by
  refine ⟨⟨newValidatorPool_distinct keyed, ?_⟩, ?_⟩
  · intro proofType address listed
    obtain ⟨cap, found, available⟩ := (mem_newValidatorPool keyed order proofType address).mp listed
    unfold ValidatorCapability.available Capabilities.free at available
    simp only [Bool.and_eq_true, decide_eq_true_eq] at available
    exact ⟨cap, found, available.1.1, available.1.2.1, available.2⟩
  · intro proofType address cap found available
    exact (mem_newValidatorPool keyed order proofType address).mpr ⟨cap, found, available⟩

end

/-- An assignment takes candidates of the job's type, drops candidates without a free slot, and
fails only for want of candidates. -/
structure Outcome (caps : Capabilities) (crypto : Crypto) (p : ValidatorPool)
    (proofType : ProofType) (required : Int) (a : Assignment) : Prop where
  narrowed : ∀ other, ∀ address ∈ a.pool.candidates other, address ∈ p.candidates other
  kept : ∀ other, ∀ address ∈ p.candidates other, a.caps.freeAt address = true →
    address ∈ a.pool.candidates other
  taken : ∀ address ∈ a.addresses, address ∈ p.candidates proofType
  failed : a.addresses.length < required → crypto.Verifies → Complete caps p →
    (caps.countP (·.available proofType) : Int) < required

theorem length_scored (verifies : crypto.Verifies) {popped : List String}
    (named : ∀ address ∈ popped, address ≠ "") :
    (scored crypto caps job entropy popped).length = (popped.filter caps.freeAt).length := by
  unfold scored
  apply filterMap_length_eq_length.mpr
  intro address member
  unfold scoreCandidateWithVRF
  rw [if_neg (named address (mem_filter.mp member).1)]
  dsimp only
  rw [if_pos (verifies _ _)]
  rfl

theorem countP_le_candidates (complete : p.Complete caps) (proofType : ProofType) :
    caps.countP (·.available proofType) ≤ ((p.candidates proofType).filter caps.freeAt).length := by
  refine Map.countP_le_length fun address cap found available => ?_
  refine mem_filter.mpr ⟨complete proofType address cap found available, ?_⟩
  unfold ValidatorCapability.available at available
  simp only [Bool.and_eq_true] at available
  exact Capabilities.freeAt_eq_true.mpr ⟨cap, found, available.1.2⟩

theorem outcome_unassigned {p next : ValidatorPool} {required : Int}
    (narrowed : ∀ other, ∀ address ∈ next.candidates other, address ∈ p.candidates other)
    (kept : ∀ other, ∀ address ∈ p.candidates other, caps.freeAt address = true →
      address ∈ next.candidates other) (few : crypto.Verifies →
      (((p.candidates proofType).filter caps.freeAt).length : Int) < required) :
    Outcome caps crypto p proofType required ⟨[], [], next, caps⟩ := by
  refine ⟨narrowed, kept, fun address listed => (nomatch listed), fun _ verifies complete => ?_⟩
  have within := countP_le_candidates complete proofType
  have short := few verifies
  omega

theorem mem_reinsertAvailable {caps' : Capabilities} {address : String} :
    address ∈ ValidatorHeap.reinsertAvailable caps' [] (ValidatorHeap.popAll caps h.length h) ↔
      address ∈ h ∧ caps'.freeAt address = true := by
  rw [(ValidatorHeap.reinsertAvailable_perm caps' [] _).mem_iff, append_nil, mem_filter,
    (ValidatorHeap.popAll_perm caps (rfl : h.length = h.length)).mem_iff]

/-- An assignment draws from free candidates, or finds too few. -/
theorem assign_outcome (keyed : caps.Keyed) (holds : p.Holds caps)
    {required : Int} (positive : 0 < required) :
    Outcome caps crypto p job.proofType required (assign crypto p caps job required entropy) := by
  have same : ∀ other, ∀ address ∈ p.candidates other, address ∈ p.candidates other :=
    fun _ _ listed => listed
  unfold assign
  simp only
  rw [if_neg (Int.not_le.mpr positive)]
  split
  · rename_i none
    refine outcome_unassigned same (fun _ _ listed _ => listed) fun _ => ?_
    unfold candidates
    rw [none]
    exact positive
  · rename_i h found
    have here := heap_eq_candidates found
    have reinserted (caps' : Capabilities) (other : ProofType) (address : String) :
        address ∈ (p.setHeap job.proofType (ValidatorHeap.reinsertAvailable caps' []
          (ValidatorHeap.popAll caps h.length h))).candidates other ↔
            address ∈ p.candidates other ∧
              (other = job.proofType → caps'.freeAt address = true) := by
      rw [candidates_setHeap found]
      by_cases own : other = job.proofType
      · rw [if_pos own, mem_reinsertAvailable, own, here]
        simp
      · rw [if_neg own]
        simp [own]
    have narrowed (caps' : Capabilities) : ∀ other, ∀ address ∈ (p.setHeap job.proofType
        (ValidatorHeap.reinsertAvailable caps' [] (ValidatorHeap.popAll caps h.length
          h))).candidates other, address ∈ p.candidates other :=
      fun other address listed => ((reinserted caps' other address).mp listed).1
    have kept (caps' : Capabilities) : ∀ other, ∀ address ∈ p.candidates other,
        caps'.freeAt address = true → address ∈ (p.setHeap job.proofType
          (ValidatorHeap.reinsertAvailable caps' [] (ValidatorHeap.popAll caps h.length
            h))).candidates other :=
      fun other address listed free => (reinserted caps' other address).mpr ⟨listed, fun _ => free⟩
    split
    · rename_i empty
      refine outcome_unassigned same (fun _ _ listed _ => listed) fun _ => ?_
      rw [here, eq_nil_of_length_eq_zero empty]
      exact positive
    · have popped := ValidatorHeap.popAll_perm caps (rfl : h.length = h.length)
      split
      · rename_i failed
        refine outcome_unassigned (narrowed caps) (kept caps) fun verifies => ?_
        have named : ∀ address ∈ ValidatorHeap.popAll caps h.length h, address ≠ "" := by
          intro address member
          obtain ⟨cap, listed, isNamed, _⟩ := holds.sound job.proofType address
            (here ▸ popped.mem_iff.mp member)
          rwa [← keyed address cap listed]
        rw [length_scored verifies named, or_self, (popped.filter _).length_eq] at failed
        rw [here]
        exact failed
      · rename_i enough
        have sorted := perm_insertionSort scoreOrder (scored crypto caps job entropy
          (ValidatorHeap.popAll caps h.length h))
        refine ⟨narrowed _, kept _, fun address member => ?_, fun short => ?_⟩
        · obtain ⟨candidate, selected, rfl⟩ := mem_map.mp member
          have scoredHere := sorted.mem_iff.mp ((take_sublist _ _).subset selected)
          have free := (scored_sublist _).subset (mem_map_of_mem scoredHere)
          rw [here]
          exact popped.mem_iff.mp (mem_filter.mp free).1
        · dsimp only at short
          rw [length_map, length_take, sorted.length_eq] at short
          omega

end ValidatorPool

end Aethelred.Pouw
