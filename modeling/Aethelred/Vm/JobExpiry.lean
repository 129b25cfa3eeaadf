import Aethelred.Vm.JobRun

/- When jobs expire. The index goes by deadlines and a job expires at the end of its grace period:
one that is looked at in between is not looked at again. -/
namespace Vm

open Go Attempt JobStatus List Option AList

namespace JobRegistry

variable {registry before after : JobRegistry} {id : JobId} {job : JobState} {currentTime : Nat}

/-- What is active afterwards was there before. -/
def Only (before after : JobRegistry) : Prop :=
  ∀ id job, after.jobs.lookup id = some job → job.status.isActive = true →
    before.jobs.lookup id = some job

theorem Only.refl (registry : JobRegistry) : Only registry registry := fun _ _ found _ => found

theorem Only.trans {last : JobRegistry} (first : Only before after) (second : Only after last) :
    Only before last :=
  fun id job found active => first id job (second id job found active) active

/-- No active job of the list is over its grace period. -/
def Swept (currentTime : Nat) (ids : List JobId) (registry : JobRegistry) : Prop :=
  ∀ id ∈ ids, ∀ job, registry.jobs.lookup id = some job → job.status.isActive = true →
    job.sla.isExpired currentTime = false

theorem Swept.only {ids : List JobId} (swept : Swept currentTime ids before)
    (only : Only before after) : Swept currentTime ids after :=
  fun id member job found active => swept id member job (only id job found active) active

/-- Expiring a job touches it alone. -/
theorem only_expire (currentTime : Nat) (registry : JobRegistry) (id : JobId) :
    Only registry (expire currentTime registry id) ∧
      (expire currentTime registry id).jobsByDeadline = registry.jobsByDeadline ∧
      Swept currentTime [id] (expire currentTime registry id) := by
  cases found : registry.jobs.lookup id with
  | none =>
    have same : expire currentTime registry id = registry := by
      unfold expire
      rw [found]
    rw [same]
    refine ⟨.refl _, rfl, fun other member job present => ?_⟩
    rw [mem_singleton.mp member, found] at present
    exact nomatch present
  | some job =>
    by_cases due : job.status.isActive = true ∧ job.sla.isExpired currentTime = true
    · rw [expire_of found due.1 due.2]
      refine ⟨fun other next present active => ?_, rfl,
        fun other member next present active => ?_⟩
      · by_cases same : other = id
        · subst same
          obtain rfl := some.inj ((lookup_insert _).symm.trans present)
          exact nomatch active
        · exact (lookup_insert_ne same).symm.trans present
      · rw [mem_singleton.mp member] at present
        obtain rfl := some.inj ((lookup_insert _).symm.trans present)
        exact nomatch active
    · have same : expire currentTime registry id = registry := by
        unfold expire
        rw [found]
        exact if_neg due
      rw [same]
      refine ⟨.refl _, rfl, fun other member next present active => ?_⟩
      rw [mem_singleton.mp member, found] at present
      obtain rfl := some.inj present
      exact Bool.eq_false_of_not_eq_true fun expired => due ⟨active, expired⟩

theorem foldl_expire (currentTime : Nat) (ids : List JobId) (registry : JobRegistry) :
    Only registry (ids.foldl (expire currentTime) registry) ∧
      (ids.foldl (expire currentTime) registry).jobsByDeadline = registry.jobsByDeadline ∧
      Swept currentTime ids (ids.foldl (expire currentTime) registry) := by
  induction ids generalizing registry with
  | nil => exact ⟨.refl registry, rfl, nofun⟩
  | cons id rest ih =>
    obtain ⟨only, index, swept⟩ := only_expire currentTime registry id
    obtain ⟨later, same, others⟩ := ih (expire currentTime registry id)
    refine ⟨only.trans later, same.trans index, fun other member => ?_⟩
    obtain rfl | member := mem_cons.mp member
    · exact swept.only later other (mem_singleton_self _)
    · exact others other member

theorem expireDeadline_spec (currentTime : Nat) (registry : JobRegistry) (deadline : Nat) :
    Only registry (expireDeadline currentTime registry deadline) ∧
      (∀ other, other ≠ deadline →
        (expireDeadline currentTime registry deadline).jobsByDeadline.get other [] =
          registry.jobsByDeadline.get other []) ∧
      Swept currentTime (registry.jobsByDeadline.get deadline [])
        (expireDeadline currentTime registry deadline) := by
  unfold expireDeadline Map.get
  cases found : registry.jobsByDeadline.lookup deadline with
  | none => exact ⟨.refl registry, fun _ _ => rfl, nofun⟩
  | some ids =>
    obtain ⟨only, index, swept⟩ := foldl_expire currentTime ids
      { registry with jobsByDeadline := registry.jobsByDeadline.erase deadline }
    refine ⟨only, fun other differ => ?_, swept⟩
    dsimp only
    rw [index, Map.lookup_erase_eq, if_neg differ]

theorem foldl_expireDeadline (currentTime : Nat) {deadlines : List Nat} (distinct : deadlines.Nodup)
    (registry : JobRegistry) :
    Only registry (deadlines.foldl (expireDeadline currentTime) registry) ∧
      (∀ other, other ∉ deadlines →
        (deadlines.foldl (expireDeadline currentTime) registry).jobsByDeadline.get other [] =
          registry.jobsByDeadline.get other []) ∧
      ∀ deadline ∈ deadlines, Swept currentTime (registry.jobsByDeadline.get deadline [])
        (deadlines.foldl (expireDeadline currentTime) registry) := by
  induction deadlines generalizing registry with
  | nil => exact ⟨.refl registry, fun _ _ => rfl, nofun⟩
  | cons deadline rest ih =>
    obtain ⟨fresh, distinct⟩ := nodup_cons.mp distinct
    obtain ⟨only, index, swept⟩ := expireDeadline_spec currentTime registry deadline
    obtain ⟨later, same, others⟩ := ih distinct (expireDeadline currentTime registry deadline)
    refine ⟨only.trans later, fun other absent => ?_, fun other member => ?_⟩
    · obtain ⟨differ, absent⟩ := not_or.mp (mt mem_cons.mpr absent)
      exact (same other absent).trans (index other differ)
    · obtain rfl | member := mem_cons.mp member
      · exact swept.only later
      · have differ : other ≠ deadline := fun this => fresh (this ▸ member)
        rw [← index other differ]
        exact others other member

/-- Every active job is listed under its deadline, which is not after its grace period. -/
def Filed (registry : JobRegistry) : Prop :=
  ∀ id job, registry.jobs.lookup id = some job → job.status.isActive = true →
    id ∈ registry.jobsByDeadline.get job.sla.deadline [] ∧ job.sla.deadline ≤ job.sla.graceEnd

theorem filed_new (config : JobConfig) : (new config).Filed := by
  intro id job found
  rw [new, lookup_empty] at found
  exact nomatch found

/-- After a pass at a time at which no active job is in its grace period, no active job is over
it, and none is lost from the index. -/
theorem Filed.processExpiredJobs (filed : registry.Filed)
    (decided : ∀ id job, registry.jobs.lookup id = some job → job.status.isActive = true →
      ¬(job.sla.deadline ≤ currentTime ∧ currentTime ≤ job.sla.graceEnd)) :
    (registry.processExpiredJobs currentTime).Filed ∧
      ∀ id job, (registry.processExpiredJobs currentTime).jobs.lookup id = some job →
        job.status.isActive = true → currentTime ≤ job.sla.graceEnd := by
  have distinct : (registry.expiredDeadlines currentTime).Nodup :=
    (mergeSort_perm _ _).nodup_iff.mpr (registry.jobsByDeadline.nodupKeys.filter _)
  have passed : ∀ deadline, deadline ∈ registry.expiredDeadlines currentTime ↔
      deadline ∈ registry.jobsByDeadline.keys ∧ deadline ≤ currentTime := by
    intro deadline
    simp [expiredDeadlines]
  obtain ⟨only, index, swept⟩ := foldl_expireDeadline currentTime distinct registry
  have ahead : ∀ id job, (registry.processExpiredJobs currentTime).jobs.lookup id = some job →
      job.status.isActive = true → currentTime < job.sla.deadline := by
    intro id job found active
    have present := only id job found active
    obtain ⟨listed, -⟩ := filed id job present active
    by_contra late
    have due := decided id job present active
    have key : job.sla.deadline ∈ registry.jobsByDeadline.keys := by
      rw [Map.mem_keys_iff]
      unfold Map.get at listed
      cases bucket : registry.jobsByDeadline.lookup job.sla.deadline with
      | none =>
        rw [bucket] at listed
        exact nomatch listed
      | some ids => exact ⟨ids, rfl⟩
    have expired := swept job.sla.deadline ((passed _).mpr ⟨key, Nat.le_of_not_lt late⟩) id listed
      job found active
    simp only [SlaPolicy.isExpired, decide_eq_false_iff_not] at expired
    omega
  refine ⟨fun id job found active => ?_, fun id job found active => ?_⟩
  · have later := ahead id job found active
    obtain ⟨listed, ordered⟩ := filed id job (only id job found active) active
    refine ⟨?_, ordered⟩
    rw [show (registry.processExpiredJobs currentTime).jobsByDeadline.get job.sla.deadline [] = _
      from index _ fun member => Nat.not_lt.mpr ((passed _).mp member).2 later]
    exact listed
  · have later := ahead id job found active
    have ordered := (filed id job (only id job found active) active).2
    omega

/-- What is active afterwards was active before, with the same deadlines, and is listed as it
was. -/
structure Traces (before after : JobRegistry) : Prop where
  active : ∀ id next, after.jobs.lookup id = some next → next.status.isActive = true →
    ∃ job, before.jobs.lookup id = some job ∧ job.status.isActive = true ∧ next.sla = job.sla
  index : after.jobsByDeadline = before.jobsByDeadline

theorem Traces.of_jobs (jobs : after.jobs = before.jobs)
    (index : after.jobsByDeadline = before.jobsByDeadline) : Traces before after where
  active _ next found active := ⟨next, jobs ▸ found, active, rfl⟩
  index := index

theorem Traces.refl (registry : JobRegistry) : Traces registry registry := .of_jobs rfl rfl

theorem Traces.trans {last : JobRegistry} (first : Traces before after)
    (second : Traces after last) : Traces before last where
  active id next found active := by
    obtain ⟨middle, present, live, same⟩ := second.active id next found active
    obtain ⟨job, known, alive, equal⟩ := first.active id middle present live
    exact ⟨job, known, alive, same.trans equal⟩
  index := second.index.trans first.index

theorem Traces.close (idle : job.status.isActive = false) :
    Traces registry (registry.putJob id job) where
  active other next found active := by
    by_cases same : other = id
    · subst same
      obtain rfl := some.inj ((lookup_insert _).symm.trans found)
      exact nomatch idle.symm.trans active
    · exact ⟨next, (lookup_insert_ne same).symm.trans found, active, rfl⟩
  index := rfl

theorem Traces.change {next : JobState} (found : registry.jobs.lookup id = some job)
    (active : job.status.isActive = true) (same : next.sla = job.sla) :
    Traces registry (registry.putJob id next) where
  active other later present live := by
    by_cases own : other = id
    · subst own
      obtain rfl := some.inj ((lookup_insert _).symm.trans present)
      exact ⟨job, found, active, same⟩
    · exact ⟨later, (lookup_insert_ne own).symm.trans present, live, rfl⟩
  index := rfl

theorem Filed.traces (filed : before.Filed) (traces : Traces before after) : after.Filed := by
  intro id next found active
  obtain ⟨job, present, live, same⟩ := traces.active id next found active
  rw [traces.index, same]
  exact filed id job present live

theorem Filed.index (filed : registry.Filed) (ordered : job.sla.deadline ≤ job.sla.graceEnd) :
    (registry.index id job).Filed := by
  intro other next found active
  have buckets : ∀ deadline, (registry.index id job).jobsByDeadline.get deadline [] =
      if deadline = job.sla.deadline then registry.jobsByDeadline.get deadline [] ++ [id]
      else registry.jobsByDeadline.get deadline [] :=
    fun deadline => Map.get_update registry.jobsByDeadline job.sla.deadline deadline [] _
  rw [buckets]
  by_cases same : other = id
  · subst same
    obtain rfl := some.inj ((lookup_insert _).symm.trans found)
    rw [if_pos rfl]
    exact ⟨mem_concat_self, ordered⟩
  · obtain ⟨listed, before⟩ := filed other next
      ((lookup_insert_ne same).symm.trans found) active
    refine ⟨?_, before⟩
    split
    · exact mem_append_left _ listed
    · exact listed

end JobRegistry

namespace World

open JobRegistry

variable {platform : Platform} {world after : World} {id : JobId} {job : JobState}

/-- The grace period of a new job ends after its deadline, and no active job is in its grace period
when the registry looks for expired ones. -/
def Decided (world : World) : JobCall → Prop
  | .submitJob params ctx =>
    ∀ sla ∈ SlaPolicy.new world.registry.config params.priority ctx.timestamp params.slaTimeout,
      sla.deadline ≤ sla.graceEnd
  | .processExpiredJobs currentTime => ∀ id ∈ world.registry.jobs.keys,
      ∀ job ∈ world.registry.jobs.lookup id, job.status.isActive = true →
        ¬(job.sla.deadline ≤ currentTime ∧ currentTime ≤ job.sla.graceEnd)
  | _ => True

instance (world : World) : (call : JobCall) → Decidable (world.Decided call)
  | .submitJob params ctx => inferInstanceAs (Decidable (∀ sla ∈ SlaPolicy.new
      world.registry.config params.priority ctx.timestamp params.slaTimeout, _))
  | .processExpiredJobs _ => decidableBAll _ world.registry.jobs.keys
  | .assignJob _ _ _ | .submitProof _ _ | .cancelJob _ _ | .surround _ _ _ => .isTrue trivial

/-- Nothing that is active is over its grace period once the registry has looked for it. -/
def Prompt (platform : Platform) (world : World) : JobCall → Prop
  | .processExpiredJobs currentTime => ∀ id job,
      (step platform world (.processExpiredJobs currentTime)).registry.jobs.lookup id = some job →
        job.status.isActive = true → currentTime ≤ job.sla.graceEnd
  | _ => True

/-- A proof leaves the deadlines that are still due. -/
theorem traces_submitProof {params : SubmitProofParams} {ctx : BlockContext} :
    Traces world.registry (step platform world (.submitProof params ctx)).registry := by
  rw [step_submitProof_eq]
  obtain stuck | ⟨reason, last, turned, ⟨seen, same⟩, -⟩ |
    ⟨job, status, registry, reason, last, closed, -, found, -, ends, ⟨seen, same⟩, written⟩ |
    ⟨job, registry, accepts, settled⟩ := submitProof_cases platform params ctx world
  · rw [stuck]
    exact .refl _
  · rw [turned]
    show Traces world.registry last.registry
    rw [same]
    exact .of_jobs rfl rfl
  · rw [closed]
    show Traces world.registry last.registry
    have idle : status.isActive = false := by
      obtain rfl | rfl := ends <;> rfl
    have remembers : Traces world.registry registry := by
      rw [same]
      exact .of_jobs rfl rfl
    rw [written]
    have closes : Traces registry (registry.putJob params.jobId { job with status }) := .close idle
    exact (remembers.trans closes).trans (.of_jobs rfl rfl)
  · rw [settled]
    show Traces world.registry (settle params ctx job { world with registry }).2.registry
    obtain ⟨seen, same⟩ := accepts.remembers
    have remembers : Traces world.registry registry := by
      rw [same]
      exact .of_jobs rfl rfl
    have verified : Traces world.registry (registry.putJob params.jobId
        (verifiedJob params ctx job)) := remembers.trans (.close rfl)
    obtain ⟨reason, after, done, bank, -⟩ | ⟨result, fee, charged, paid, done, bank, -⟩ :=
      settle_cases params ctx job { world with registry }
    · rw [done, bank.registry]
      exact verified
    · rw [done]
      show Traces world.registry (settledRegistry params ctx job paid.registry)
      rw [bank.registry]
      exact (verified.trans (.close rfl)).trans (.of_jobs rfl rfl)

theorem traces_assignJob (id : JobId) (prover : Address) (ctx : BlockContext)
    (registry : JobRegistry) : Traces registry (assignJob id prover ctx registry).2 := by
  obtain ⟨reason, failed⟩ | ⟨job, found, edge, -, done⟩ := assignJob_cases id prover ctx registry
  · rw [failed]
    exact .refl registry
  · rw [done]
    have active : job.status.isActive = true := by
      revert edge
      cases job.status <;> decide
    have written : Traces registry (registry.putJob id { job with
        assignedProver := some prover
        assignedAt := some ctx.timestamp
        status := .Assigned }) := .change found active rfl
    exact written.trans (.of_jobs rfl rfl)

theorem traces_cancelJob (id : JobId) (requester : Address) (world : World) :
    Traces world.registry (cancelJob id requester world).2.registry := by
  obtain ⟨reason, bank, failed, -⟩ | ⟨result, job, freed, bank, -, -, -, -, -, done⟩ :=
    cancelJob_cases id requester world
  · rw [failed]
    exact .refl _
  · rw [done]
    have closed : Traces world.registry (world.registry.putJob id { job with
        status := .Cancelled }) := .close rfl
    exact closed.trans (.of_jobs rfl rfl)

theorem filed_submitJob {params : SubmitJobParams} {ctx : BlockContext}
    (filed : world.registry.Filed) (decided : world.Decided (.submitJob params ctx)) :
    (step platform world (.submitJob params ctx)).registry.Filed := by
  rw [step_submitJob_eq]
  obtain stuck | ⟨reason, failed⟩ | ⟨reason, bank, -, failed⟩ |
    ⟨result, bank, job, -, made, done⟩ := submitJob_cases platform params ctx world
  · rw [stuck]
    exact filed
  · rw [failed]
    exact filed
  · rw [failed]
    exact filed.traces (.of_jobs rfl rfl)
  · rw [done]
    have bumped : (world.registry.bumped params.requester).Filed :=
      filed.traces (.of_jobs rfl rfl)
    refine bumped.index ?_
    unfold JobState.new at made
    obtain ⟨sla, given, rfl⟩ := map_eq_some_iff.mp made
    exact decided sla given

theorem filed_step {call : JobCall} (filed : world.registry.Filed) (decided : world.Decided call) :
    (step platform world call).registry.Filed ∧ Prompt platform world call := by
  cases call with
  | submitJob params ctx => exact ⟨filed_submitJob filed decided, trivial⟩
  | assignJob id prover ctx =>
    exact ⟨filed.traces (traces_assignJob id prover ctx world.registry), trivial⟩
  | submitProof params ctx => exact ⟨filed.traces traces_submitProof, trivial⟩
  | cancelJob id requester => exact ⟨filed.traces (traces_cancelJob id requester world), trivial⟩
  | processExpiredJobs currentTime =>
    refine filed.processExpiredJobs fun id job found active => ?_
    exact decided id (Map.mem_keys_iff.mpr ⟨job, found⟩) job found active
  | surround staking stakingBank bank => exact ⟨filed, trivial⟩

/-- In every run in which no active job is in its grace period when the registry looks for expired
jobs, none outlives it. -/
theorem run_prompt (platform : Platform) (config : JobConfig) (staking : StakingManager)
    (stakingBank : Option Bank) (bank : Bank) (calls : List JobCall)
    (decided : Run.Along (step platform) Decided ⟨.new config, staking, stakingBank, bank⟩ calls) :
    Run.Along (step platform) (Prompt platform) ⟨.new config, staking, stakingBank, bank⟩ calls :=
  decided.of_invariant (fun world => world.registry.Filed)
    (fun _ _ decided filed => (filed_step filed decided).1)
    (fun _ _ filed decided => (filed_step filed decided).2) (filed_new config)

def expiredInTime : List JobCall :=
  [.submitJob localParams localContext, .assignJob firstJob 2 localContext,
    .processExpiredJobs 1119, .processExpiredJobs 1131]

theorem run_prompt_local :
    Run.Along (step localPlatform) (Prompt localPlatform) localWorld expiredInTime :=
  run_prompt localPlatform .devnet (.new .devnet) none Economy.fundedBank expiredInTime
    (by decide +kernel)

def lookedAtInGrace : List JobCall :=
  [.submitJob localParams localContext, .assignJob firstJob 2 localContext,
    .processExpiredJobs 1125, .processExpiredJobs 2000]

/-- The job is active for ever. -/
theorem lookedAtInGrace_not_prompt :
    ¬Run.Along (step localPlatform) (Prompt localPlatform) localWorld lookedAtInGrace := by
  intro prompt
  have last := prompt.2.2.2.1
  have active : ∃ job, (Run.exec (step localPlatform) localWorld
      lookedAtInGrace).registry.jobs.lookup firstJob = some job ∧ job.status.isActive = true ∧
        job.sla.graceEnd < 2000 := by decide +kernel
  obtain ⟨job, found, live, late⟩ := active
  exact absurd (last firstJob job found live) (Nat.not_le_of_lt late)

end World

end Vm
