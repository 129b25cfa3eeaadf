import Aethelred.Vm.JobRun

/- The registry's counters and lists of jobs, against the jobs themselves. -/
namespace Vm

open Go Attempt JobStatus List Nat

namespace JobRegistry

variable {platform : Platform} {hashed : List (List UInt8)} {registry before after : JobRegistry}
  {id : JobId} {job next : JobState} {inserted : Nat}

section Lists

variable {jobs : Map JobId JobState} {owner : JobState → Option Address}
  {index : Map Address (List JobId)} {account : Address}

/-- Each account is listed with the jobs it owns, each of them once. -/
def Lists (jobs : Map JobId JobState) (owner : JobState → Option Address)
    (index : Map Address (List JobId)) : Prop :=
  ∀ account, (index.get account []).Nodup ∧
    ∀ id, id ∈ index.get account [] ↔ (jobs.lookup id).bind owner = some account

theorem Lists.insert (lists : Lists jobs owner index)
    (same : owner job = (jobs.lookup id).bind owner) : Lists (jobs.insert id job) owner index := by
  refine fun account => ⟨(lists account).1, fun other => ((lists account).2 other).trans ?_⟩
  rw [Map.lookup_insert_eq]
  split
  next own => rw [own, ← same]; rfl
  · rfl

/-- A job with a new owner is appended to its list. -/
theorem Lists.insert_owned (lists : Lists jobs owner index)
    (free : (jobs.lookup id).bind owner = none) (owned : owner job = some account) :
    Lists (jobs.insert id job) owner (index.update account [] (· ++ [id])) := by
  have unlisted : ∀ other, id ∉ index.get other [] := by
    intro other member
    rw [(lists other).2, free] at member
    exact nomatch member
  intro other
  rw [Map.get_update]
  by_cases own : other = account
  · subst own
    rw [if_pos rfl]
    refine ⟨nodup_append_comm.mp (nodup_cons.mpr ⟨unlisted other, (lists other).1⟩),
      fun key => ?_⟩
    rw [Map.lookup_insert_eq, mem_append, mem_singleton, (lists other).2]
    by_cases same : key = id
    · rw [if_pos same]
      exact iff_of_true (.inr same) owned
    · rw [if_neg same]
      exact or_iff_left same
  · rw [if_neg own]
    refine ⟨(lists other).1, fun key => ((lists other).2 key).trans ?_⟩
    rw [Map.lookup_insert_eq]
    split
    next same =>
      subst same
      rw [free]
      refine iff_of_false nofun fun equal => own ?_
      exact (Option.some.inj (owned.symm.trans equal)).symm
    · rfl

end Lists

def pending (job : JobState) : Bool := !job.status.isTerminal

/-- Counters and lists are those of the stored jobs. -/
structure Counted (registry : JobRegistry) : Prop where
  active : registry.activeJobs = registry.jobs.countP pending
  total : registry.totalJobs = registry.jobs.keys.length
  requesters : Lists registry.jobs (fun job => some job.requester) registry.jobsByRequester
  provers : Lists registry.jobs (·.assignedProver) registry.jobsByProver

theorem counted_new (config : JobConfig) : (new config).Counted :=
  ⟨rfl, rfl, fun _ => ⟨nodup_nil, fun _ => ⟨nofun, nofun⟩⟩,
    fun _ => ⟨nodup_nil, fun _ => ⟨nofun, nofun⟩⟩⟩

/-- Jobs, counters and lists are as before. -/
structure SameBooks (before after : JobRegistry) : Prop where
  jobs : after.jobs = before.jobs
  active : after.activeJobs = before.activeJobs
  total : after.totalJobs = before.totalJobs
  requesters : after.jobsByRequester = before.jobsByRequester
  provers : after.jobsByProver = before.jobsByProver

theorem Counted.same (counted : before.Counted) (same : SameBooks before after) :
    after.Counted where
  active := by rw [same.active, same.jobs, counted.active]
  total := by rw [same.total, same.jobs, counted.total]
  requesters := by rw [same.jobs, same.requesters]; exact counted.requesters
  provers := by rw [same.jobs, same.provers]; exact counted.provers

theorem Remembers.sameBooks (remembers : Remembers before after) : SameBooks before after := by
  obtain ⟨seen, rfl⟩ := remembers
  exact ⟨rfl, rfl, rfl, rfl, rfl⟩

theorem length_keys_of_found {jobs : Map JobId JobState} (found : jobs.lookup id = some job) :
    (jobs.insert id next).keys.length = jobs.keys.length := by
  have member : id ∈ jobs.keys := Map.mem_keys_iff.mpr ⟨job, found⟩
  rw [AList.keys_insert, length_cons, length_erase_of_mem member]
  exact Nat.sub_add_cancel (length_pos_of_mem member)

theorem length_keys_of_absent {jobs : Map JobId JobState} (absent : jobs.lookup id = none) :
    (jobs.insert id next).keys.length = jobs.keys.length + 1 := by
  have missing : id ∉ jobs.keys := by
    rw [Map.mem_keys_iff]
    rintro ⟨job, found⟩
    rw [absent] at found
    exact nomatch found
  rw [AList.keys_insert, length_cons, erase_of_not_mem missing]

section

variable (counted : registry.Counted) (found : registry.jobs.lookup id = some job)
  (counts : pending job = true)
include counted found counts

theorem Counted.change (stays : pending next = true) (requester : next.requester = job.requester)
    (prover : next.assignedProver = job.assignedProver) : (registry.putJob id next).Counted := by
  refine ⟨?_, ?_, ?_, ?_⟩
  · have count := Map.countP_insert registry.jobs id next pending
    rw [found, Map.tally_some, Map.tally_some, counts, stays] at count
    exact counted.active.trans (add_right_cancel count).symm
  · exact counted.total.trans (length_keys_of_found found).symm
  · refine counted.requesters.insert ?_
    rw [found]
    exact congrArg some requester
  · refine counted.provers.insert ?_
    rw [found]
    exact prover

theorem Counted.close (ends : pending next = false) (requester : next.requester = job.requester)
    (prover : next.assignedProver = job.assignedProver) :
    (registry.putJob id next).release.Counted := by
  refine ⟨?_, ?_, ?_, ?_⟩
  · have count := Map.countP_insert registry.jobs id next pending
    rw [found, Map.tally_some, Map.tally_some, counts, ends] at count
    have active := counted.active
    show registry.activeJobs - 1 = Map.countP (registry.jobs.insert id next) pending
    simp only [if_true, Bool.false_eq_true, if_false] at count
    omega
  · exact counted.total.trans (length_keys_of_found found).symm
  · refine counted.requesters.insert ?_
    rw [found]
    exact congrArg some requester
  · refine counted.provers.insert ?_
    rw [found]
    exact prover

end

theorem Counted.index (counted : registry.Counted) (fresh : registry.jobs.lookup id = none)
    (counts : pending job = true) (unassigned : job.assignedProver = none)
    (more : registry.totalJobs + 1 < 2 ^ 64) : (registry.index id job).Counted := by
  have count := Map.countP_insert registry.jobs id job pending
  rw [fresh, Map.tally_none, Map.tally_some, counts] at count
  have fewer : registry.jobs.countP pending ≤ registry.jobs.keys.length := countP_le_length
  have active := counted.active
  have total := counted.total
  refine ⟨?_, ?_, ?_, ?_⟩
  · show addU64 registry.activeJobs 1 = Map.countP (registry.jobs.insert id job) pending
    have raised : addU64 registry.activeJobs 1 = registry.activeJobs + 1 :=
      mod_eq_of_lt (by omega)
    rw [if_pos rfl] at count
    omega
  · show addU64 registry.totalJobs 1 = (registry.jobs.insert id job).keys.length
    rw [length_keys_of_absent fresh, ← total]
    exact mod_eq_of_lt more
  · refine counted.requesters.insert_owned ?_ rfl
    rw [fresh]
    rfl
  · refine counted.provers.insert ?_
    rw [fresh]
    exact unassigned

theorem Counted.assign (counted : registry.Counted) (found : registry.jobs.lookup id = some job)
    (counts : pending job = true) (stays : pending next = true)
    (requester : next.requester = job.requester) (unassigned : job.assignedProver = none)
    {prover : Address} (assigned : next.assignedProver = some prover) :
    ((registry.putJob id next).indexProver prover id).Counted := by
  have count := Map.countP_insert registry.jobs id next pending
  rw [found, Map.tally_some, Map.tally_some, counts, stays] at count
  refine ⟨counted.active.trans (add_right_cancel count).symm,
    counted.total.trans (length_keys_of_found found).symm, ?_, ?_⟩
  · refine counted.requesters.insert ?_
    rw [found]
    exact congrArg some requester
  · refine counted.provers.insert_owned ?_ assigned
    rw [found]
    exact unassigned

theorem pending_of_active (active : job.status.isActive = true) : pending job = true := by
  unfold pending
  revert active
  cases job.status <;> decide

theorem Counted.expire (counted : registry.Counted) (currentTime : Nat) (id : JobId) :
    (expire currentTime registry id).Counted := by
  obtain same | ⟨job, found, active, -, done⟩ := expire_cases currentTime registry id
  · rw [same]
    exact counted
  · rw [done]
    exact counted.close found (pending_of_active active) rfl rfl rfl

theorem Counted.foldl {ι : Type} {pass : JobRegistry → ι → JobRegistry}
    (each : ∀ registry : JobRegistry, registry.Counted → ∀ item, (pass registry item).Counted)
    (counted : registry.Counted) (items : List ι) : (items.foldl pass registry).Counted := by
  induction items generalizing registry with
  | nil => exact counted
  | cons item rest ih => exact ih (each registry counted item)

theorem Counted.processExpiredJobs (counted : registry.Counted) (currentTime : Nat) :
    (registry.processExpiredJobs currentTime).Counted := by
  refine Counted.foldl (fun registry counted deadline => ?_) counted _
  unfold expireDeadline
  split
  · refine Counted.foldl (fun _ counted => counted.expire currentTime) ?_ _
    exact counted.same ⟨rfl, rfl, rfl, rfl, rfl⟩
  · exact counted

/-- The jobs keep what their identifiers are made of, and the requesters their nonces. -/
structure Keeps (before after : JobRegistry) : Prop where
  jobs : ∀ id next, after.jobs.lookup id = some next → ∃ job, before.jobs.lookup id = some job ∧
    next.requester = job.requester ∧ next.modelHash = job.modelHash ∧
      next.inputHash = job.inputHash ∧ (next.status.Passed → job.status.Passed)
  nonces : after.jobNonces = before.jobNonces
  total : after.totalJobs = before.totalJobs

theorem Keeps.of_jobs (jobs : after.jobs = before.jobs)
    (nonces : after.jobNonces = before.jobNonces)
    (total : after.totalJobs = before.totalJobs) : Keeps before after where
  jobs _ next found := ⟨next, jobs ▸ found, rfl, rfl, rfl, fun passed => passed⟩
  nonces := nonces
  total := total

theorem Keeps.refl (registry : JobRegistry) : Keeps registry registry := .of_jobs rfl rfl rfl

theorem Keeps.trans {last : JobRegistry} (first : Keeps before after) (second : Keeps after last) :
    Keeps before last where
  jobs id next found := by
    obtain ⟨middle, present, requester, model, input, passed⟩ := second.jobs id next found
    obtain ⟨job, known, owner, hash, data, earlier⟩ := first.jobs id middle present
    exact ⟨job, known, requester.trans owner, model.trans hash, input.trans data,
      fun late => earlier (passed late)⟩
  nonces := second.nonces.trans first.nonces
  total := second.total.trans first.total

theorem Keeps.putJob (found : registry.jobs.lookup id = some job)
    (requester : next.requester = job.requester) (model : next.modelHash = job.modelHash)
    (input : next.inputHash = job.inputHash) (passed : ¬next.status.Passed) :
    Keeps registry (registry.putJob id next) where
  jobs other later present := by
    by_cases same : other = id
    · subst same
      obtain rfl := Option.some.inj ((AList.lookup_insert _).symm.trans present)
      exact ⟨job, found, requester, model, input, fun late => absurd late passed⟩
    · exact ⟨later, (AList.lookup_insert_ne same).symm.trans present, rfl, rfl, rfl,
        fun late => late⟩
  nonces := rfl
  total := rfl

theorem Keeps.foldl {ι : Type} {pass : JobRegistry → ι → JobRegistry}
    (each : ∀ registry item, Keeps registry (pass registry item)) (registry : JobRegistry)
    (items : List ι) : Keeps registry (items.foldl pass registry) := by
  induction items generalizing registry with
  | nil => exact .refl registry
  | cons item rest ih => exact (each registry item).trans (ih _)

theorem keeps_processExpiredJobs (registry : JobRegistry) (currentTime : Nat) :
    Keeps registry (registry.processExpiredJobs currentTime) := by
  refine Keeps.foldl (fun registry deadline => ?_) registry _
  unfold expireDeadline
  split
  · have erased : Keeps registry { registry with
        jobsByDeadline := registry.jobsByDeadline.erase deadline } := .of_jobs rfl rfl rfl
    refine erased.trans (Keeps.foldl (fun registry id => ?_) _ _)
    obtain same | ⟨job, found, -, -, done⟩ := expire_cases currentTime registry id
    · rw [same]
      exact .refl registry
    · rw [done]
      have written : Keeps registry (registry.putJob id { job with status := .Expired }) :=
        .putJob found rfl rfl rfl (by simp [Passed])
      exact written.trans (.of_jobs rfl rfl rfl)
  · exact .refl registry

theorem Orderly.keeps (orderly : Orderly platform hashed before) (keeps : Keeps before after) :
    Orderly platform hashed after where
  occurs id next found := by
    obtain ⟨job, present, -, -, -, passed⟩ := keeps.jobs id next found
    exact fun late => orderly.occurs id job present (passed late)
  numbered id next found := by
    obtain ⟨job, present, requester, model, input, -⟩ := keeps.jobs id next found
    rw [requester, model, input, nonce, keeps.nonces]
    exact orderly.numbered id job present
  nonces requester := by
    rw [nonce, keeps.nonces]
    exact orderly.nonces requester

end JobRegistry

namespace World

open JobRegistry

variable {platform : Platform} {hashed : List (List UInt8)} {world after : World} {id : JobId}
  {job : JobState}

/-- The prover's slash succeeds. -/
def Punished (offense : Economy.Offense) (prover : Address) (world : World) : Prop :=
  ((punish offense prover world).bind (·.1.toOption)).isSome

instance (offense : Economy.Offense) (prover : Address) (world : World) :
    Decidable (Punished offense prover world) := inferInstanceAs (Decidable (_ = true))

/-- A proof gets as far as the record of its job. -/
def Touches (platform : Platform) (params : SubmitProofParams) (ctx : BlockContext) (world : World)
    (job : JobState) : Prop :=
  if job.sla.isExpired ctx.timestamp then Punished .slaViolation params.prover world
  else allowProof world.registry.config params.proof job = .ok () ∧
    match verifyProof platform params.proof job world.registry with
    | (.ok true, _) => True
    | (.ok false, registry) => Punished .invalidProof params.prover { world with registry }
    | (.error _, _) => False

instance (params : SubmitProofParams) (ctx : BlockContext) :
    Decidable (Touches platform params ctx world job) := by
  unfold Touches
  split
  · infer_instance
  · have (checked : Except SystemContractError Bool × JobRegistry) : Decidable (match checked with
        | (.ok true, _) => True
        | (.ok false, registry) => Punished .invalidProof params.prover { world with registry }
        | (.error _, _) => False) := by
      obtain ⟨_ | _ | _, _⟩ := checked <;> dsimp only <;> infer_instance
    infer_instance

/-- A submission's preimage is one of those hashed and neither its nonce nor its number is the last;
no proof gets as far as the record of a job that has come to its end. -/
def Fresh (platform : Platform) (hashed : List (List UInt8)) (world : World) : JobCall → Prop
  | .submitJob params _ => world.registry.nextPreimage params ∈ hashed ∧
      world.registry.nonce params.requester + 1 < 2 ^ 64 ∧ world.registry.totalJobs + 1 < 2 ^ 64
  | .submitProof params ctx => ∀ job ∈ world.registry.jobs.lookup params.jobId,
      job.assignedProver = some params.prover → job.status.isTerminal = true →
        ¬Touches platform params ctx world job
  | _ => True

instance : DecidablePred (Fresh platform hashed world)
  | .submitJob params _ => inferInstanceAs (Decidable (world.registry.nextPreimage params ∈ hashed ∧
      world.registry.nonce params.requester + 1 < 2 ^ 64 ∧ world.registry.totalJobs + 1 < 2 ^ 64))
  | .submitProof params ctx => inferInstanceAs (Decidable (∀ job ∈
      world.registry.jobs.lookup params.jobId, job.assignedProver = some params.prover →
        job.status.isTerminal = true → ¬Touches platform params ctx world job))
  | .assignJob .. | .cancelJob .. | .processExpiredJobs .. | .surround .. => .isTrue trivial

section Steps

theorem reject_of_not_punished {offense : Economy.Offense} {prover : Address} (id : JobId)
    (job : JobState) (reason : SystemContractError) (spared : ¬Punished offense prover world) :
    reject offense prover id job reason world = none ∨
      ∃ other after, reject offense prover id job reason world = some (.error other, after) ∧
        after.registry = world.registry := by
  unfold Punished at spared
  unfold reject
  obtain stuck | ⟨outcome, after, done, registry, -, -⟩ := punish_cases offense prover world
  · rw [stuck]
    exact .inl rfl
  · rw [done] at spared ⊢
    cases outcome with
    | error other => exact .inr ⟨other, after, rfl, registry⟩
    | ok taken => exact absurd rfl spared

variable {params : SubmitProofParams}

variable {ctx : BlockContext}

/-- A proof stopped by the checks leaves the books. -/
theorem remembers_of_not_touches (found : world.registry.jobs.lookup params.jobId = some job)
    (assigned : job.assignedProver = some params.prover)
    (idle : ¬Touches platform params ctx world job) :
    Remembers world.registry (step platform world (.submitProof params ctx)).registry := by
  rw [step_submitProof_eq]
  unfold submitProof
  rw [found]
  dsimp only
  rw [if_neg (not_not.mpr assigned)]
  unfold Touches at idle
  split
  next expired =>
    rw [if_pos expired] at idle
    obtain stuck | ⟨other, last, done, same⟩ := reject_of_not_punished params.jobId
      { job with status := .Expired }
      (.SlaViolation params.jobId job.sla.deadline ctx.timestamp) idle
    · rw [stuck]
      exact .refl _
    · rw [done]
      show Remembers world.registry last.registry
      rw [same]
      exact .refl _
  next inTime =>
    rw [if_neg inTime] at idle
    split
    · exact .refl _
    next allowed =>
      have remembers := moves_verifyProof platform params.proof job world.registry
      cases checked : verifyProof platform params.proof job world.registry with
      | mk outcome registry =>
        rw [checked] at idle remembers
        rw [onRegistry_of checked]
        cases outcome with
        | error reason => exact remembers
        | ok verified =>
          cases verified with
          | true => exact absurd ⟨allowed, trivial⟩ idle
          | false =>
            have spared : ¬Punished .invalidProof params.prover { world with registry } :=
              fun punished => idle ⟨allowed, punished⟩
            obtain stuck | ⟨other, last, done, same⟩ := reject_of_not_punished
              params.jobId { job with status := .Failed }
              (.InvalidProof "Verification failed") spared
            · dsimp only
              rw [stuck]
              exact .refl _
            · dsimp only
              rw [done]
              show Remembers world.registry last.registry
              rw [same]
              exact remembers

theorem keeps_of_remembers {before after : JobRegistry} (remembers : Remembers before after) :
    Keeps before after := by
  obtain ⟨seen, rfl⟩ := remembers
  exact .of_jobs rfl rfl rfl

/-- The two changes that a step makes to the registry. -/
structure Kept (before after : JobRegistry) : Prop where
  counted : before.Counted → after.Counted
  keeps : Keeps before after

theorem Kept.trans {before middle last : JobRegistry} (first : Kept before middle)
    (second : Kept middle last) : Kept before last :=
  ⟨fun counted => second.counted (first.counted counted), first.keeps.trans second.keeps⟩

theorem kept_of_remembers {before after : JobRegistry} (remembers : Remembers before after) :
    Kept before after :=
  ⟨fun counted => counted.same remembers.sameBooks, keeps_of_remembers remembers⟩

theorem kept_close {registry : JobRegistry} {next : JobState}
    (found : registry.jobs.lookup id = some job) (counts : pending job = true)
    (ends : pending next = false) (requester : next.requester = job.requester)
    (prover : next.assignedProver = job.assignedProver) (model : next.modelHash = job.modelHash)
    (input : next.inputHash = job.inputHash) (passed : ¬next.status.Passed) :
    Kept registry (registry.putJob id next).release :=
  ⟨fun counted => counted.close found counts ends requester prover,
    (Keeps.putJob found requester model input passed).trans (.of_jobs rfl rfl rfl)⟩

/-- A proof of a pending job keeps the counts. -/
theorem kept_submitProof_of_pending
    (live : ∀ job, world.registry.jobs.lookup params.jobId = some job →
      job.assignedProver = some params.prover → pending job = true) :
    Kept world.registry (step platform world (.submitProof params ctx)).registry := by
  rw [step_submitProof_eq]
  obtain stuck | ⟨reason, last, turned, remembers, -⟩ |
    ⟨job, status, registry, reason, last, closed, -, found, assigned, ends, remembers, written⟩ |
    ⟨job, registry, accepts, settled⟩ := submitProof_cases platform params ctx world
  · rw [stuck]
    exact kept_of_remembers (.refl _)
  · rw [turned]
    exact kept_of_remembers remembers
  · rw [closed]
    show Kept world.registry last.registry
    have present : registry.jobs.lookup params.jobId = some job := remembers.jobs ▸ found
    rw [written]
    refine (kept_of_remembers remembers).trans
      (kept_close present (live job found assigned) ?_ rfl rfl rfl rfl ?_)
    · obtain rfl | rfl := ends <;> rfl
    · obtain rfl | rfl := ends <;> simp [Passed]
  · rw [settled]
    show Kept world.registry (settle params ctx job { world with registry }).2.registry
    have counts := live job accepts.found accepts.assigned
    have present : registry.jobs.lookup params.jobId = some job :=
      accepts.remembers.jobs ▸ accepts.found
    have verified : Kept world.registry
        (registry.putJob params.jobId (verifiedJob params ctx job)) :=
      (kept_of_remembers accepts.remembers).trans
        ⟨fun counted => counted.change present counts rfl rfl rfl,
          .putJob present rfl rfl rfl (by simp [verifiedJob, Passed])⟩
    obtain ⟨reason, after, done, bank, -⟩ | ⟨result, fee, charged, paid, done, bank, -⟩ :=
      settle_cases params ctx job { world with registry }
    · rw [done, bank.registry]
      exact verified
    · rw [done]
      show Kept world.registry (settledRegistry params ctx job paid.registry)
      rw [bank.registry]
      exact verified.trans (kept_close (AList.lookup_insert _) rfl rfl rfl rfl rfl rfl
        (by simp [Passed]))

theorem kept_submitProof (fresh : world.Fresh platform hashed (.submitProof params ctx)) :
    Kept world.registry (step platform world (.submitProof params ctx)).registry := by
  by_cases ended : ∃ job, world.registry.jobs.lookup params.jobId = some job ∧
      job.assignedProver = some params.prover ∧ job.status.isTerminal = true
  · obtain ⟨job, found, assigned, terminal⟩ := ended
    exact kept_of_remembers
      (remembers_of_not_touches found assigned (fresh job found assigned terminal))
  · refine kept_submitProof_of_pending fun job found assigned => ?_
    unfold pending
    rw [Bool.not_eq_true']
    exact Bool.eq_false_of_not_eq_true fun terminal => ended ⟨job, found, assigned, terminal⟩

theorem kept_assignJob (id : JobId) (prover : Address) (ctx : BlockContext)
    (registry : JobRegistry) : Kept registry (assignJob id prover ctx registry).2 := by
  obtain ⟨reason, failed⟩ | ⟨job, found, edge, unassigned, done⟩ :=
    assignJob_cases id prover ctx registry
  · rw [failed]
    exact kept_of_remembers (.refl registry)
  · rw [done]
    have counts : pending job = true := by
      unfold pending
      revert edge
      cases job.status <;> decide
    generalize given : { job with
      assignedProver := some prover
      assignedAt := some ctx.timestamp
      status := .Assigned } = next
    have stays : pending next = true := given ▸ rfl
    have assigned : next.assignedProver = some prover := given ▸ rfl
    have written : Keeps registry (registry.putJob id next) :=
      .putJob found (given ▸ rfl) (given ▸ rfl) (given ▸ rfl) (by simp [← given, Passed])
    exact ⟨fun counted => counted.assign found counts stays (given ▸ rfl) unassigned assigned,
      written.trans (.of_jobs rfl rfl rfl)⟩

theorem kept_cancelJob (id : JobId) (requester : Address) (world : World) :
    Kept world.registry (cancelJob id requester world).2.registry := by
  obtain ⟨reason, bank, failed, -⟩ | ⟨result, job, freed, bank, found, -, allowed, -, -, done⟩ :=
    cancelJob_cases id requester world
  · rw [failed]
    exact kept_of_remembers (.refl _)
  · rw [done]
    have counts : pending job = true := by
      unfold pending
      revert allowed
      cases job.status <;> decide
    exact kept_close found counts rfl rfl rfl rfl rfl (by simp [Passed])

end Steps

def filing : Option (Except SystemContractError JobSubmitResult × World) → Nat
  | some (.ok _, _) => 1
  | _ => 0

def filedBy (platform : Platform) (world : World) : JobCall → Nat
  | .submitJob params ctx => filing (submitJob platform params ctx world)
  | _ => 0

/-- Every fresh call keeps the counts. -/
theorem step_counted {call : JobCall}
    (collisionless : ∀ p ∈ hashed, ∀ q ∈ hashed, platform.sha256 p = platform.sha256 q → p = q)
    (orderly : Orderly platform hashed world.registry) (counted : world.registry.Counted)
    (fresh : world.Fresh platform hashed call) :
    Orderly platform hashed (step platform world call).registry ∧
      (step platform world call).registry.Counted ∧
      (step platform world call).registry.totalJobs =
        world.registry.totalJobs + filedBy platform world call := by
  have of_kept : Kept world.registry (step platform world call).registry →
      filedBy platform world call = 0 →
      Orderly platform hashed (step platform world call).registry ∧
        (step platform world call).registry.Counted ∧
        (step platform world call).registry.totalJobs =
          world.registry.totalJobs + filedBy platform world call := by
    intro kept none
    rw [none]
    exact ⟨orderly.keeps kept.keeps, kept.counted counted, kept.keeps.total⟩
  cases call with
  | submitJob params ctx =>
    obtain ⟨covered, more, room⟩ := fresh
    have bump := orderly.bump more
    have bumped : (world.registry.bumped params.requester).Counted :=
      counted.same ⟨rfl, rfl, rfl, rfl, rfl⟩
    rw [step_submitJob_eq, filedBy]
    obtain stuck | ⟨reason, failed⟩ | ⟨reason, bank, -, failed⟩ |
      ⟨result, bank, job, -, made, done⟩ := submitJob_cases platform params ctx world
    · rw [stuck]
      exact ⟨orderly, counted, rfl⟩
    · rw [failed]
      exact ⟨orderly, counted, rfl⟩
    · rw [failed]
      exact ⟨bump, bumped, rfl⟩
    · rw [done]
      obtain ⟨requester, modelHash, inputHash, -, status, unassigned⟩ := new_eq_some made
      have absent : (world.registry.bumped params.requester).jobs.lookup
          (platform.sha256 (world.registry.nextPreimage params)) = none :=
        orderly.fresh collisionless covered
      have raised : addU64 (world.registry.nonce params.requester) 1 =
          world.registry.nonce params.requester + 1 := mod_eq_of_lt more
      have used : world.registry.nonce params.requester <
          (world.registry.bumped params.requester).nonce job.requester := by
        rw [requester, nonce_bumped, if_pos rfl]
        omega
      refine ⟨bump.index ?_ used ?_ ?_, bumped.index absent ?_ unassigned room,
        mod_eq_of_lt room⟩
      · rw [status]
        simp [Passed]
      · rw [requester, modelHash, inputHash]
        rfl
      · rw [requester, modelHash, inputHash]
        exact covered
      · unfold pending
        rw [status]
        rfl
  | assignJob id prover ctx => exact of_kept (kept_assignJob id prover ctx world.registry) rfl
  | submitProof params ctx => exact of_kept (kept_submitProof fresh) rfl
  | cancelJob id requester => exact of_kept (kept_cancelJob id requester world) rfl
  | processExpiredJobs currentTime =>
    exact of_kept ⟨fun counted => counted.processExpiredJobs currentTime,
      keeps_processExpiredJobs world.registry currentTime⟩ rfl
  | surround staking stakingBank bank => exact of_kept (kept_of_remembers (.refl _)) rfl

theorem exec_counted {calls : List JobCall}
    (collisionless : ∀ p ∈ hashed, ∀ q ∈ hashed, platform.sha256 p = platform.sha256 q → p = q)
    (orderly : Orderly platform hashed world.registry) (counted : world.registry.Counted)
    (fresh : Run.Along (step platform) (Fresh platform hashed) world calls) :
    (Run.exec (step platform) world calls).registry.Counted ∧
      (Run.exec (step platform) world calls).registry.totalJobs =
        world.registry.totalJobs + Run.total (step platform) (filedBy platform) world calls := by
  induction calls generalizing world with
  | nil => exact ⟨counted, rfl⟩
  | cons call rest ih =>
    obtain ⟨ordered, books, more⟩ := step_counted collisionless orderly counted fresh.1
    obtain ⟨last, sum⟩ := ih ordered books fresh.2
    refine ⟨last, sum.trans ?_⟩
    rw [more, Run.total, add_assoc]

/-- In every run in which no proof gets as far as a job that has come to its end, the registry's
counters and lists are those of its jobs. -/
theorem run_counted (platform : Platform) (config : JobConfig) (staking : StakingManager)
    (stakingBank : Option Bank) (bank : Bank) (hashed : List (List UInt8)) (calls : List JobCall)
    (collisionless : ∀ p ∈ hashed, ∀ q ∈ hashed, platform.sha256 p = platform.sha256 q → p = q)
    (fresh : Run.Along (step platform) (Fresh platform hashed)
      ⟨.new config, staking, stakingBank, bank⟩ calls) :
    (Run.exec (step platform) ⟨.new config, staking, stakingBank, bank⟩ calls).registry.Counted ∧
      (Run.exec (step platform) ⟨.new config, staking, stakingBank, bank⟩
        calls).registry.totalJobs = Run.total (step platform) (filedBy platform)
          ⟨.new config, staking, stakingBank, bank⟩ calls := by
  have counted := exec_counted collisionless (orderly_new config) (counted_new config) fresh
  obtain ⟨counted, sum⟩ := counted
  exact ⟨counted, sum.trans (zero_add _)⟩

theorem run_counted_local :
    Run.Along (step localPlatform) (Fresh localPlatform [jobPreimage 1 5 6 0,
      jobPreimage 1 5 6 1]) localWorld settledOnce ∧
    (Run.exec (step localPlatform) localWorld settledOnce).registry.Counted ∧
      (Run.exec (step localPlatform) localWorld settledOnce).registry.totalJobs =
        Run.total (step localPlatform) (filedBy localPlatform) localWorld settledOnce := by
  have fresh : Run.Along (step localPlatform) (Fresh localPlatform [jobPreimage 1 5 6 0,
      jobPreimage 1 5 6 1]) localWorld settledOnce := by decide +kernel
  exact ⟨fresh, run_counted localPlatform .devnet (.new .devnet) none Economy.fundedBank _ _
    (by decide +kernel) fresh⟩

/-- One job is active and none is counted. -/
theorem settledTwice_not_counted :
    ¬(Run.exec (step localPlatform) localWorld settledTwice).registry.Counted := by
  intro counted
  exact absurd counted.active (by decide +kernel)

end World

end Vm
