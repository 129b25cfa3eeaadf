import Aethelred.Vm.JobRegistry

/- Where the calls of the registry can take the status of a job. -/
namespace Vm

open Go Attempt List

namespace JobStatus

/-- One step of the life cycle. -/
def Edge (before after : JobStatus) : Prop := before.canTransitionTo after = true

abbrev Reaches : JobStatus → JobStatus → Prop := Relation.ReflTransGen Edge

theorem Edge.reaches {before after : JobStatus} (edge : Edge before after) : Reaches before after :=
  .single edge

theorem submitted_reaches_assigned : Reaches .Submitted .Assigned := Edge.reaches rfl

theorem submitted_reaches_cancelled : Reaches .Submitted .Cancelled := Edge.reaches rfl

theorem assigned_reaches_cancelled : Reaches .Assigned .Cancelled := Edge.reaches rfl

theorem assigned_reaches_expired : Reaches .Assigned .Expired := Edge.reaches rfl

theorem assigned_reaches_verifying : Reaches .Assigned .Verifying :=
  (Edge.reaches rfl : Reaches .Assigned .Proving).tail rfl

theorem assigned_reaches_failed : Reaches .Assigned .Failed := assigned_reaches_verifying.tail rfl

theorem assigned_reaches_verified : Reaches .Assigned .Verified :=
  assigned_reaches_verifying.tail rfl

theorem verified_reaches_settled : Reaches .Verified .Settled := Edge.reaches rfl

theorem not_edge_of_terminal : ∀ before after : JobStatus, before.isTerminal = true →
    before.canTransitionTo after = false := by
  intro before after terminal
  cases before <;> cases after <;> first | rfl | cases terminal

theorem Reaches.of_terminal {before after : JobStatus} (reaches : Reaches before after)
    (terminal : before.isTerminal = true) : after = before := by
  induction reaches with
  | refl => rfl
  | @tail middle last _ edge same =>
    subst same
    have closed := not_edge_of_terminal middle last terminal
    rw [Edge, closed] at edge
    cases edge

/-- The two statuses the calls never write: they go past them. -/
def Passed (status : JobStatus) : Prop := status = .Proving ∨ status = .Verifying

variable {status : JobStatus}

section

variable (active : status.isActive = true) (occurs : ¬status.Passed)
include active occurs

theorem active_cases : status = .Submitted ∨ status = .Assigned := by
  cases status <;> simp_all [isActive, Passed]

theorem reaches_of_active
    {after : JobStatus} (reaches : Reaches .Assigned after) : Reaches status after := by
  obtain rfl | rfl := active_cases active occurs
  · exact submitted_reaches_assigned.trans reaches
  · exact reaches

end

theorem reaches_cancelled (allowed : status.canCancel = true) : Reaches status .Cancelled := by
  cases status <;> first
    | exact submitted_reaches_cancelled
    | exact assigned_reaches_cancelled
    | cases allowed

end JobStatus

open JobStatus

/-- The same job, further on in its life cycle. -/
structure JobState.Next (job next : JobState) : Prop where
  requester : next.requester = job.requester
  bidAmount : next.bidAmount = job.bidAmount
  modelHash : next.modelHash = job.modelHash
  inputHash : next.inputHash = job.inputHash
  reaches : Reaches job.status next.status
  occurs : ¬job.status.Passed → ¬next.status.Passed

theorem JobState.Next.refl (job : JobState) : Next job job := ⟨rfl, rfl, rfl, rfl, .refl, id⟩

theorem JobState.Next.trans {job next last : JobState} (first : Next job next)
    (second : Next next last) : Next job last :=
  ⟨second.requester.trans first.requester, second.bidAmount.trans first.bidAmount,
    second.modelHash.trans first.modelHash, second.inputHash.trans first.inputHash,
    first.reaches.trans second.reaches, fun occurs => second.occurs (first.occurs occurs)⟩

namespace JobRegistry

variable {platform : Platform} {registry before after last : JobRegistry} {id : JobId}
  {job next : JobState} {hashed : List (List UInt8)}

/-- The same jobs, each in a later state. -/
structure Follows (before after : JobRegistry) : Prop where
  kept : ∀ id job, before.jobs.lookup id = some job →
    ∃ next, after.jobs.lookup id = some next ∧ job.Next next
  known : ∀ id next, after.jobs.lookup id = some next →
    ∃ job, before.jobs.lookup id = some job ∧ job.Next next
  nonces : after.jobNonces = before.jobNonces

theorem Follows.refl (registry : JobRegistry) : Follows registry registry where
  kept _ job found := ⟨job, found, .refl job⟩
  known _ job found := ⟨job, found, .refl job⟩
  nonces := rfl

theorem Follows.trans (first : Follows before after) (second : Follows after last) :
    Follows before last where
  kept id job found := by
    obtain ⟨next, present, later⟩ := first.kept id job found
    obtain ⟨final, present, latest⟩ := second.kept id next present
    exact ⟨final, present, later.trans latest⟩
  known id final found := by
    obtain ⟨next, present, latest⟩ := second.known id final found
    obtain ⟨job, present, later⟩ := first.known id next present
    exact ⟨job, present, later.trans latest⟩
  nonces := second.nonces.trans first.nonces

theorem Follows.of_jobs (jobs : after.jobs = before.jobs)
    (nonces : after.jobNonces = before.jobNonces) : Follows before after where
  kept _ job found := ⟨job, jobs ▸ found, .refl job⟩
  known _ job found := ⟨job, jobs ▸ found, .refl job⟩
  nonces := nonces

theorem Follows.putJob (found : registry.jobs.lookup id = some job) (later : job.Next next) :
    Follows registry (registry.putJob id next) where
  kept other old present := by
    change ∃ new, (registry.jobs.insert id next).lookup other = some new ∧ _
    rw [Map.lookup_insert_eq]
    split
    · rename_i same
      rw [same, found] at present
      cases present
      exact ⟨next, rfl, later⟩
    · exact ⟨old, present, .refl old⟩
  known := Map.forall_insert ⟨job, found, later⟩ fun _ new present => ⟨new, present, .refl new⟩
  nonces := rfl

theorem Follows.release (follows : Follows before after) : Follows before after.release :=
  ⟨follows.kept, follows.known, follows.nonces⟩

/-- The jobs have the statuses the calls write, and identifiers of their requester's nonces. -/
structure Orderly (platform : Platform) (hashed : List (List UInt8)) (registry : JobRegistry) :
    Prop where
  occurs : ∀ id job, registry.jobs.lookup id = some job → ¬job.status.Passed
  numbered : ∀ id job, registry.jobs.lookup id = some job → ∃ nonce < registry.nonce job.requester,
    id = generateJobId platform job.requester job.modelHash job.inputHash nonce ∧
      jobPreimage job.requester job.modelHash job.inputHash nonce ∈ hashed
  nonces : ∀ requester, registry.nonce requester < 2 ^ 64

theorem orderly_new (config : JobConfig) : Orderly platform hashed (.new config) where
  occurs _ _ found := by cases found
  numbered _ _ found := by cases found
  nonces _ := Nat.two_pow_pos 64

theorem Follows.nonce_eq (follows : Follows before after) (requester : Address) :
    after.nonce requester = before.nonce requester := by
  unfold nonce
  rw [follows.nonces]

theorem Orderly.follows (orderly : Orderly platform hashed before)
    (follows : Follows before after) : Orderly platform hashed after where
  occurs id next found := by
    obtain ⟨job, present, later⟩ := follows.known id next found
    exact later.occurs (orderly.occurs id job present)
  numbered id next found := by
    obtain ⟨job, present, later⟩ := follows.known id next found
    rw [follows.nonce_eq, later.requester, later.modelHash, later.inputHash]
    exact orderly.numbered id job present
  nonces requester := by
    rw [follows.nonce_eq]
    exact orderly.nonces requester

end JobRegistry

/- What each call of the registry does to the jobs. -/

namespace JobRegistry

variable {platform : Platform} {registry before after : JobRegistry} {id : JobId}
  {job : JobState} {hashed : List (List UInt8)}

/-- Only the attestations seen so far differ. -/
def Remembers (before after : JobRegistry) : Prop :=
  ∃ seen, after = { before with seenAttestationHashes := seen }

theorem Remembers.refl (registry : JobRegistry) : Remembers registry registry := ⟨_, rfl⟩

theorem Remembers.trans {last : JobRegistry} (first : Remembers before after)
    (second : Remembers after last) : Remembers before last := by
  obtain ⟨seen, rfl⟩ := first
  obtain ⟨more, rfl⟩ := second
  exact ⟨more, rfl⟩

theorem Remembers.jobs (remembers : Remembers before after) : after.jobs = before.jobs := by
  obtain ⟨seen, rfl⟩ := remembers
  rfl

theorem Remembers.follows (remembers : Remembers before after) : Follows before after := by
  obtain ⟨seen, rfl⟩ := remembers
  exact .of_jobs rfl rfl

/-- An attestation is refused, or new and now seen. -/
theorem verifyTeeAttestation_cases (platform : Platform) (attestation : TeeAttestation)
    (job : JobState) (registry : JobRegistry) :
    (∃ reason, verifyTeeAttestation platform attestation job registry =
      (.error reason, registry)) ∨
    platform.sha256 attestation.attestation ∉ registry.seenAttestationHashes ∧
      verifyTeeAttestation platform attestation job registry = (.ok true, { registry with
        seenAttestationHashes :=
          platform.sha256 attestation.attestation :: registry.seenAttestationHashes }) := by
  unfold verifyTeeAttestation
  simp only [read_bind, ensure_bind]
  by_cases fresh : platform.sha256 attestation.attestation ∉ registry.seenAttestationHashes
  · cases objection : teeObjection platform registry (platform.teePrecompile
        registry.enterpriseMode (attestation.teeType.platformByte :: attestation.attestation)) with
    | some reason =>
      left
      repeat' split
      all_goals exact ⟨_, rfl⟩
    | none =>
      repeat' split
      all_goals first | exact .inl ⟨_, rfl⟩ | exact .inr ⟨fresh, rfl⟩
  · left
    rw [if_neg fresh]
    repeat' split
    all_goals exact ⟨_, rfl⟩

theorem moves_verifyTeeAttestation (attestation : TeeAttestation) (job : JobState) :
    Moves Remembers (verifyTeeAttestation platform attestation job) := by
  intro registry
  obtain ⟨reason, refused⟩ | ⟨-, passed⟩ :=
    verifyTeeAttestation_cases platform attestation job registry
  · rw [refused]
    exact .refl _
  · rw [passed]
    exact ⟨_, rfl⟩

theorem moves_consult {α : Type} (check : JobRegistry → Except SystemContractError α) :
    Moves Remembers (consult check) := .refl

theorem moves_verifyProof (platform : Platform) (proof : Proof) (job : JobState) :
    Moves Remembers (verifyProof platform proof job) := by
  unfold verifyProof
  split
  · refine .bind .trans (moves_okOr .refl _ _) fun attestation => ?_
    exact moves_verifyTeeAttestation attestation job
  · refine .bind .trans (moves_okOr .refl _ _) fun zkProof => ?_
    exact moves_consult _
  · refine .bind .trans (moves_okOr .refl _ _) fun attestation => ?_
    refine .bind .trans (moves_okOr .refl _ _) fun zkProof => ?_
    refine .bind .trans (moves_verifyTeeAttestation attestation job) fun teeValid => ?_
    refine .bind .trans (moves_consult _) fun zkValid => ?_
    exact moves_pure .refl _
  · exact moves_pure .refl _

theorem assignJob_cases (id : JobId) (prover : Address) (ctx : BlockContext)
    (registry : JobRegistry) :
    (∃ reason, assignJob id prover ctx registry = (.error reason, registry)) ∨
    ∃ job, registry.jobs.lookup id = some job ∧ job.status.canTransitionTo .Assigned = true ∧
      job.assignedProver = none ∧
      assignJob id prover ctx registry = (.ok (), (registry.putJob id { job with
        assignedProver := some prover
        assignedAt := some ctx.timestamp
        status := .Assigned }).indexProver prover id) := by
  simp only [assignJob, read_bind, okOr_bind]
  cases found : registry.jobs.lookup id with
  | none => exact .inl ⟨_, rfl⟩
  | some job =>
    simp only [ensure_bind]
    split
    · rename_i allowed
      split
      · rename_i unassigned
        split
        · exact .inr ⟨job, rfl, allowed, unassigned, rfl⟩
        · exact .inl ⟨_, rfl⟩
      · exact .inl ⟨_, rfl⟩
    · exact .inl ⟨_, rfl⟩

theorem follows_assignJob (id : JobId) (prover : Address) (ctx : BlockContext)
    (registry : JobRegistry) : Follows registry (assignJob id prover ctx registry).2 := by
  obtain ⟨reason, failed⟩ | ⟨job, found, edge, -, done⟩ := assignJob_cases id prover ctx registry
  · rw [failed]
    exact .refl registry
  · rw [done]
    have next : job.Next { job with
        assignedProver := some prover
        assignedAt := some ctx.timestamp
        status := .Assigned } :=
      ⟨rfl, rfl, rfl, rfl, Edge.reaches edge, fun _ => by simp [Passed]⟩
    exact (Follows.putJob found next).trans (.of_jobs rfl rfl)

def listed (registry : JobRegistry) (currentTime : Nat) : List JobId :=
  (registry.expiredDeadlines currentTime).flatMap fun deadline =>
    registry.jobsByDeadline.get deadline []

theorem expire_of (found : registry.jobs.lookup id = some job) {currentTime : Nat}
    (active : job.status.isActive = true) (expired : job.sla.isExpired currentTime = true) :
    expire currentTime registry id =
      (registry.putJob id { job with status := .Expired }).release := by
  unfold expire
  rw [found]
  exact if_pos ⟨active, expired⟩

theorem expire_cases (currentTime : Nat) (registry : JobRegistry) (id : JobId) :
    expire currentTime registry id = registry ∨
    ∃ job, registry.jobs.lookup id = some job ∧ job.status.isActive = true ∧
      job.sla.isExpired currentTime = true ∧
      expire currentTime registry id =
        (registry.putJob id { job with status := .Expired }).release := by
  cases found : registry.jobs.lookup id with
  | none =>
    refine .inl ?_
    unfold expire
    rw [found]
  | some job =>
    by_cases due : job.status.isActive = true ∧ job.sla.isExpired currentTime = true
    · exact .inr ⟨job, rfl, due.1, due.2, expire_of found due.1 due.2⟩
    · refine .inl ?_
      unfold expire
      rw [found]
      exact if_neg due

theorem follows_expire {currentTime : Nat}
    (occurs : ∀ id job, registry.jobs.lookup id = some job → ¬job.status.Passed) (id : JobId) :
    Follows registry (expire currentTime registry id) := by
  obtain same | ⟨job, found, active, _, done⟩ := expire_cases currentTime registry id
  · rw [same]
    exact .refl registry
  · rw [done]
    refine Follows.release (.putJob found ⟨rfl, rfl, rfl, rfl, ?_, fun _ => by simp [Passed]⟩)
    exact reaches_of_active active (occurs id job found) assigned_reaches_expired

theorem follows_foldl {ι : Type} {pass : JobRegistry → ι → JobRegistry} (each : ∀ registry item,
      (∀ id job, registry.jobs.lookup id = some job → ¬job.status.Passed) →
        Follows registry (pass registry item)) (items : List ι)
    (occurs : ∀ id job, registry.jobs.lookup id = some job → ¬job.status.Passed) :
    Follows registry (items.foldl pass registry) := by
  induction items generalizing registry with
  | nil => exact .refl registry
  | cons item rest ih =>
    have first := each registry item occurs
    refine first.trans (ih fun id next found => ?_)
    obtain ⟨job, present, later⟩ := first.known id next found
    exact later.occurs (occurs id job present)

theorem follows_processExpiredJobs (currentTime : Nat)
    (occurs : ∀ id job, registry.jobs.lookup id = some job → ¬job.status.Passed) :
    Follows registry (registry.processExpiredJobs currentTime) := by
  refine follows_foldl (fun registry deadline occurs => ?_) _ occurs
  unfold expireDeadline
  split
  · rename_i ids present
    have erased : Follows registry { registry with
        jobsByDeadline := registry.jobsByDeadline.erase deadline } := .of_jobs rfl rfl
    exact erased.trans (follows_foldl (fun _ id occurs => follows_expire occurs id) ids occurs)
  · exact .refl registry

def bumped (registry : JobRegistry) (requester : Address) : JobRegistry :=
  { registry with
    jobNonces := registry.jobNonces.insert requester (addU64 (registry.nonce requester) 1) }

theorem nonce_bumped {requester other : Address} :
    (registry.bumped requester).nonce other =
      if other = requester then addU64 (registry.nonce requester) 1 else registry.nonce other :=
  Map.get_insert_eq _ _ _ _ _

def nextPreimage (registry : JobRegistry) (params : SubmitJobParams) : List UInt8 :=
  jobPreimage params.requester params.modelHash params.inputHash
    (registry.nonce params.requester)

theorem address_lt (address : Address) : address.val < 256 ^ 32 := address.isLt

theorem jobPreimage_inj {requester other : Address} {modelHash inputHash model input : Hash}
    {nonce number : Nat} (first : nonce < 2 ^ 64) (second : number < 2 ^ 64)
    (same : jobPreimage requester modelHash inputHash nonce =
      jobPreimage other model input number) : requester = other ∧ nonce = number := by
  unfold jobPreimage at same
  rw [append_assoc, append_assoc, append_assoc, append_assoc,
    append_assoc, append_assoc] at same
  have fields := append_cancel_left same
  obtain ⟨account, fields⟩ := append_inj fields (by simp)
  obtain ⟨_, fields⟩ := append_inj fields (by simp)
  obtain ⟨_, last⟩ := append_inj fields (by simp)
  refine ⟨Fin.ext ?_, Bytes.littleEndian_inj first second last⟩
  exact Bytes.bigEndian_inj (address_lt requester) (address_lt other) account

section

variable (orderly : Orderly platform hashed registry)
include orderly

theorem Orderly.fresh
    (collisionless : ∀ p ∈ hashed, ∀ q ∈ hashed, platform.sha256 p = platform.sha256 q → p = q)
    {params : SubmitJobParams} (covered : registry.nextPreimage params ∈ hashed) :
    registry.jobs.lookup (platform.sha256 (registry.nextPreimage params)) = none := by
  cases found : registry.jobs.lookup (platform.sha256 (registry.nextPreimage params)) with
  | none => rfl
  | some job =>
    obtain ⟨nonce, used, named, member⟩ := orderly.numbered _ job found
    have same := collisionless _ covered _ member named
    have bound := orderly.nonces job.requester
    obtain ⟨requester, number⟩ := jobPreimage_inj (orderly.nonces params.requester)
      (Nat.lt_trans used bound) same
    rw [← requester] at used
    omega

theorem Orderly.bump {requester : Address} (more : registry.nonce requester + 1 < 2 ^ 64) :
    Orderly platform hashed (registry.bumped requester) := by
  have raised : addU64 (registry.nonce requester) 1 = registry.nonce requester + 1 :=
    Nat.mod_eq_of_lt more
  refine ⟨orderly.occurs, fun id job found => ?_, fun other => ?_⟩
  · obtain ⟨nonce, used, named⟩ := orderly.numbered id job found
    refine ⟨nonce, ?_, named⟩
    rw [nonce_bumped]
    split
    · rename_i same
      rw [same] at used
      omega
    · exact used
  · rw [nonce_bumped]
    split
    · omega
    · exact orderly.nonces other

theorem Orderly.index {nonce : Nat}
    (occurs : ¬job.status.Passed) (used : nonce < registry.nonce job.requester)
    (named : id = generateJobId platform job.requester job.modelHash job.inputHash nonce)
    (covered : jobPreimage job.requester job.modelHash job.inputHash nonce ∈ hashed) :
    Orderly platform hashed (registry.index id job) := by
  exact ⟨Map.forall_insert occurs orderly.occurs,
    Map.forall_insert ⟨nonce, used, named, covered⟩ orderly.numbered, orderly.nonces⟩

end

end JobRegistry

end Vm
