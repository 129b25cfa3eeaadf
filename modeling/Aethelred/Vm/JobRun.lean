import Aethelred.Vm.JobCalls
import Aethelred.Vm.StakingRun

/- Runs of the registry's calls, with the bank and the staking manager in any state in between. As
long as proofs are submitted for active jobs only, every job moves along the edges of its life
cycle, and settles once at most. -/
namespace Vm.World

open Go Attempt JobStatus JobRegistry

variable {platform : Platform} {world after : World} {id : JobId} {job : JobState}
  {hashed : List (List UInt8)}

/-- Calls about jobs, and changes around the registry. -/
inductive JobCall
  | submitJob (params : SubmitJobParams) (ctx : BlockContext)
  | assignJob (id : JobId) (prover : Address) (ctx : BlockContext)
  | submitProof (params : SubmitProofParams) (ctx : BlockContext)
  | cancelJob (id : JobId) (requester : Address)
  | processExpiredJobs (currentTime : Nat)
  /-- The bank and the staking manager are something else from here on. -/
  | surround (staking : StakingManager) (stakingBank : Option Bank) (bank : Bank)

def step (platform : Platform) (world : World) : JobCall → World
  | .submitJob params ctx => ((submitJob platform params ctx world).map (·.2)).getD world
  | .assignJob id prover ctx => (onRegistry (assignJob id prover ctx) world).2
  | .submitProof params ctx => ((submitProof platform params ctx world).map (·.2)).getD world
  | .cancelJob id requester => (cancelJob id requester world).2
  | .processExpiredJobs currentTime =>
    { world with registry := world.registry.processExpiredJobs currentTime }
  | .surround staking stakingBank bank => ⟨world.registry, staking, stakingBank, bank⟩

/-- One if the result of a proof for the job `proved` settles the job `id`. -/
def settlement (id proved : JobId) :
    Option (Except SystemContractError ProofSubmitResult × World) → Nat
  | some (.ok _, _) => if proved = id then 1 else 0
  | _ => 0

def settledBy (platform : Platform) (id : JobId) (world : World) : JobCall → Nat
  | .submitProof params ctx => settlement id params.jobId (submitProof platform params ctx world)
  | _ => 0

/-- The statuses move along the edges of the life cycle, and never out of a terminal one. -/
def Advances (platform : Platform) (world : World) (call : JobCall) : Prop :=
  ∀ id job, world.registry.jobs.lookup id = some job →
    ∃ next, (step platform world call).registry.jobs.lookup id = some next ∧
      Reaches job.status next.status ∧ (job.status.isTerminal = true → next.status = job.status)

/-- Statuses only advance, and no job is settled twice. -/
structure Lawful (platform : Platform) (start : World) (calls : List JobCall) : Prop where
  advances : Run.Along (step platform) (Advances platform) start calls
  once : ∀ id, Run.total (step platform) (settledBy platform id) start calls ≤ 1

/-- A submission's preimage is one of those hashed, and its nonce not the last; a proof by the
assigned prover is for an active job. -/
def Timely (hashed : List (List UInt8)) (world : World) : JobCall → Prop
  | .submitJob params _ => world.registry.nextPreimage params ∈ hashed ∧
      world.registry.nonce params.requester + 1 < 2 ^ 64
  | .submitProof params _ => ∀ job ∈ world.registry.jobs.lookup params.jobId,
      job.assignedProver = some params.prover → job.status.isActive = true
  | _ => True

instance (hashed : List (List UInt8)) (world : World) (call : JobCall) :
    Decidable (world.Timely hashed call) := by
  cases call <;> unfold Timely <;> infer_instance

section Steps

def left {α : Type} (world : World) (result : Option (Except SystemContractError α × World)) :
    World :=
  (result.map (·.2)).getD world

theorem step_submitJob_eq (params : SubmitJobParams) (ctx : BlockContext) :
    step platform world (.submitJob params ctx) =
      left world (submitJob platform params ctx world) := rfl

theorem step_submitProof_eq (params : SubmitProofParams) (ctx : BlockContext) :
    step platform world (.submitProof params ctx) =
      left world (submitProof platform params ctx world) := rfl

variable {ctx : BlockContext}

theorem follows_settle {params : SubmitProofParams} {registry : JobRegistry}
    (found : registry.jobs.lookup params.jobId = some job) (active : job.status.isActive = true)
    (occurs : ¬job.status.Passed) (same : world.registry = registry) :
    Follows registry (settle params ctx job world).2.registry := by
  have verified : Follows registry (accepted params ctx job world).registry := by
    unfold accepted
    rw [same]
    refine .putJob found ⟨rfl, rfl, rfl, rfl, ?_, fun _ => by simp [verifiedJob, Passed]⟩
    exact reaches_of_active active occurs assigned_reaches_verified
  obtain ⟨reason, after, done, bank, _⟩ | ⟨result, fee, charged, paid, done, bank, _⟩ :=
    settle_cases params ctx job world
  · rw [done, bank.registry]
    exact verified
  · rw [done]
    refine verified.trans ?_
    change Follows _ (settledRegistry params ctx job paid.registry)
    rw [bank.registry]
    refine Follows.release (.putJob (AList.lookup_insert _) ⟨rfl, rfl, rfl, rfl, ?_, ?_⟩)
    · exact verified_reaches_settled
    · exact fun _ => by simp [Passed]

/-- A timely proof moves its job on. -/
theorem follows_submitProof {params : SubmitProofParams}
    {outcome : Except SystemContractError ProofSubmitResult}
    (orderly : Orderly platform hashed world.registry)
    (timely : world.Timely hashed (.submitProof params ctx))
    (done : submitProof platform params ctx world = some (outcome, after)) :
    Follows world.registry after.registry := by
  obtain stuck | ⟨reason, last, turned, remembers, _⟩ |
    ⟨job, status, registry, reason, last, closed, _, found, assigned, ends, remembers, written⟩ |
    ⟨job, registry, accepts, settled⟩ := submitProof_cases platform params ctx world
  · rw [stuck] at done
    cases done
  · rw [turned] at done
    cases done
    exact remembers.follows
  · rw [closed] at done
    cases done
    rw [written]
    have active := timely job found assigned
    have occurs := orderly.occurs _ job found
    have present : registry.jobs.lookup params.jobId = some job := remembers.jobs ▸ found
    refine remembers.follows.trans (Follows.release (.putJob present ⟨rfl, rfl, rfl, rfl, ?_, ?_⟩))
    · obtain rfl | rfl := ends
      · exact reaches_of_active active occurs assigned_reaches_expired
      · exact reaches_of_active active occurs assigned_reaches_failed
    · obtain rfl | rfl := ends
      · exact fun _ => by simp [Passed]
      · exact fun _ => by simp [Passed]
  · rw [settled] at done
    have remembers := accepts.remembers
    have present : registry.jobs.lookup params.jobId = some job := remembers.jobs ▸ accepts.found
    have follows : Follows registry (settle params ctx job { world with registry }).2.registry :=
      follows_settle present (timely job accepts.found accepts.assigned)
        (orderly.occurs _ job accepts.found) rfl
    have last : (settle params ctx job { world with registry }).2 = after :=
      congrArg Prod.snd (Option.some.inj done)
    rw [last] at follows
    exact remembers.follows.trans follows

theorem follows_cancelJob (id : JobId) (requester : Address) (world : World) :
    Follows world.registry (cancelJob id requester world).2.registry := by
  obtain ⟨reason, bank, failed, _⟩ | ⟨result, job, freed, bank, found, _, allowed, _, _, done⟩ :=
    cancelJob_cases id requester world
  · rw [failed]
    exact .refl _
  · rw [done]
    exact Follows.release (.putJob found ⟨rfl, rfl, rfl, rfl, reaches_cancelled allowed,
      fun _ => by simp [Passed]⟩)

/-- The jobs of a world are those of a later one, with their requesters, bids and tasks. -/
def Persists (before after : World) : Prop :=
  ∀ id job, before.registry.jobs.lookup id = some job →
    ∃ next, after.registry.jobs.lookup id = some next ∧ job.Next next

/-- A submission files a new job under an id of its own. -/
theorem step_submitJob {params : SubmitJobParams}
    (collisionless : ∀ p ∈ hashed, ∀ q ∈ hashed, platform.sha256 p = platform.sha256 q → p = q)
    (orderly : Orderly platform hashed world.registry)
    (timely : world.Timely hashed (.submitJob params ctx)) :
    Orderly platform hashed (step platform world (.submitJob params ctx)).registry ∧
      Persists world (step platform world (.submitJob params ctx)) := by
  obtain ⟨covered, more⟩ := timely
  have bump := orderly.bump more
  unfold Persists
  rw [step_submitJob_eq]
  obtain stuck | ⟨reason, failed⟩ | ⟨reason, bank, _, failed⟩ |
    ⟨result, bank, job, _, made, done⟩ := submitJob_cases platform params ctx world
  · rw [stuck]
    exact ⟨orderly, fun _ job found => ⟨job, found, .refl job⟩⟩
  · rw [failed]
    exact ⟨orderly, fun _ job found => ⟨job, found, .refl job⟩⟩
  · rw [failed]
    exact ⟨bump, fun _ job found => ⟨job, found, .refl job⟩⟩
  · rw [done]
    obtain ⟨requester, modelHash, inputHash, _, status, _⟩ := new_eq_some made
    have raised : addU64 (world.registry.nonce params.requester) 1 =
        world.registry.nonce params.requester + 1 := Nat.mod_eq_of_lt more
    constructor
    · have used : world.registry.nonce params.requester <
          (world.registry.bumped params.requester).nonce job.requester := by
        rw [requester, nonce_bumped, if_pos rfl]
        omega
      refine bump.index ?_ used ?_ ?_
      · rw [status]
        simp [Passed]
      · rw [requester, modelHash, inputHash]
        rfl
      · rw [requester, modelHash, inputHash]
        exact covered
    · intro id old found
      have fresh := orderly.fresh collisionless covered
      refine ⟨old, ?_, .refl old⟩
      change (world.registry.jobs.insert _ job).lookup id = some old
      rw [Map.lookup_insert_eq, if_neg]
      · exact found
      · rintro rfl
        rw [fresh] at found
        cases found

section

variable {call : JobCall}
  (collisionless : ∀ p ∈ hashed, ∀ q ∈ hashed, platform.sha256 p = platform.sha256 q → p = q)
  (orderly : Orderly platform hashed world.registry) (timely : world.Timely hashed call)
include collisionless orderly timely

theorem step_persists :
    Orderly platform hashed (step platform world call).registry ∧
      Persists world (step platform world call) := by
  have of_follows : Follows world.registry (step platform world call).registry →
      Orderly platform hashed (step platform world call).registry ∧
        Persists world (step platform world call) :=
    fun follows => ⟨orderly.follows follows, follows.kept⟩
  cases call with
  | submitJob params ctx => exact step_submitJob collisionless orderly timely
  | assignJob id prover ctx => exact of_follows (follows_assignJob id prover ctx world.registry)
  | submitProof params ctx =>
    refine of_follows ?_
    rw [step_submitProof_eq]
    cases done : submitProof platform params ctx world with
    | none => exact .refl _
    | some result => exact follows_submitProof orderly timely done
  | cancelJob id requester => exact of_follows (follows_cancelJob id requester world)
  | processExpiredJobs currentTime =>
    exact of_follows (follows_processExpiredJobs currentTime orderly.occurs)
  | surround staking stakingBank bank => exact of_follows (.refl _)

theorem step_spec :
    Orderly platform hashed (step platform world call).registry ∧ Advances platform world call := by
  obtain ⟨ordered, persists⟩ := step_persists collisionless orderly timely
  refine ⟨ordered, fun id job found => ?_⟩
  obtain ⟨next, present, later⟩ := persists id job found
  exact ⟨next, present, later.reaches, later.reaches.of_terminal⟩

end

end Steps

/-- A call settles one active job or none. -/
theorem settledBy_cases (platform : Platform) {call : JobCall} (timely : world.Timely hashed call)
    (id : JobId) :
    settledBy platform id world call = 0 ∨
    (settledBy platform id world call = 1 ∧
      (∃ job, world.registry.jobs.lookup id = some job ∧ job.status.isActive = true) ∧
      ∃ job, (step platform world call).registry.jobs.lookup id = some job ∧
        job.status = .Settled) := by
  cases call with
  | submitProof params ctx =>
    rw [step_submitProof_eq, settledBy]
    obtain stuck | ⟨reason, last, turned, _⟩ | ⟨job, status, registry, reason, last, closed, _⟩ |
      ⟨job, registry, accepts, settled⟩ := submitProof_cases platform params ctx world
    · rw [stuck]
      exact .inl rfl
    · rw [turned]
      exact .inl rfl
    · rw [closed]
      exact .inl rfl
    · rw [settled]
      obtain ⟨reason, last, failed, _⟩ | ⟨result, fee, charged, paid, done, _⟩ :=
        settle_cases params ctx job { world with registry }
      · rw [failed]
        exact .inl rfl
      · rw [done]
        by_cases same : params.jobId = id
        · subst same
          refine .inr ⟨if_pos rfl, ?_, ?_⟩
          · exact ⟨job, accepts.found, timely job accepts.found accepts.assigned⟩
          · exact ⟨_, AList.lookup_insert _, rfl⟩
        · exact .inl (if_neg same)
  | submitJob => exact .inl rfl
  | assignJob => exact .inl rfl
  | cancelJob => exact .inl rfl
  | processExpiredJobs => exact .inl rfl
  | surround => exact .inl rfl

theorem isActive_eq_false {status : JobStatus} (terminal : status.isTerminal = true) :
    status.isActive = false := by
  cases status <;> first | rfl | cases terminal

section

variable {calls : List JobCall}
  (collisionless : ∀ p ∈ hashed, ∀ q ∈ hashed, platform.sha256 p = platform.sha256 q → p = q)
  (orderly : Orderly platform hashed world.registry)
  (timely : Run.Along (step platform) (Timely hashed) world calls)
include collisionless orderly timely

theorem total_settledBy_of_terminal
    (found : world.registry.jobs.lookup id = some job) (terminal : job.status.isTerminal = true) :
    Run.total (step platform) (settledBy platform id) world calls = 0 := by
  induction calls generalizing world job with
  | nil => rfl
  | cons call rest ih =>
    obtain ⟨ordered, advances⟩ := step_spec collisionless orderly timely.1
    obtain ⟨next, present, _, closed⟩ := advances id job found
    have later := ih ordered timely.2 present (by rw [closed terminal]; exact terminal)
    obtain idle | ⟨_, ⟨other, same, active⟩, _⟩ :=
      settledBy_cases platform timely.1 id
    · rw [Run.total, idle, later]
    · rw [found] at same
      cases same
      rw [isActive_eq_false terminal] at active
      cases active

theorem total_settledBy_le (id : JobId) :
    Run.total (step platform) (settledBy platform id) world calls ≤ 1 := by
  induction calls generalizing world with
  | nil => exact Nat.zero_le 1
  | cons call rest ih =>
    obtain ⟨ordered, _⟩ := step_spec collisionless orderly timely.1
    rw [Run.total]
    obtain idle | ⟨one, _, job, present, settled⟩ :=
      settledBy_cases platform timely.1 id
    · rw [idle, Nat.zero_add]
      exact ih ordered timely.2
    · have later := total_settledBy_of_terminal collisionless ordered timely.2 present
        (by rw [settled]; rfl)
      rw [one, later]

end

/-- In every run from a new registry in which proofs are for active jobs. -/
theorem run_lawful (platform : Platform) (config : JobConfig) (staking : StakingManager)
    (stakingBank : Option Bank) (bank : Bank) (hashed : List (List UInt8)) (calls : List JobCall)
    (collisionless : ∀ p ∈ hashed, ∀ q ∈ hashed, platform.sha256 p = platform.sha256 q → p = q)
    (timely : Run.Along (step platform) (Timely hashed) ⟨.new config, staking, stakingBank, bank⟩
      calls) : Lawful platform ⟨.new config, staking, stakingBank, bank⟩ calls where
  advances := by
    refine timely.of_invariant (fun world => Orderly platform hashed world.registry) ?_ ?_
      (orderly_new config)
    · exact fun world call timely orderly => (step_spec collisionless orderly timely).1
    · exact fun world call orderly timely => (step_spec collisionless orderly timely).2
  once := total_settledBy_le collisionless (orderly_new config) timely

def localPlatform : Platform where
  sha256 bytes :=
    if bytes = jobPreimage 1 5 6 0 then
      9431127533261847351863876216629044625177410541353444022300344822903556106477
    else if bytes = jobPreimage 1 5 6 1 then
      77254073998656484049225747799586694436013967327327602517708516331455040542040
    else 0
  teePrecompile _ _ := .rejected
  zkpPrecompile _ := .ok false
  sgx := false
  zkp := false

def firstJob : JobId := 9431127533261847351863876216629044625177410541353444022300344822903556106477

def localWorld : World := ⟨.new .devnet, .new .devnet, none, Economy.fundedBank⟩

def localContext : BlockContext := { height := 1, timestamp := 1000, proposer := 10 }

/-- A job of account 1 that any output settles. -/
def localParams : SubmitJobParams := ⟨1, 5, 6, 1000, .ReExecution, .Normal, 0⟩

def localProof : SubmitProofParams := ⟨firstJob, 2, ⟨.ReExecution, none, none, 7⟩, []⟩

def settledOnce : List JobCall :=
  [.submitJob localParams localContext, .assignJob firstJob 2 localContext,
    .submitProof localProof localContext, .submitJob localParams localContext]

theorem run_lawful_local :
    (∀ p ∈ [jobPreimage 1 5 6 0, jobPreimage 1 5 6 1], ∀ q ∈ [jobPreimage 1 5 6 0,
      jobPreimage 1 5 6 1], localPlatform.sha256 p = localPlatform.sha256 q → p = q) ∧
    Run.Along (step localPlatform) (Timely [jobPreimage 1 5 6 0, jobPreimage 1 5 6 1]) localWorld
      settledOnce ∧
    Run.total (step localPlatform) (settledBy localPlatform firstJob) localWorld settledOnce = 1 ∧
    Lawful localPlatform localWorld settledOnce := by
  have collisionless : ∀ p ∈ [jobPreimage 1 5 6 0, jobPreimage 1 5 6 1],
      ∀ q ∈ [jobPreimage 1 5 6 0, jobPreimage 1 5 6 1],
        localPlatform.sha256 p = localPlatform.sha256 q → p = q := by decide +kernel
  have timely : Run.Along (step localPlatform)
      (Timely [jobPreimage 1 5 6 0, jobPreimage 1 5 6 1]) localWorld settledOnce := by
    decide +kernel
  exact ⟨collisionless, timely, by decide +kernel,
    run_lawful localPlatform .devnet (.new .devnet) none Economy.fundedBank _ _ collisionless
      timely⟩

def settledTwice : List JobCall := settledOnce ++ [.submitProof localProof localContext]

/-- The second settlement is paid from the escrow of the other job. -/
theorem settledTwice_not_lawful : ¬Lawful localPlatform localWorld settledTwice := by
  intro lawful
  have twice : Run.total (step localPlatform) (settledBy localPlatform firstJob) localWorld
      settledTwice = 2 := by decide +kernel
  have once := lawful.once firstJob
  omega

/-- No job is ever lost, and none changes hands: its id keeps standing for the task, the requester
and the bid it was filed with. -/
theorem run_jobs_persist (platform : Platform) (config : JobConfig) (staking : StakingManager)
    (stakingBank : Option Bank) (bank : Bank) (hashed : List (List UInt8)) (calls : List JobCall)
    (collisionless : ∀ p ∈ hashed, ∀ q ∈ hashed, platform.sha256 p = platform.sha256 q → p = q)
    (timely : Run.Along (step platform) (Timely hashed) ⟨.new config, staking, stakingBank, bank⟩
      calls) : Run.Lasting (step platform) Persists ⟨.new config, staking, stakingBank, bank⟩ calls := by
  refine Run.lasting_of_along
    (fun (world : World) _ (orderly : Orderly platform hashed world.registry) (_ : True) timely =>
      (step_persists collisionless orderly timely).1)
    (fun _ _ job found => ⟨job, found, .refl job⟩) (fun first second id job found => ?_)
    (fun _ _ orderly _ timely => (step_persists collisionless orderly timely).2)
    (orderly_new config) (Run.along_true _ calls) timely
  obtain ⟨next, present, later⟩ := first id job found
  obtain ⟨last, here, latest⟩ := second id next present
  exact ⟨last, here, later.trans latest⟩

theorem run_jobs_persist_local : Run.Lasting (step localPlatform) Persists localWorld settledOnce :=
  run_jobs_persist localPlatform .devnet (.new .devnet) none Economy.fundedBank
    [jobPreimage 1 5 6 0, jobPreimage 1 5 6 1] settledOnce (by decide +kernel) (by decide +kernel)

end Vm.World
