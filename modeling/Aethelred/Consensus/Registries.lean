import Aethelred.Consensus.Credentials

/- The validators of the consensus engine and of its election (`pouw/consensus.rs`): both are told of
a registration, and only the election refuses one. -/
namespace Consensus

open Go Attempt AList PoUWElection
open Vm (MAX_U64)

structure PoUWConsensus where
  state : PoUWState := {}
  election : PoUWElection

/-- The results of a block, how they are verified and what they are worth. -/
structure UsefulWork (R : Type) where
  validator : R → Address
  usefulWorkUnits : R → Nat
  verifyUsefulWork : R → Except ConsensusError Bool
  calculateScoreContribution : R → Int

structure UsefulWorkProcessingResult where
  totalUsefulWorkUnits : Nat := 0
  verifiedCount : Nat := 0
  scoreUpdates : Map Address Int := ∅

namespace PoUWState

/-- `weightedStake` is floating point. -/
def recalculateActiveSet (weightedStake : Nat → Nat → Nat) (state : PoUWState) : PoUWState :=
  let active (amount : ValidatorInfo → Nat) := state.validators.sum fun info =>
    if info.isEligible state.currentSlot then amount info else 0
  { state with
    totalStake := active (·.stake) % 2 ^ 128
    totalWeightedStake :=
      active (fun info => weightedStake info.stake (state.getUsefulWorkScore info.address)) %
        2 ^ 128 }

def registerValidator (weightedStake : Nat → Nat → Nat) (info : ValidatorInfo)
    (state : PoUWState) : PoUWState :=
  recalculateActiveSet weightedStake { state with
    validators := state.validators.insert info.address info
    usefulWorkScores := state.usefulWorkScores.insert info.address
      (state.getUsefulWorkScore info.address) }

/-- A score with `delta` added, within the range of a `u64`. -/
def moveScore (score : Nat) (delta : Int) : Nat :=
  if 0 ≤ delta then min (score + delta.toNat) MAX_U64 else score - delta.natAbs

end PoUWState

namespace PoUWConsensus

variable (floats : Floats) (weightedStake : Nat → Nat → Nat)

def new (config : PoUWConfig) : PoUWConsensus where election := .new config

def registerValidator (engine : PoUWConsensus) (info : ValidatorInfo) :
    Except ConsensusError Unit × PoUWConsensus :=
  let registered := PoUWElection.registerValidator floats info engine.election
  (registered.1,
    { state := engine.state.registerValidator weightedStake info, election := registered.2 })

section Processing

variable {R : Type} (work : UsefulWork R)

/-- Sums up what the verified results are worth; a validator's sum is an `i64` that wraps. -/
def tally : UsefulWorkProcessingResult → List R →
    Except ConsensusError UsefulWorkProcessingResult
  | sums, [] => .ok sums
  | sums, result :: rest => do
    if ← work.verifyUsefulWork result then
      let updates := sums.scoreUpdates
      tally {
        totalUsefulWorkUnits :=
          min (sums.totalUsefulWorkUnits + work.usefulWorkUnits result) MAX_U64
        verifiedCount := sums.verifiedCount + 1
        scoreUpdates := updates.insert (work.validator result)
          ((updates.get (work.validator result) 0 +
            work.calculateScoreContribution result).bmod (2 ^ 64)) } rest
    else tally sums rest

/-- The election's `record_useful_work` for a score update. -/
def creditElection (update : Address × Int) : Call Unit :=
  recordUsefulWork floats update.1 (update.2 % 2 ^ 64).toNat .General .TeeAttestation 0

def applyUpdate (engine : PoUWConsensus) (update : Address × Int) : PoUWConsensus :=
  let state := { engine.state with
    usefulWorkScores := engine.state.usefulWorkScores.insert update.1
      (PoUWState.moveScore (engine.state.getUsefulWorkScore update.1) update.2) }
  if (state.validators.lookup update.1).isSome then
    { state, election := (creditElection floats update engine.election).2 }
  else { engine with state }

def updatesOf (order : RangeOrder Address) (sums : UsefulWorkProcessingResult) :
    List (Address × Int) :=
  (order.order sums.scoreUpdates.keys).map fun address =>
    (address, sums.scoreUpdates.get address 0)

def processUsefulWorkResults (order : RangeOrder Address) (results : List R)
    (engine : PoUWConsensus) : Except ConsensusError UsefulWorkProcessingResult × PoUWConsensus :=
  match tally work {} results with
  | .error e => (.error e, engine)
  | .ok sums =>
    let applied := Run.exec (applyUpdate floats) engine (updatesOf order sums)
    (.ok sums, { applied with state := applied.state.recalculateActiveSet weightedStake })

/-- What the engine is asked to do. -/
inductive Call (R : Type)
  | registerValidator (info : ValidatorInfo)
  | processUsefulWorkResults (order : RangeOrder Address) (results : List R)
  | recordUsefulWork (address : Address) (uwu : Nat) (category : UtilityCategory)
      (method : VerificationMethod) (complexity : Nat)

def step (engine : PoUWConsensus) : Call R → PoUWConsensus
  | .registerValidator info => (engine.registerValidator floats weightedStake info).2
  | .processUsefulWorkResults order results =>
    (engine.processUsefulWorkResults floats weightedStake work order results).2
  | .recordUsefulWork address uwu category method complexity =>
    { engine with
      election := (recordUsefulWork floats address uwu category method complexity
        engine.election).2 }

end Processing

section Statements

variable {R : Type} (work : UsefulWork R) (engine : PoUWConsensus)

/-- State and election know the same validators with the same stakes. -/
def InStep : Prop :=
  ∀ address, (engine.state.validators.lookup address).map (·.stake) =
    (engine.election.validators.lookup address).map (·.stake)

/-- The records of useful work may stand in another order. -/
structure Unchanged (before after : PoUWElection) : Prop where
  others : after = { before with usefulWorkScores := after.usefulWorkScores }
  scores : ∀ address, after.usefulWorkScores.lookup address = before.usefulWorkScores.lookup address

/-- If the call fails it leaves the election as it was. -/
def Clean (call : PoUWElection.Call Unit) (election : PoUWElection) : Prop :=
  ∀ e, (call election).1 = .error e → Unchanged election (call election).2

def FailsCleanly : Call R → Prop
  | .registerValidator info => ∀ e, (engine.registerValidator floats weightedStake info).1 = .error e →
      (engine.registerValidator floats weightedStake info).2 = engine
  | .processUsefulWorkResults order results => ∀ sums, tally work {} results = .ok sums →
      Run.Along (applyUpdate floats)
        (fun engine update => (engine.state.validators.lookup update.1).isSome →
          Clean (creditElection floats update) engine.election)
        engine (updatesOf order sums)
  | .recordUsefulWork address uwu category method complexity =>
      Clean (PoUWElection.recordUsefulWork floats address uwu category method complexity)
        engine.election

/-- The call keeps the two registries in step and fails cleanly. -/
def Consistent (call : Call R) : Prop :=
  (engine.step floats weightedStake work call).InStep ∧
    engine.FailsCleanly floats weightedStake work call

/-- Registered with enough stake; work is recorded of registered or suspicious validators. -/
def Sound : Call R → Prop
  | .registerValidator info => engine.election.config.minStake ≤ info.stake
  | .processUsefulWorkResults .. => True
  | .recordUsefulWork address .. =>
    (engine.election.validators.lookup address).isSome ∨
      (engine.election.scoreEntry address).isSuspicious floats = true

end Statements

section Invariant

variable {floats} {weightedStake} {engine : PoUWConsensus} {election : PoUWElection}
  {address : Address} {uwu : Nat} {category : UtilityCategory} {method : VerificationMethod}
  {complexity : Nat}

/-- A report changes no validator, and fails cleanly only of one it knows or suspects. -/
theorem recordUsefulWork_spec :
    (PoUWElection.recordUsefulWork floats address uwu category method complexity
        election).2.validators = election.validators ∧
      (PoUWElection.recordUsefulWork floats address uwu category method complexity
        election).2.config = election.config ∧
      (Clean (PoUWElection.recordUsefulWork floats address uwu category method complexity) election ↔
        (election.validators.lookup address).isSome ∨
          (election.scoreEntry address).isSuspicious floats = true) := by
  cases suspicious : (election.scoreEntry address).isSuspicious floats with
  | true =>
    have after := PoUWElection.recordUsefulWork_suspicious address uwu category method complexity
      suspicious
    refine ⟨by rw [after]; rfl, by rw [after]; rfl, iff_of_true (fun e _ => ?_) (.inr rfl)⟩
    rw [after]
    refine ⟨rfl, fun other => ?_⟩
    unfold PoUWElection.putScore PoUWElection.scoreEntry Map.get at *
    by_cases same : other = address
    · cases found : election.usefulWorkScores.lookup address with
      | none =>
        rw [found] at suspicious
        cases suspicious
      | some score => rw [same, AList.lookup_insert, found, Option.getD_some]
    · rw [AList.lookup_insert_ne same]
  | false =>
    rw [PoUWElection.recordUsefulWork_trusted address uwu category method complexity suspicious]
    cases registered : election.validators.lookup address with
    | some info =>
      have found : (election.worked address uwu category method complexity).validators.lookup
          address = some info := registered
      rw [bind_of_ok (PoUWElection.updateWeightedStake_present found), modify_apply]
      refine ⟨rfl, rfl, iff_of_true (fun e failed => ?_) (.inl rfl)⟩
      rw [PoUWElection.recordUsefulWork_trusted address uwu category method complexity suspicious,
        bind_of_ok (PoUWElection.updateWeightedStake_present found), modify_apply] at failed
      cases failed
    | none =>
      have absent : (election.worked address uwu category method complexity).validators.lookup
          address = none := registered
      rw [bind_of_error (PoUWElection.updateWeightedStake_absent absent)]
      refine ⟨rfl, rfl, iff_of_false (fun clean => ?_) (by simp)⟩
      have same := clean (.ValidatorNotRegistered address)
      rw [PoUWElection.recordUsefulWork_trusted address uwu category method complexity suspicious,
        bind_of_error (PoUWElection.updateWeightedStake_absent absent)] at same
      have worked := (same rfl).scores address
      unfold PoUWElection.worked PoUWElection.putScore at worked
      dsimp only at worked
      rw [AList.lookup_insert] at worked
      -- the number of jobs of the record is another one
      have entry : election.scoreEntry address = _ := congrArg (·.getD {}) worked.symm
      have jobs := congrArg UsefulWorkScore.totalJobsVerified entry
      change _ = ((election.scoreEntry address).totalJobsVerified + 1) % 2 ^ 64 at jobs
      omega

/-- In step, and every validator of the election has its minimum stake. -/
structure Kept (engine : PoUWConsensus) : Prop where
  inStep : engine.InStep
  staked : ∀ address info, engine.election.validators.lookup address = some info →
    engine.election.config.minStake ≤ info.stake

theorem kept_new (config : PoUWConfig) : (new config).Kept := ⟨fun _ => rfl, nofun⟩

theorem Kept.of_same {after : PoUWConsensus} (kept : engine.Kept)
    (state : after.state.validators = engine.state.validators)
    (validators : after.election.validators = engine.election.validators)
    (config : after.election.config = engine.election.config) : after.Kept where
  inStep address := by
    rw [state, validators]
    exact kept.inStep address
  staked := by
    rw [validators, config]
    exact kept.staked

theorem Kept.applyUpdate (kept : engine.Kept) (update : Address × Int) :
    (engine.applyUpdate floats update).Kept := by
  unfold PoUWConsensus.applyUpdate
  dsimp only
  split
  · obtain ⟨validators, config, -⟩ := @recordUsefulWork_spec floats engine.election update.1 _ _ _ _
    exact kept.of_same rfl validators config
  · exact kept.of_same rfl rfl rfl

theorem Kept.clean (kept : engine.Kept) (update : Address × Int)
    (registered : (engine.state.validators.lookup update.1).isSome) :
    Clean (creditElection floats update) engine.election := by
  refine recordUsefulWork_spec.2.2.mpr (.inl ?_)
  have stakes := kept.inStep update.1
  rw [← Option.isSome_map (f := ValidatorInfo.stake), ← stakes, Option.isSome_map]
  exact registered

theorem Kept.updates (kept : engine.Kept) (updates : List (Address × Int)) :
    (Run.exec (PoUWConsensus.applyUpdate floats) engine updates).Kept ∧
      Run.Along (PoUWConsensus.applyUpdate floats)
        (fun engine update => (engine.state.validators.lookup update.1).isSome →
          Clean (creditElection floats update) engine.election) engine updates := by
  constructor
  · exact Run.invariant_of_step Kept (fun _ update kept => kept.applyUpdate update) updates kept
  · exact (Run.along_true engine updates).of_invariant Kept
      (fun _ update _ kept => kept.applyUpdate update) (fun _ update kept _ => kept.clean update) kept

variable {R : Type} (work : UsefulWork R)

theorem registerValidator_election (info : ValidatorInfo) :
    PoUWElection.registerValidator floats info election =
      if election.config.minStake ≤ info.stake then (.ok (), election.enrolled floats info)
      else (.error (.InsufficientStake election.config.minStake info.stake), election) := by
  simp only [PoUWElection.registerValidator, read_bind, ensure_bind, modify_apply]
  rfl

/-- A registration is accepted by both, or only by the state. -/
theorem registerValidator_cases (kept : engine.Kept) (info : ValidatorInfo) :
    ((engine.registerValidator floats weightedStake info).2.Kept ∧
        ∃ done, (engine.registerValidator floats weightedStake info).1 = .ok done) ∧
        engine.election.config.minStake ≤ info.stake ∨
      ¬(engine.registerValidator floats weightedStake info).2.InStep ∧
        ¬engine.election.config.minStake ≤ info.stake := by
  unfold PoUWConsensus.registerValidator
  rw [registerValidator_election]
  split
  next enough =>
    refine .inl ⟨⟨⟨fun address => ?_, fun address other => ?_⟩, (), rfl⟩, enough⟩
    · change ((engine.state.validators.insert info.address info).lookup address).map _ =
        ((engine.election.validators.insert info.address info).lookup address).map _
      by_cases same : address = info.address
      · rw [same, lookup_insert, lookup_insert]
      · rw [lookup_insert_ne same, lookup_insert_ne same]
        exact kept.inStep address
    · change (engine.election.validators.insert info.address info).lookup address = some other → _
      by_cases same : address = info.address
      · rw [same, lookup_insert]
        rintro ⟨⟩
        exact enough
      · rw [lookup_insert_ne same]
        exact kept.staked address other
  next few =>
    refine .inr ⟨fun inStep => ?_, few⟩
    have stakes : ((engine.state.validators.insert info.address info).lookup info.address).map
        (·.stake) = (engine.election.validators.lookup info.address).map (·.stake) :=
      inStep info.address
    rw [lookup_insert] at stakes
    obtain ⟨other, found, stake⟩ := Option.map_eq_some_iff.mp stakes.symm
    exact few ((kept.staked info.address other found).trans_eq stake)

theorem Kept.step (kept : engine.Kept) (call : Call R) (sound : engine.Sound floats call) :
    (engine.step floats weightedStake work call).Kept := by
  cases call with
  | registerValidator info =>
    obtain ⟨⟨after, -⟩, -⟩ | ⟨-, few⟩ :=
        @registerValidator_cases floats weightedStake engine kept info
    · exact after
    · exact absurd sound few
  | processUsefulWorkResults order results =>
    change (engine.processUsefulWorkResults floats weightedStake work order results).2.Kept
    unfold PoUWConsensus.processUsefulWorkResults
    split
    · exact kept
    · exact (kept.updates _).1.of_same rfl rfl rfl
  | recordUsefulWork address uwu category method complexity =>
    obtain ⟨validators, config, -⟩ :=
      @recordUsefulWork_spec floats engine.election address uwu category method complexity
    exact kept.of_same rfl validators config

theorem consistent_iff (kept : engine.Kept) (call : Call R) :
    engine.Consistent floats weightedStake work call ↔ engine.Sound floats call := by
  refine ⟨fun consistent => ?_, fun sound => ⟨(kept.step work call sound).inStep, ?_⟩⟩
  · cases call with
    | registerValidator info =>
      obtain ⟨-, enough⟩ | ⟨apart, -⟩ :=
        @registerValidator_cases floats weightedStake engine kept info
      · exact enough
      · exact absurd consistent.1 apart
    | processUsefulWorkResults order results => trivial
    | recordUsefulWork address => exact recordUsefulWork_spec.2.2.mp consistent.2
  · cases call with
    | registerValidator info =>
      obtain ⟨⟨-, _, done⟩, -⟩ | ⟨-, few⟩ :=
        @registerValidator_cases floats weightedStake engine kept info
      · intro e failed
        rw [done] at failed
        cases failed
      · exact absurd sound few
    | processUsefulWorkResults order results => exact fun sums _ => (kept.updates _).2
    | recordUsefulWork address => exact recordUsefulWork_spec.2.2.mpr sound

end Invariant

/-- Engine and election stay in step and fail cleanly exactly if every registration has the least
stake, and work is recorded of registered or suspicious validators only. -/
theorem consistent_run_iff {R : Type} (floats : Floats) (weightedStake : Nat → Nat → Nat)
    (work : UsefulWork R) (config : PoUWConfig) (calls : List (Call R)) :
    Run.Along (step floats weightedStake work) (Consistent floats weightedStake work) (new config)
        calls ↔
      Run.Along (step floats weightedStake work) (Sound floats) (new config) calls :=
  Run.along_iff_of_fair
    (fun (engine : PoUWConsensus) call (kept : engine.Kept) (_ : True) =>
      consistent_iff work kept call)
    (fun (engine : PoUWConsensus) call (kept : engine.Kept) (_ : True) sound =>
      kept.step work call sound)
    (kept_new config) (Run.along_true _ _)

/-- The election refuses the registration, and the engine has the validator. -/
theorem half_registered :
    ¬Run.Along (step sampleFloats (fun stake _ => stake)
        ⟨id, fun _ => 0, fun _ => .ok true, fun _ => 0⟩)
      (Consistent sampleFloats (fun stake _ => stake)
        ⟨id, fun _ => 0, fun _ => .ok true, fun _ => 0⟩)
      (new { minStake := 10 }) [.registerValidator { address := 1, stake := 9 }] := by
  intro consistent
  have stakes := consistent.1.1 1
  revert stakes
  decide +kernel

end PoUWConsensus

end Consensus
