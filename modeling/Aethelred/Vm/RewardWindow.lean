import Aethelred.Vm.ComputeRewards

/- What a reward depends on, over runs of the engine: the stake, and the operations that were within
the window when the node last registered one, also those that no longer are. -/
namespace Vm

open Go Attempt List

theorem NodeComputeStats.multiplierBps_le (verifiedOps : Nat) :
    NodeComputeStats.multiplierBps verifiedOps ≤ 2500 := by
  unfold multiplierBps
  split
  · decide
  · omega

theorem sumU128_append (first second : List Nat) :
    sumU128 (first ++ second) = addU128 (sumU128 first) (sumU128 second) := by
  unfold sumU128 addU128
  rw [sum_append, ← Nat.add_mod]

theorem sumU128_perm {first second : List Nat} (perm : first.Perm second) :
    sumU128 first = sumU128 second := by
  unfold sumU128
  rw [perm.sum_eq]

def opsTotal (operations : List ComputeOperationRecord) : Nat :=
  sumU128 (operations.map (·.verifiedOps))

theorem opsTotal_append (first second : List ComputeOperationRecord) :
    opsTotal (first ++ second) = addU128 (opsTotal first) (opsTotal second) := by
  unfold opsTotal
  rw [map_append, sumU128_append]

theorem opsTotal_perm {first second : List ComputeOperationRecord} (perm : first.Perm second) :
    opsTotal first = opsTotal second := sumU128_perm (perm.map _)

namespace RewardConfig

variable (config : RewardConfig)

def multiplier (verifiedOps : Nat) : Nat :=
  min (NodeComputeStats.multiplierBps verifiedOps + (HardwareTier.ofOps verifiedOps).tierBonusBps)
    config.maxComputeMultiplierBps

theorem multiplier_le (verifiedOps : Nat) : config.multiplier verifiedOps ≤ 3000 := by
  have most := NodeComputeStats.multiplierBps_le verifiedOps
  have bonus := (HardwareTier.ofOps verifiedOps).tierBonusBps_le
  unfold multiplier
  omega

def reward (staked verifiedOps epochDurationSecs : Nat) : Nat :=
  if staked = 0 then 0
  else if config.enableComputeWeight = false then
    RewardEngine.baseReward config staked epochDurationSecs
  else mulU128 (RewardEngine.baseReward config staked epochDurationSecs)
    (config.multiplier verifiedOps) / 1000

/-- The rewards for a stake are no rewards, or are not weighted. -/
def Unweighted (staked : Nat) : Prop :=
  config.enableComputeWeight = false ∨ mulU128 staked config.baseApyBps = 0

variable {config : RewardConfig} {staked first second : Nat}

theorem exists_base (earns : mulU128 staked config.baseApyBps ≠ 0) :
    ∃ duration, duration < 2 ^ 64 ∧ 1000 ≤ RewardEngine.baseReward config staked duration ∧
      RewardEngine.baseReward config staked duration * 3000 < 2 ^ 128 := by
  have bounded : mulU128 staked config.baseApyBps < 2 ^ 128 := Nat.mod_lt _ (by decide)
  unfold RewardEngine.baseReward
  generalize mulU128 staked config.baseApyBps = yearly at earns bounded
  by_cases large : 315360000000000 ≤ yearly
  · refine ⟨1, by decide, ?_⟩
    rw [mulU128_eq (by omega)]
    omega
  · refine ⟨315360000000000, by decide, ?_⟩
    rw [mulU128_eq (by omega)]
    omega

/-- Two nodes earn alike exactly if nothing is weighed or they weigh alike. -/
theorem reward_eq_iff :
    (∀ duration, duration < 2 ^ 64 →
      config.reward staked first duration = config.reward staked second duration) ↔
    config.Unweighted staked ∨ config.multiplier first = config.multiplier second := by
  constructor
  · intro same
    by_contra apart
    obtain ⟨weighted, differ⟩ := not_or.mp apart
    obtain ⟨enabled, earns⟩ := not_or.mp weighted
    obtain ⟨duration, bound, least, most⟩ := exists_base earns
    have some : staked ≠ 0 := by
      rintro rfl
      exact earns (by simp [mulU128])
    have equal := same duration bound
    unfold reward at equal
    rw [if_neg some, if_neg some, if_neg enabled, if_neg enabled] at equal
    have room {total : Nat} (le : total ≤ 3000) :
        RewardEngine.baseReward config staked duration * total < 2 ^ 128 :=
      Nat.lt_of_le_of_lt (Nat.mul_le_mul_left _ le) most
    rw [mulU128_eq (room (config.multiplier_le first)),
      mulU128_eq (room (config.multiplier_le second))] at equal
    -- Multipliers that differ are a whole base apart, and that is a thousand.
    have apart {low high : Nat} (below : low < high) :
        RewardEngine.baseReward config staked duration * low / 1000 <
          RewardEngine.baseReward config staked duration * high / 1000 := by
      have step := Nat.mul_le_mul_left (RewardEngine.baseReward config staked duration) below
      rw [Nat.mul_succ] at step
      omega
    obtain below | above := Nat.lt_or_gt_of_ne differ
    · exact absurd equal (Nat.ne_of_lt (apart below))
    · exact absurd equal (Nat.ne_of_gt (apart above))
  · rintro ((off | nothing) | same) duration -
    · unfold reward
      rw [if_pos off, if_pos off]
    · have base : RewardEngine.baseReward config staked duration = 0 := by
        unfold RewardEngine.baseReward
        rw [nothing, mulU128, Nat.zero_mul, Nat.zero_mod, Nat.zero_div]
      unfold reward
      rw [base, mulU128, mulU128, Nat.zero_mul, Nat.zero_mul]
    · unfold reward
      rw [same]

end RewardConfig

namespace RewardEngine

variable {sha256 : List UInt8 → Hash} {engine : RewardEngine} {node : Address}
  {operations : List ComputeOperationRecord}

def statsOf (engine : RewardEngine) (node : Address) : NodeComputeStats :=
  engine.computeRegistry.get node { node }

def stakeOf (engine : RewardEngine) (node : Address) : Nat := engine.nodeStakes.get node 0

def work (engine : RewardEngine) (operations : List ComputeOperationRecord) :
    List ComputeOperationRecord :=
  Window.within (·.timestamp) COMPUTE_VERIFICATION_WINDOW engine.currentTime operations

def leftover (engine : RewardEngine) (operations : List ComputeOperationRecord) :
    List ComputeOperationRecord :=
  Window.stale (·.timestamp) COMPUTE_VERIFICATION_WINDOW engine.currentTime operations

/-- The statistics of a node are those of the operations held since it last registered one. -/
structure Counts (engine : RewardEngine) (node : Address)
    (operations : List ComputeOperationRecord) : Prop where
  recent : (engine.statsOf node).recentOperations =
    Window.held (·.timestamp) COMPUTE_VERIFICATION_WINDOW operations
  ops : (engine.statsOf node).verifiedOps30d = opsTotal (engine.statsOf node).recentOperations
  tier : (engine.statsOf node).hardwareTier = .ofOps (engine.statsOf node).verifiedOps30d
  past : ∀ record ∈ operations, record.timestamp ≤ engine.currentTime

theorem counts_new (config : RewardConfig) (node : Address) : (new config).Counts node [] where
  recent := rfl
  ops := rfl
  tier := (by decide : HardwareTier.Entry = .ofOps 0)
  past := fun _ impossible => nomatch impossible

theorem calculateEpochReward_eq_reward (counts : engine.Counts node operations)
    (duration : Nat) : engine.calculateEpochReward node duration =
      engine.config.reward (engine.stakeOf node) (engine.statsOf node).verifiedOps30d duration := by
  have tier := counts.tier
  unfold calculateEpochReward RewardConfig.reward RewardConfig.multiplier stakeOf
  unfold statsOf Map.get at *
  cases found : engine.computeRegistry.lookup node with
  | none => rfl
  | some stats =>
    rw [found, Option.getD_some] at tier
    simp only [Option.map_some, Option.getD_some, tier, NodeComputeStats.computeMultiplierBps]

theorem statsOf_update (change : NodeComputeStats → NodeComputeStats) (worker : Address) :
    { engine with computeRegistry :=
        engine.computeRegistry.update worker { node := worker } change }.statsOf node =
      if node = worker then change (engine.statsOf node) else engine.statsOf node := by
  unfold statsOf
  by_cases same : node = worker
  · subst same
    rw [Map.get_update, if_pos rfl]
  · rw [if_neg same]
    unfold Map.update
    exact Map.get_insert_ne _ _ _ same

theorem updateSuccessRate_spec (stats : NodeComputeStats) :
    stats.updateSuccessRate.recentOperations = stats.recentOperations ∧
      stats.updateSuccessRate.verifiedOps30d = stats.verifiedOps30d ∧
      stats.updateSuccessRate.hardwareTier = stats.hardwareTier := by
  unfold NodeComputeStats.updateSuccessRate
  dsimp only
  split
  · exact ⟨rfl, rfl, rfl⟩
  · exact ⟨rfl, rfl, rfl⟩

theorem addOperation_spec (stats : NodeComputeStats) (record : ComputeOperationRecord)
    (currentTime : Nat) :
    let kept := NodeComputeStats.pruneOldOperations (stats.recentOperations ++ [record]) currentTime
    (stats.addOperation record currentTime).recentOperations = kept ∧
      (stats.addOperation record currentTime).verifiedOps30d = opsTotal kept ∧
      (stats.addOperation record currentTime).hardwareTier = .ofOps (opsTotal kept) :=
  ⟨(updateSuccessRate_spec _).1, (updateSuccessRate_spec _).2.1, rfl⟩

section

variable (counts : engine.Counts node operations)
include counts

theorem Counts.of_same {after : RewardEngine}
    (recent : (after.statsOf node).recentOperations = (engine.statsOf node).recentOperations)
    (ops : (after.statsOf node).verifiedOps30d = (engine.statsOf node).verifiedOps30d)
    (tier : (after.statsOf node).hardwareTier = (engine.statsOf node).hardwareTier)
    (later : engine.currentTime ≤ after.currentTime) : after.Counts node operations where
  recent := recent.trans counts.recent
  ops := by rw [ops, recent, counts.ops]
  tier := by rw [tier, ops, counts.tier]
  past := fun record member => (counts.past record member).trans later

theorem Counts.recordComputeFailure (worker : Address) :
    (engine.recordComputeFailure worker).Counts node operations := by
  have stats : (engine.recordComputeFailure worker).statsOf node =
      if node = worker then (engine.statsOf node).recordFailure engine.currentTime
      else engine.statsOf node := statsOf_update _ _
  have same := updateSuccessRate_spec { engine.statsOf node with
    jobsFailed := addU64 (engine.statsOf node).jobsFailed 1 }
  split at stats
  · refine counts.of_same ?_ ?_ ?_ (Nat.le_refl _)
    · rw [stats]
      exact same.1
    · rw [stats]
      exact same.2.1
    · rw [stats]
      exact same.2.2
  · refine counts.of_same ?_ ?_ ?_ (Nat.le_refl _)
    · rw [stats]
    · rw [stats]
    · rw [stats]

/-- An operation that comes in drops what has left the window, and the total is taken anew. -/
theorem Counts.registerComputeOperation
    (record : ComputeOperationRecord) (now : record.timestamp = engine.currentTime) :
    { engine with
      computeRegistry := engine.computeRegistry.update node { node }
        (·.addOperation record engine.currentTime) }.Counts node (operations ++ [record]) := by
  have stats := @statsOf_update engine node (·.addOperation record engine.currentTime) node
  rw [if_pos rfl] at stats
  have recent : NodeComputeStats.pruneOldOperations
      ((engine.statsOf node).recentOperations ++ [record]) engine.currentTime =
        Window.held (·.timestamp) COMPUTE_VERIFICATION_WINDOW (operations ++ [record]) := by
    rw [counts.recent, ← now]
    refine Window.held_concat fun earlier member => ?_
    rw [now]
    exact counts.past earlier member
  obtain ⟨kept, total, tier⟩ :=
    addOperation_spec (engine.statsOf node) record engine.currentTime
  refine ⟨?_, ?_, ?_, ?_⟩
  · rw [stats, kept, recent]
  · rw [stats, total, kept]
  · rw [stats, tier, total]
  · intro other member
    obtain earlier | last := mem_append.mp member
    · exact counts.past other earlier
    · rw [mem_singleton.mp last]
      exact now.le

/-- A call in order keeps the operations counted. -/
theorem Counts.step {call : RewardCall} (ordered : Ordered engine call) :
    (step sha256 engine call).Counts node (operations ++ registered sha256 node engine call) := by
  cases call with
  | updateBlock timestamp =>
    show (engine.updateBlock timestamp).Counts node (operations ++ [])
    rw [append_nil]
    exact counts.of_same rfl rfl rfl ordered
  | registerStake worker amount =>
    show (engine.registerStake worker amount).Counts node (operations ++ [])
    rw [append_nil]
    exact counts.of_same rfl rfl rfl (Nat.le_refl _)
  | reduceStake worker amount =>
    show (reduceStake worker amount engine).2.Counts node (operations ++ [])
    rw [append_nil]
    simp only [reduceStake, read_bind, ensure_bind]
    split
    · exact counts.of_same rfl rfl rfl (Nat.le_refl _)
    · exact counts
  | recordComputeFailure worker =>
    show (engine.recordComputeFailure worker).Counts node (operations ++ [])
    rw [append_nil]
    exact counts.recordComputeFailure worker
  | registerComputeOperation worker jobId verifiedOps teeType proofHash hardwareId zkVerified =>
    simp only [registered]
    split
    · rename_i same
      subst same
      exact counts.registerComputeOperation _ rfl
    · rename_i other
      rw [append_nil]
      have stats := @statsOf_update engine node (·.addOperation (engine.newRecord sha256 worker
        jobId verifiedOps teeType proofHash hardwareId zkVerified) engine.currentTime) worker
      rw [if_neg (Ne.symm other)] at stats
      exact counts.of_same (congrArg _ stats) (congrArg _ stats) (congrArg _ stats)
        (Nat.le_refl _)

end

section Runs

variable (sha256)

theorem counts_exec (counts : engine.Counts node operations) {calls : List RewardCall}
    (ordered : Run.Along (RewardEngine.step sha256) Ordered engine calls) :
    (Run.exec (RewardEngine.step sha256) engine calls).Counts node
      (operations ++ operationsOf sha256 node engine calls) := by
  induction calls generalizing engine operations with
  | nil =>
    rw [operationsOf, append_nil]
    exact counts
  | cons call rest ih =>
    rw [operationsOf, ← append_assoc]
    exact ih (counts.step ordered.1) ordered.2

theorem config_step (engine : RewardEngine) (call : RewardCall) :
    (step sha256 engine call).config = engine.config := by
  cases call with
  | reduceStake worker amount =>
    show (reduceStake worker amount engine).2.config = _
    simp only [reduceStake, read_bind, ensure_bind]
    split
    · rfl
    · rfl
  | registerComputeOperation => rfl
  | recordComputeFailure => rfl
  | registerStake => rfl
  | updateBlock => rfl

variable (config : RewardConfig)

def run (calls : List RewardCall) : RewardEngine :=
  Run.exec (step sha256) (new config) calls

theorem config_run (calls : List RewardCall) : (run sha256 config calls).config = config :=
  Run.invariant_of_step (fun engine => engine.config = config)
    (fun engine call same => (config_step sha256 engine call).trans same) calls rfl

def workOf (node : Address) (calls : List RewardCall) : List ComputeOperationRecord :=
  (run sha256 config calls).work (operationsOf sha256 node (new config) calls)

def leftoverOf (node : Address) (calls : List RewardCall) : List ComputeOperationRecord :=
  (run sha256 config calls).leftover (operationsOf sha256 node (new config) calls)

variable {config : RewardConfig} {calls first second : List RewardCall}

theorem reward_run (ordered : Run.Along (step sha256) Ordered (new config) calls) (duration : Nat) :
    (run sha256 config calls).calculateEpochReward node duration =
      config.reward ((run sha256 config calls).stakeOf node)
        (addU128 (opsTotal (workOf sha256 config node calls))
          (opsTotal (leftoverOf sha256 config node calls))) duration := by
  have counts := counts_exec sha256 (counts_new config node) ordered
  rw [nil_append] at counts
  have total := counts.ops
  rw [counts.recent, opsTotal_perm (Window.held_perm counts.past), opsTotal_append] at total
  refine (calculateEpochReward_eq_reward counts duration).trans ?_
  rw [total]
  change (run sha256 config calls).config.reward _ _ _ = _
  rw [config_run]
  rfl

/-- Two runs that agree on a node's stake and on its operations within the window give it the same
rewards exactly if rewards are not weighted, or what has left the window since the node last
registered an operation moves the multiplier alike in both. -/
theorem calculateEpochReward_eq_iff (ordered : Run.Along (step sha256) Ordered (new config) first)
    (ordered' : Run.Along (step sha256) Ordered (new config) second)
    (stakes : (run sha256 config first).stakeOf node = (run sha256 config second).stakeOf node)
    (agree : (workOf sha256 config node first).Perm (workOf sha256 config node second)) :
    (∀ duration, duration < 2 ^ 64 →
      (run sha256 config first).calculateEpochReward node duration =
        (run sha256 config second).calculateEpochReward node duration) ↔
    config.Unweighted ((run sha256 config first).stakeOf node) ∨
      config.multiplier (addU128 (opsTotal (workOf sha256 config node first))
          (opsTotal (leftoverOf sha256 config node first))) =
        config.multiplier (addU128 (opsTotal (workOf sha256 config node first))
          (opsTotal (leftoverOf sha256 config node second))) := by
  rw [← RewardConfig.reward_eq_iff]
  refine forall₂_congr fun duration _ => ?_
  rw [reward_run sha256 ordered, reward_run sha256 ordered', ← stakes, ← opsTotal_perm agree]

end Runs

instance (engine : RewardEngine) (call : RewardCall) : Decidable (Ordered engine call) :=
  match call with
  | .updateBlock _ => inferInstanceAs (Decidable (_ ≤ _))
  | .registerComputeOperation .. => .isTrue trivial
  | .recordComputeFailure _ => .isTrue trivial
  | .registerStake _ _ => .isTrue trivial
  | .reduceStake _ _ => .isTrue trivial

def billionThenBlock (timestamp : Nat) : List RewardCall :=
  [.registerStake 1 1000000, .registerComputeOperation 1 2 1000000000 .IntelSgx 3 "H100" false,
    .updateBlock timestamp]

/-- Within the window the same operations earn the same at any time. -/
theorem calculateEpochReward_eq_recent :
    Run.Along (step fun _ => 0) Ordered (new {}) (billionThenBlock 100) ∧
    Run.Along (step fun _ => 0) Ordered (new {}) (billionThenBlock 200) ∧
    ∀ duration, duration < 2 ^ 64 →
      (run (fun _ => 0) {} (billionThenBlock 100)).calculateEpochReward 1 duration =
        (run (fun _ => 0) {} (billionThenBlock 200)).calculateEpochReward 1 duration := by
  have first : Run.Along (step fun _ => 0) Ordered (new {}) (billionThenBlock 100) := by
    decide +kernel
  have second : Run.Along (step fun _ => 0) Ordered (new {}) (billionThenBlock 200) := by
    decide +kernel
  have stakes : (run (fun _ => 0) {} (billionThenBlock 100)).stakeOf 1 =
      (run (fun _ => 0) {} (billionThenBlock 200)).stakeOf 1 := by decide +kernel
  have agree : workOf (fun _ => 0) {} 1 (billionThenBlock 100) =
      workOf (fun _ => 0) {} 1 (billionThenBlock 200) := by decide +kernel
  refine ⟨first, second, (calculateEpochReward_eq_iff (fun _ => 0) first second stakes
    (.of_eq agree)).mpr (.inr ?_)⟩
  decide +kernel

/-- A month later the node has done no work in the window, and still earns 1.95 times what a node
that never has earns. -/
theorem billionThenBlock_not_eq :
    workOf (fun _ => 0) {} 1 (billionThenBlock 2678400) =
      workOf (fun _ => 0) {} 1 [.registerStake 1 1000000, .updateBlock 2678400] ∧
    workOf (fun _ => 0) {} 1 (billionThenBlock 2678400) = [] ∧
    (run (fun _ => 0) {} (billionThenBlock 2678400)).stakeOf 1 =
      (run (fun _ => 0) {} [.registerStake 1 1000000, .updateBlock 2678400]).stakeOf 1 ∧
    (run (fun _ => 0) {} (billionThenBlock 2678400)).calculateEpochReward 1 31536000 = 97500 ∧
    (run (fun _ => 0) {} [.registerStake 1 1000000, .updateBlock 2678400]).calculateEpochReward 1
      31536000 = 50000 := by
  refine ⟨?_, ?_, ?_, ?_, ?_⟩
  · decide +kernel
  · decide +kernel
  · decide +kernel
  · decide +kernel
  · decide +kernel

end RewardEngine

end Vm
