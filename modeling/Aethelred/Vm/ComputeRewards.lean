import Aethelred.Go.MapSum
import Aethelred.Lib.Bytes
import Aethelred.Lib.Run
import Aethelred.Lib.Window
import Aethelred.Vm.Types
import Mathlib.Data.Nat.Log

/- Rewards of the PoUW engine by verified compute (`pouw_engine.rs`). The total of the window is
computed when an operation comes in: a reward paid later counts what has left the window since. -/
namespace Vm

open Go Attempt Bytes

def COMPUTE_VERIFICATION_WINDOW : Nat := 30 * 24 * 60 * 60

inductive TeeVerificationType
  | IntelSgx | AwsNitro | AmdSev | ArmTrustzone | Simulated
  deriving DecidableEq

structure ComputeOperationRecord where
  operationId : Hash
  jobId : JobId
  timestamp : Nat
  verifiedOps : Nat
  teeType : TeeVerificationType
  proofHash : Hash
  hardwareId : String
  zkVerified : Bool
  deriving DecidableEq

inductive HardwareTier
  | Entry | Basic | Standard | Professional | Enterprise
  deriving DecidableEq

namespace HardwareTier

def tierBonusBps : HardwareTier → Nat
  | Entry => 0
  | Basic => 50
  | Standard => 150
  | Professional => 300
  | Enterprise => 500

def ofOps (verifiedOps : Nat) : HardwareTier :=
  if verifiedOps ≥ 1000000000000 then Enterprise
  else if verifiedOps ≥ 100000000000 then Professional
  else if verifiedOps ≥ 10000000000 then Standard
  else if verifiedOps ≥ 1000000000 then Basic
  else Entry

theorem tierBonusBps_le (tier : HardwareTier) : tier.tierBonusBps ≤ 500 := by
  cases tier <;> decide

end HardwareTier

def countDigits : (fuel value : Nat) → Nat
  | 0, _ => 0
  | fuel + 1, value => if value > 0 then countDigits fuel (value / 10) + 1 else 0

/-- A `u128` has at most 39 digits. -/
def log10Approx (value : Nat) : Nat :=
  if value = 0 then 0 else saturatingSub (countDigits 39 value) 1

/-- The sum of `u128` values in a build without overflow checks. -/
def sumU128 (values : List Nat) : Nat := values.sum % 2 ^ 128

structure NodeComputeStats where
  node : Address
  verifiedOps30d : Nat := 0
  verifiedOpsTotal : Nat := 0
  jobsCompleted : Nat := 0
  jobsFailed : Nat := 0
  successRateBps : Nat := 10000
  avgOpsPerJob : Nat := 0
  hardwareTier : HardwareTier := .Entry
  lastUpdated : Nat := 0
  recentOperations : List ComputeOperationRecord := []

namespace NodeComputeStats

variable (stats : NodeComputeStats)

/-- The rate after a job, as a `u16`. -/
def updateSuccessRate : NodeComputeStats :=
  let totalJobs := addU64 stats.jobsCompleted stats.jobsFailed
  if totalJobs > 0 then
    { stats with successRateBps := mulU128 stats.jobsCompleted 10000 / totalJobs % 2 ^ 16 }
  else stats

def pruneOldOperations (operations : List ComputeOperationRecord) (currentTime : Nat) :
    List ComputeOperationRecord :=
  operations.filter fun record =>
    saturatingSub currentTime COMPUTE_VERIFICATION_WINDOW ≤ record.timestamp

def addOperation (record : ComputeOperationRecord) (currentTime : Nat) : NodeComputeStats :=
  let recentOperations := pruneOldOperations (stats.recentOperations ++ [record]) currentTime
  let verifiedOps30d := sumU128 (recentOperations.map (·.verifiedOps))
  let verifiedOpsTotal := addU128 stats.verifiedOpsTotal record.verifiedOps
  let jobsCompleted := addU64 stats.jobsCompleted 1
  let stats := { stats with
    recentOperations, verifiedOps30d, verifiedOpsTotal, jobsCompleted
    avgOpsPerJob :=
      if jobsCompleted > 0 then verifiedOpsTotal / jobsCompleted else stats.avgOpsPerJob }
  { stats.updateSuccessRate with
    hardwareTier := .ofOps verifiedOps30d
    lastUpdated := currentTime }

def recordFailure (currentTime : Nat) : NodeComputeStats :=
  let stats := { stats with jobsFailed := addU64 stats.jobsFailed 1 }
  { stats.updateSuccessRate with lastUpdated := currentTime }

/-- The multiplier of a number of operations: a thousand, and a hundred for each digit but the
first, up to 1500. -/
def multiplierBps (verifiedOps : Nat) : Nat :=
  if verifiedOps = 0 then 1000 else 1000 + min (log10Approx verifiedOps * 100) 1500

def computeMultiplierBps : Nat := multiplierBps stats.verifiedOps30d

end NodeComputeStats

structure RewardConfig where
  baseApyBps : Nat := 500
  maxComputeMultiplierBps : Nat := 2500
  enableComputeWeight : Bool := true

/-- The part of `PoUWEngine` that the rewards read. -/
structure RewardEngine where
  config : RewardConfig
  computeRegistry : Map Address NodeComputeStats := ∅
  totalStaked : Nat := 0
  nodeStakes : Map Address Nat := ∅
  currentTime : Nat := 0

namespace RewardEngine

def new (config : RewardConfig) : RewardEngine where config

abbrev Call := Attempt RewardEngine SystemContractError

variable (sha256 : List UInt8 → Hash)

def generateOperationId (node : Address) (jobId : JobId) (timestamp : Nat) : Hash :=
  sha256 ("pouw-op-v1:".toUTF8.toList ++ bigEndian 32 node ++ bigEndian 32 jobId ++
    littleEndian 8 timestamp)

def baseReward (config : RewardConfig) (staked epochDurationSecs : Nat) : Nat :=
  mulU128 (mulU128 staked config.baseApyBps) epochDurationSecs / (10000 * (365 * 24 * 60 * 60))

variable (engine : RewardEngine)

def calculateEpochReward (node : Address) (epochDurationSecs : Nat) : Nat :=
  let staked := engine.nodeStakes.get node 0
  if staked = 0 then 0 else
  let base := baseReward engine.config staked epochDurationSecs
  if engine.config.enableComputeWeight = false then base else
  let computeStats := engine.computeRegistry.lookup node
  let multiplier := (computeStats.map (·.computeMultiplierBps)).getD 1000
  let tierBonus := (computeStats.map (·.hardwareTier.tierBonusBps)).getD 0
  mulU128 base (min (multiplier + tierBonus) engine.config.maxComputeMultiplierBps) / 1000

def newRecord (node : Address) (jobId : JobId) (verifiedOps : Nat)
    (teeType : TeeVerificationType) (proofHash : Hash) (hardwareId : String) (zkVerified : Bool) :
    ComputeOperationRecord where
  operationId := generateOperationId sha256 node jobId engine.currentTime
  jobId
  timestamp := engine.currentTime
  verifiedOps
  teeType
  proofHash
  hardwareId
  zkVerified

def registerComputeOperation (node : Address) (jobId : JobId)
    (verifiedOps : Nat) (teeType : TeeVerificationType) (proofHash : Hash) (hardwareId : String)
    (zkVerified : Bool) : RewardEngine :=
  let record := engine.newRecord sha256 node jobId verifiedOps teeType proofHash hardwareId
    zkVerified
  { engine with
    computeRegistry := engine.computeRegistry.update node { node }
      (·.addOperation record engine.currentTime) }

def recordComputeFailure (node : Address) : RewardEngine :=
  { engine with
    computeRegistry := engine.computeRegistry.update node { node }
      (·.recordFailure engine.currentTime) }

def registerStake (node : Address) (amount : Nat) : RewardEngine :=
  { engine with
    nodeStakes := engine.nodeStakes.insert node (addU128 (engine.nodeStakes.get node 0) amount)
    totalStaked := addU128 engine.totalStaked amount }

def reduceStake (node : Address) (amount : Nat) : Call Unit := do
  let engine ← read
  let current := engine.nodeStakes.get node 0
  ensure (amount ≤ current) (.InsufficientStake amount current)
  modify fun engine => { engine with
    nodeStakes := engine.nodeStakes.insert node (current - amount)
    totalStaked := saturatingSub engine.totalStaked amount }

def updateBlock (timestamp : Nat) : RewardEngine :=
  { engine with currentTime := timestamp }

/-- What the reward engine is told. -/
inductive RewardCall
  | registerComputeOperation (node : Address) (jobId : JobId) (verifiedOps : Nat)
      (teeType : TeeVerificationType) (proofHash : Hash) (hardwareId : String) (zkVerified : Bool)
  | recordComputeFailure (node : Address)
  | registerStake (node : Address) (amount : Nat)
  | reduceStake (node : Address) (amount : Nat)
  | updateBlock (timestamp : Nat)

def step : RewardCall → RewardEngine
  | .registerComputeOperation node jobId verifiedOps teeType proofHash hardwareId zkVerified =>
    engine.registerComputeOperation sha256 node jobId verifiedOps teeType proofHash hardwareId
      zkVerified
  | .recordComputeFailure node => engine.recordComputeFailure node
  | .registerStake node amount => engine.registerStake node amount
  | .reduceStake node amount => (reduceStake node amount engine).2
  | .updateBlock timestamp => engine.updateBlock timestamp

def Ordered : RewardCall → Prop
  | .updateBlock timestamp => engine.currentTime ≤ timestamp
  | _ => True

def registered (node : Address) (engine : RewardEngine) : RewardCall → List ComputeOperationRecord
  | .registerComputeOperation worker jobId verifiedOps teeType proofHash hardwareId zkVerified =>
    if worker = node then
      [engine.newRecord sha256 worker jobId verifiedOps teeType proofHash hardwareId zkVerified]
    else []
  | _ => []

def operationsOf (node : Address) : RewardEngine → List RewardCall → List ComputeOperationRecord
  | _, [] => []
  | engine, call :: rest =>
    registered sha256 node engine call ++ operationsOf node (step sha256 engine call) rest

end RewardEngine

end Vm
