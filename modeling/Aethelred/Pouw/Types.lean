import Aethelred.Go.RangeOrder
import Aethelred.Go.Hex
import Aethelred.Go.Int64

namespace Aethelred.Pouw

open Go

inductive JobStatus where
  | unspecified
  | pending
  | processing
  | completed
  | failed
  | expired
  /-- A wire value outside the enumeration. -/
  | unknown (code : Int)
deriving DecidableEq

inductive ProofType where
  | unspecified
  | tee
  | zkml
  | hybrid
  | reexecution
  | aiProof
  | unknown (code : Int)
deriving DecidableEq

structure VerificationResult where
  validatorAddress : String
  outputHash : Bytes
  attestationType : String
  teePlatform : String
  attestationData : Bytes
  executionTimeMs : Int
  success : Bool
  errorMessage : String := ""
  uwuContribution : Nat := 0

/-- A compute job. Wall-clock fields that nothing reads back are left out; `completedAt`
is the time a completion was recorded, if one was. -/
structure ComputeJob where
  id : String
  modelHash : Bytes
  inputHash : Bytes
  outputHash : Bytes := []
  requestedBy : String
  proofType : ProofType
  purpose : String
  status : JobStatus
  completedAt : Option Int := none
  sealId : String := ""
  verificationResults : List VerificationResult := []
  metadata : Map String String := ∅
  priority : Int := 0
  blockHeight : Int := 0
  usefulWorkUnits : Nat := 0

structure RegisteredModel where
  modelHash : Bytes
  modelId : String
  name : String
  owner : String
  baseUwuValue : Nat := 0

structure ValidatorStats where
  validatorAddress : String
  totalJobsProcessed : Int
  successfulJobs : Int
  failedJobs : Int
  averageExecutionTimeMs : Int
  reputationScore : Int
  slashingEvents : Int

structure ValidatorCapability where
  address : String
  teePlatforms : List String
  zkmlSystems : List String
  maxConcurrentJobs : Int
  currentJobs : Int
  isOnline : Bool
  reputationScore : Int
deriving DecidableEq

structure Params where
  minValidators : Int
  consensusThreshold : Int
  jobTimeoutBlocks : Int
  baseJobFee : String
  verificationReward : String
  slashingPenalty : String
  maxJobsPerBlock : Int
  allowSimulated : Bool
  voteExtensionMaxPastSkewSecs : Int
  voteExtensionMaxFutureSkewSecs : Int

def Params.default : Params where
  minValidators := 3
  consensusThreshold := 67
  jobTimeoutBlocks := 100
  baseJobFee := "1000uaethel"
  verificationReward := "100uaethel"
  slashingPenalty := "10000uaethel"
  maxJobsPerBlock := 10
  allowSimulated := false
  voteExtensionMaxPastSkewSecs := 600
  voteExtensionMaxFutureSkewSecs := 60

inductive RevocationStatus where
  | pending
  | executed
deriving DecidableEq

structure TrustedMeasurementRevocationState where
  requestID : String
  platform : String
  measurementHex : String
  requestedBy : String
  approvals : List String
  approvalThreshold : Nat
  status : RevocationStatus
  createdAtHeight : Int
  executedAtHeight : Int := 0

structure TEEAttestation where
  validatorAddress : String
  platform : String
  quote : Bytes

inductive SealStatus where
  | pending
  | active
  | revoked
deriving DecidableEq

structure DigitalSeal where
  id : String
  modelCommitment : Bytes
  inputCommitment : Bytes
  outputCommitment : Bytes
  blockHeight : Int
  requestedBy : String
  purpose : String
  status : SealStatus
  teeAttestations : List TEEAttestation := []
  validatorSet : List String := []

/-- The module's collections, and those of the seal keeper it calls. -/
structure Keeper where
  jobs : Map String ComputeJob := ∅
  pendingJobs : Map String ComputeJob := ∅
  registeredModels : Map String RegisteredModel := ∅
  validatorStats : Map String ValidatorStats := ∅
  validatorCapabilities : Map String ValidatorCapability := ∅
  validatorPCR0Mappings : Map String String := ∅
  registeredPCR0Set : Finset String := ∅
  validatorMeasurements : Map String String := ∅
  registeredMeasurements : Finset String := ∅
  trustedMeasurementRevocations : Map String TrustedMeasurementRevocationState := ∅
  jobCount : Option Nat := none
  params : Option Params := none
  seals : Map String DigitalSeal := ∅
  sealCount : Option Nat := none

/-- Parameters, or the defaults when none were stored. -/
def Keeper.getParams (k : Keeper) : Params := k.params.getD Params.default

/-- Account and operator addresses in their bech32 form. -/
structure AddressCodec where
  accAddressFromBech32 : String → Option Bytes
  valAddressFromBech32 : String → Option Bytes
  accAddressString : Bytes → String

inductive BondStatus where
  | unbonded
  | unbonding
  | bonded
deriving DecidableEq

structure StakingValidator where
  operator : String
  status : BondStatus
  tokens : Nat

def StakingValidator.bondedTokens (v : StakingValidator) : Nat :=
  if v.status = .bonded then v.tokens else 0

/- The share of votes or power that a decision needs. -/

/-- ⌈total · threshold / 100⌉ in 64-bit arithmetic, and never more than the total. -/
def requiredThresholdCount (total threshold : Int) : Int :=
  if total ≤ 0 ∨ threshold ≤ 0 then 0
  else if threshold ≥ 100 then total
  else
    let numerator := Int64.wrap (Int64.wrap (total * threshold) + 99)
    let required := numerator.tdiv 100
    if required > total then total else required

/-- The same share without a bound on the numbers. -/
def exactThreshold (total threshold : Int) : Int :=
  if threshold ≥ 100 then total else (total * threshold + 99) / 100

theorem requiredThresholdCount_exact {total threshold : Int} (positive : 0 ≤ total)
    (share : 0 < threshold) (fits : Int64.Fits (total * threshold + 99)) :
    requiredThresholdCount total threshold = exactThreshold total threshold := by
  unfold requiredThresholdCount exactThreshold
  by_cases whole : threshold ≥ 100
  · by_cases none : total ≤ 0
    · simp only [none, true_or, ↓reduceIte, whole]
      omega
    · rw [if_neg (by omega), if_pos whole, if_pos whole]
  · rw [if_neg whole, if_neg whole, Int64.wrap_wrap_add, Int64.wrap_of_fits fits]
    have product : 0 ≤ total * threshold := Int.mul_nonneg positive (by omega)
    have upper : total * threshold ≤ total * 99 := Int.mul_le_mul_of_nonneg_left (by omega) positive
    by_cases none : total ≤ 0
    · have zero : total = 0 := by omega
      simp [zero]
    · rw [if_neg (by omega)]
      dsimp only
      rw [Int.tdiv_eq_ediv_of_nonneg (by omega), if_neg (by omega)]

end Aethelred.Pouw
