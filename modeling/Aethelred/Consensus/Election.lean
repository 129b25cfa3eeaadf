import Aethelred.Go.MapSum
import Aethelred.Lib.Run
import Aethelred.Vm.Types
import Mathlib.Data.Nat.Log

/- The leader election of the consensus crate (`pouw/election.rs`): validators with their stakes and
useful work scores, and the running totals of stake and of weighted stake. -/
namespace Consensus

open Go Attempt
open Vm (addU64 addU128 subU128 saturatingAdd saturatingSub MAX_U64)

/-- 32 bytes. -/
abbrev Address := Fin (2 ^ 256)

inductive UtilityCategory
  | General | Financial | Medical | Scientific | Infrastructure | Environmental | Education
  | Entertainment
  deriving DecidableEq

inductive VerificationMethod
  | TeeAttestation | ZkProof | Hybrid | ReExecution | AiProof
  deriving DecidableEq

section Scores

structure UsefulWorkScore where
  totalUwu : Nat := 0
  uwuByCategory : Map UtilityCategory Nat := ∅
  jobsByMethod : Map VerificationMethod Nat := ∅
  epochScores : Map Nat Nat := ∅
  lastUpdateEpoch : Nat := 0
  totalJobsVerified : Nat := 0
  averageComplexity : Nat := 0
  reputationScore : Nat := 500
  suspiciousFlags : Nat := 0

structure Floats where
  /-- `category_uwu as f64 / total_uwu as f64 > 0.95`. -/
  dominates : Nat → Nat → Bool
  /-- `reexec_jobs as f64 / total_jobs as f64 > 0.9`. -/
  crowds : Nat → Nat → Bool
  /-- The decayed sum over the rolling window, when some epoch of it has a score. -/
  decay : UsefulWorkScore → Nat → Nat
  /-- `(stake as f64 * multiplier) as u128`. -/
  weighted : Nat → Nat → Fin (2 ^ 128)
  /-- `(stake as f64 * multiplier * PRECISION as f64) as u128`. -/
  precise : Nat → Nat → Fin (2 ^ 128)

variable (floats : Floats)

namespace UsefulWorkScore

/-- `*entry(key).or_insert(0) += amount`. -/
def bump {κ : Type} [DecidableEq κ] (counts : Map κ Nat) (key : κ) (amount : Nat) : Map κ Nat :=
  counts.insert key (addU64 (counts.get key 0) amount)

variable (score : UsefulWorkScore)

def addUwu (uwu : Nat) (category : UtilityCategory)
    (method : VerificationMethod) (complexity currentEpoch : Nat) : UsefulWorkScore :=
  let jobs := addU64 score.totalJobsVerified 1
  let totalComplexity := score.averageComplexity * score.totalJobsVerified % 2 ^ 64
  { score with
    totalUwu := min (score.totalUwu + uwu) MAX_U64
    totalJobsVerified := jobs
    uwuByCategory := bump score.uwuByCategory category uwu
    jobsByMethod := bump score.jobsByMethod method 1
    epochScores := bump score.epochScores currentEpoch uwu
    averageComplexity := addU64 totalComplexity complexity / jobs
    lastUpdateEpoch := currentEpoch }

def calculateDecayedScore (currentEpoch rollingWindowEpochs : Nat) : Nat :=
  if score.epochScores.keys.any fun epoch =>
      decide (currentEpoch - rollingWindowEpochs ≤ epoch) && decide (epoch ≤ currentEpoch) then
    floats.decay score currentEpoch
  else 0

/-- The values of a map of `u64` counts together. -/
def values {κ : Type} [DecidableEq κ] (counts : Map κ Nat) : Nat := counts.sum id % 2 ^ 64

def isSuspicious : Bool :=
  decide (3 ≤ score.suspiciousFlags) ||
  (decide (0 < values score.uwuByCategory) && score.uwuByCategory.keys.any fun category =>
    floats.dominates (score.uwuByCategory.get category 0) (values score.uwuByCategory)) ||
  (decide (0 < values score.jobsByMethod) &&
    (score.jobsByMethod.lookup .ReExecution).any fun reexecuted =>
      floats.crowds reexecuted (values score.jobsByMethod))

theorem calculateDecayedScore_default (currentEpoch rollingWindowEpochs : Nat) :
    calculateDecayedScore floats {} currentEpoch rollingWindowEpochs = 0 := rfl

end UsefulWorkScore

end Scores

structure ValidatorInfo where
  address : Address
  stake : Nat
  vrfPubkey : List UInt8 := []
  active : Bool := true
  jailedUntil : Nat := 0
  deriving DecidableEq

structure PoUWConfig where
  minStake : Nat := 1000000000000000000
  rollingWindowEpochs : Nat := 30

inductive ConsensusError
  | InsufficientStake (required actual : Nat)
  | ValidatorNotRegistered (address : Address)
  | SuspiciousActivity (address : Address) (reason : String)
  | NotEligible (address : Address) (reason : String)
  | UsefulWorkScoreMismatch (address : Address) (claimed actual : Nat)
  | MalformedVrfProof (expected actual : Nat)
  | InvalidVrfKey (reason : String)
  | VrfVerificationFailed (reason : String)
  | VrfThresholdNotMet (output : List UInt8) (threshold : Nat)
  deriving DecidableEq

structure PoUWElection where
  config : PoUWConfig
  validators : Map Address ValidatorInfo := ∅
  usefulWorkScores : Map Address UsefulWorkScore := ∅
  totalStake : Nat := 0
  totalWeightedStake : Nat := 0
  thresholdCache : Map Address Nat := ∅
  currentEpoch : Nat := 0
  epochSeed : List UInt8 := List.replicate 32 0

namespace PoUWElection

def new (config : PoUWConfig) : PoUWElection where config

abbrev Call := Attempt PoUWElection ConsensusError

variable (floats : Floats) (election : PoUWElection) (address : Address)

def getUsefulWorkScore : Nat :=
  match election.usefulWorkScores.lookup address with
  | some score =>
    score.calculateDecayedScore floats election.currentEpoch election.config.rollingWindowEpochs
  | none => 0

def weightedStakeInternal (stake score : Nat) : Nat := floats.weighted stake score

def weightOf (info : ValidatorInfo) : Nat :=
  weightedStakeInternal floats info.stake (election.getUsefulWorkScore floats info.address)

def PRECISION : Nat := 1000000

def calculateThreshold (stake score totalWeightedStake : Nat) : Nat :=
  if totalWeightedStake = 0 then 0
  else 2 ^ 256 * (floats.precise stake score : Nat) / (totalWeightedStake * PRECISION)

def getOrComputeThreshold : Call Nat := do
  let election ← read
  match election.thresholdCache.lookup address with
  | some threshold => return threshold
  | none =>
    let info ← okOr (election.validators.lookup address) (.ValidatorNotRegistered address)
    let threshold := calculateThreshold floats info.stake
      (election.getUsefulWorkScore floats address) election.totalWeightedStake
    modify fun election => { election with
      thresholdCache := election.thresholdCache.insert address threshold }
    return threshold

def recalculateWeightedStakes : PoUWElection :=
  { election with
    totalWeightedStake := election.validators.sum (election.weightOf floats) % 2 ^ 128
    thresholdCache := ∅ }

def setCurrentEpoch (epoch : Nat) : PoUWElection :=
  if election.currentEpoch < epoch then
    recalculateWeightedStakes floats { election with currentEpoch := epoch }
  else election

def withoutOld : Nat × Nat :=
  match election.validators.lookup address with
  | some old =>
    (subU128 election.totalStake old.stake,
      subU128 election.totalWeightedStake (weightedStakeInternal floats old.stake
        (election.getUsefulWorkScore floats address)))
  | none => (election.totalStake, election.totalWeightedStake)

def registerValidator (info : ValidatorInfo) : Call Unit := do
  let election ← read
  ensure (election.config.minStake ≤ info.stake)
    (.InsufficientStake election.config.minStake info.stake)
  modify fun election => { election with
    totalStake := addU128 (election.withoutOld floats info.address).1 info.stake
    totalWeightedStake :=
      addU128 (election.withoutOld floats info.address).2 (election.weightOf floats info)
    validators := election.validators.insert info.address info
    usefulWorkScores := election.usefulWorkScores.insert info.address
      (election.usefulWorkScores.get info.address {})
    thresholdCache := ∅ }

def removeValidator : Call Unit := do
  let election ← read
  let _ ← okOr (election.validators.lookup address) (.ValidatorNotRegistered address)
  modify fun election => { election with
    totalStake := (election.withoutOld floats address).1
    totalWeightedStake := (election.withoutOld floats address).2
    validators := election.validators.erase address
    usefulWorkScores := election.usefulWorkScores.erase address
    thresholdCache := election.thresholdCache.erase address }

def updateWeightedStake : Call Unit := do
  let election ← read
  let info ← okOr (election.validators.lookup address) (.ValidatorNotRegistered address)
  let oldScore := election.getUsefulWorkScore floats address
  let newScore := election.getUsefulWorkScore floats address
  modify fun election => { election with
    totalWeightedStake :=
      saturatingAdd
        (saturatingSub election.totalWeightedStake
          (weightedStakeInternal floats info.stake oldScore))
        (weightedStakeInternal floats info.stake newScore) }

def putScore (score : UsefulWorkScore) : PoUWElection :=
  { election with usefulWorkScores := election.usefulWorkScores.insert address score }

/-- `entry(address).or_default()`. -/
def scoreEntry : UsefulWorkScore :=
  election.usefulWorkScores.get address {}

def recordUsefulWork (uwu : Nat) (category : UtilityCategory)
    (method : VerificationMethod) (complexity : Nat) : Call Unit := do
  let election ← read
  let score := election.scoreEntry address
  modify fun election => election.putScore address score
  ensure (score.isSuspicious floats = false)
    (.SuspiciousActivity address "Validator flagged for suspicious activity pattern")
  modify fun election =>
    election.putScore address (score.addUwu uwu category method complexity election.currentEpoch)
  updateWeightedStake floats address
  modify fun election => { election with
    thresholdCache := election.thresholdCache.erase address }

end PoUWElection

end Consensus

/- The totals of the election over runs of registrations, removals, recorded work and epoch changes:
they are the sums over the registered validators as long as recorded work leaves the weight of its
validator as it was. -/
namespace Consensus.PoUWElection

open Go Attempt
open Vm (addU128 subU128 subU128_eq saturatingAdd saturatingSub MAX_U128)

variable (floats : Floats)

/-- What changes an election. -/
inductive ElectionCall
  | registerValidator (info : ValidatorInfo)
  | removeValidator (address : Address)
  | recordUsefulWork (address : Address) (uwu : Nat) (category : UtilityCategory)
      (method : VerificationMethod) (complexity : Nat)
  | setCurrentEpoch (epoch : Nat)

variable (election : PoUWElection)

/-- A refused call may have changed the election too. -/
def step : ElectionCall → PoUWElection
  | .registerValidator info => (registerValidator floats info election).2
  | .removeValidator address => (removeValidator floats address election).2
  | .recordUsefulWork address uwu category method complexity =>
    (recordUsefulWork floats address uwu category method complexity election).2
  | .setCurrentEpoch epoch => election.setCurrentEpoch floats epoch

def oldParts (address : Address) : List (Nat × Nat) :=
  match election.validators.lookup address with
  | some old =>
    [(election.totalStake, old.stake),
      (election.totalWeightedStake, weightedStakeInternal floats old.stake
        (election.getUsefulWorkScore floats address))]
  | none => []

def subtractions : ElectionCall → List (Nat × Nat)
  | .registerValidator info =>
    if election.config.minStake ≤ info.stake then election.oldParts floats info.address else []
  | .removeValidator address => election.oldParts floats address
  | _ => []

def trueWeight : Nat := election.validators.sum (election.weightOf floats)

/-- The totals are the sums over the registered validators, no subtraction underflows, and
thresholds are shares of the true weight. -/
structure Totalled (election : PoUWElection) : Prop where
  stake : election.totalStake = election.validators.sum (·.stake)
  weighted : election.totalWeightedStake = election.trueWeight floats
  covered : ∀ call, ∀ pair ∈ election.subtractions floats call, pair.2 ≤ pair.1
  thresholds : ∀ address info, election.validators.lookup address = some info →
    (getOrComputeThreshold floats address election).1 =
      .ok (calculateThreshold floats info.stake (election.getUsefulWorkScore floats address)
        (election.trueWeight floats))

def worked (address : Address) (uwu : Nat) (category : UtilityCategory)
    (method : VerificationMethod) (complexity : Nat) : PoUWElection :=
  election.putScore address
    ((election.scoreEntry address).addUwu uwu category method complexity election.currentEpoch)

/-- Recorded work leaves the weight of its validator as it was, or the validator has all the weight
there is and gains some; and the totals stay in range. -/
def Steady : ElectionCall → Prop
  | .registerValidator info =>
    election.config.minStake ≤ info.stake →
      Map.sum (election.validators.erase info.address) (·.stake) + info.stake < 2 ^ 128 ∧
      Map.sum (election.validators.erase info.address) (election.weightOf floats) +
        election.weightOf floats info < 2 ^ 128
  | .removeValidator _ => True
  | .recordUsefulWork address uwu category method complexity =>
    (election.scoreEntry address).isSuspicious floats = false →
      ∀ info ∈ election.validators.lookup address,
        (election.worked address uwu category method complexity).weightOf floats info =
            election.weightOf floats info ∨
          election.totalWeightedStake = election.weightOf floats info ∧
          election.weightOf floats info ≤
            (election.worked address uwu category method complexity).weightOf floats info
  | .setCurrentEpoch epoch =>
    election.currentEpoch < epoch → trueWeight floats { election with currentEpoch := epoch } < 2 ^ 128

section Scores

variable {floats} {election : PoUWElection}

theorem getUsefulWorkScore_scoreEntry (address : Address) :
    (election.scoreEntry address).calculateDecayedScore floats election.currentEpoch
      election.config.rollingWindowEpochs = election.getUsefulWorkScore floats address := by
  unfold scoreEntry getUsefulWorkScore Map.get
  cases election.usefulWorkScores.lookup address with
  | none => exact UsefulWorkScore.calculateDecayedScore_default floats _ _
  | some score => rfl

theorem getUsefulWorkScore_putScore_ne {address other : Address} (score : UsefulWorkScore)
    (differ : other ≠ address) :
    (election.putScore address score).getUsefulWorkScore floats other =
      election.getUsefulWorkScore floats other := by
  unfold getUsefulWorkScore putScore
  rw [AList.lookup_insert_ne differ]

theorem getUsefulWorkScore_touch (address other : Address) :
    (election.putScore address (election.scoreEntry address)).getUsefulWorkScore floats other =
      election.getUsefulWorkScore floats other := by
  by_cases same : other = address
  · subst same
    refine Eq.trans ?_ (getUsefulWorkScore_scoreEntry other)
    simp only [getUsefulWorkScore, putScore, AList.lookup_insert]
  · exact getUsefulWorkScore_putScore_ne _ same

theorem weightOf_touch (address : Address) (info : ValidatorInfo) :
    (election.putScore address (election.scoreEntry address)).weightOf floats info =
      election.weightOf floats info := by
  unfold weightOf
  rw [getUsefulWorkScore_touch]

/-- Filed by address, with true totals that fit and nothing cached. -/
structure Kept (floats : Floats) (election : PoUWElection) : Prop where
  keyed : ∀ address info, election.validators.lookup address = some info → info.address = address
  stake : election.totalStake = election.validators.sum (·.stake)
  weighted : election.totalWeightedStake = election.trueWeight floats
  stakeFits : election.totalStake < 2 ^ 128
  weightFits : election.totalWeightedStake < 2 ^ 128
  uncached : election.thresholdCache = ∅

theorem kept_new (config : PoUWConfig) : Kept floats (new config) where
  keyed _ _ present := nomatch present
  stake := rfl
  weighted := rfl
  stakeFits := Nat.two_pow_pos 128
  weightFits := Nat.two_pow_pos 128
  uncached := rfl

section

variable (kept : Kept floats election) {address : Address} {info : ValidatorInfo}
  (present : election.validators.lookup address = some info)
include kept present

theorem Kept.weightOf_eq :
    weightedStakeInternal floats info.stake (election.getUsefulWorkScore floats address) =
      election.weightOf floats info := by
  rw [weightOf, kept.keyed address info present]

theorem Kept.parts :
    info.stake ≤ election.totalStake ∧
      election.weightOf floats info ≤ election.totalWeightedStake := by
  have stake := Map.share_le_sum election.validators address (·.stake)
  have weight := Map.share_le_sum election.validators address (election.weightOf floats)
  rw [present, Map.share_some] at stake weight
  exact ⟨kept.stake ▸ stake, kept.weighted ▸ weight⟩

end

/-- What remains without a validator are the sums over the others. -/
theorem Kept.withoutOld (kept : Kept floats election) (address : Address) :
    election.withoutOld floats address =
      (Map.sum (election.validators.erase address) (·.stake),
        Map.sum (election.validators.erase address) (election.weightOf floats)) := by
  have stake := Map.sum_erase election.validators address (·.stake)
  have weight := Map.sum_erase election.validators address (election.weightOf floats)
  unfold PoUWElection.withoutOld
  cases present : election.validators.lookup address with
  | none =>
    rw [present, Map.share_none, Nat.add_zero] at stake weight
    rw [stake, weight, kept.stake, kept.weighted, trueWeight]
  | some old =>
    have parts := kept.parts present
    have total := kept.stake
    have weighted := kept.weighted
    have stakeFits := kept.stakeFits
    have weightFits := kept.weightFits
    rw [present, Map.share_some] at stake weight
    unfold trueWeight at weighted
    dsimp only
    rw [kept.weightOf_eq present, subU128_eq stakeFits parts.1, subU128_eq weightFits parts.2]
    refine Prod.ext ?_ ?_
    · change election.totalStake - old.stake = _
      omega
    · change election.totalWeightedStake - election.weightOf floats old = _
      omega

/-- Kept totals are true totals. -/
theorem Kept.totalled (kept : Kept floats election) : election.Totalled floats where
  stake := kept.stake
  weighted := kept.weighted
  covered := by
    have covers : ∀ address, ∀ pair ∈ election.oldParts floats address, pair.2 ≤ pair.1 := by
      intro address pair member
      unfold oldParts at member
      cases present : election.validators.lookup address with
      | none =>
        rw [present] at member
        cases member
      | some old =>
        have parts := kept.parts present
        rw [present] at member
        simp only [List.mem_cons, List.not_mem_nil, or_false] at member
        obtain rfl | rfl := member
        · exact parts.1
        · rw [kept.weightOf_eq present]
          exact parts.2
    intro call pair member
    cases call with
    | registerValidator info =>
      simp only [subtractions] at member
      split at member
      · exact covers _ pair member
      · cases member
    | removeValidator address => exact covers address pair member
    | recordUsefulWork address uwu category method complexity => cases member
    | setCurrentEpoch epoch => cases member
  thresholds address info present := by
    simp only [getOrComputeThreshold, read_bind, kept.uncached, AList.lookup_empty, okOr_bind,
      present, ← kept.weighted]
    rfl

def enrolled (floats : Floats) (election : PoUWElection) (info : ValidatorInfo) : PoUWElection :=
  { election with
    totalStake := addU128 (election.withoutOld floats info.address).1 info.stake
    totalWeightedStake :=
      addU128 (election.withoutOld floats info.address).2 (election.weightOf floats info)
    validators := election.validators.insert info.address info
    usefulWorkScores := election.usefulWorkScores.insert info.address
      (election.scoreEntry info.address)
    thresholdCache := ∅ }

theorem registerValidator_eq (info : ValidatorInfo) :
    (registerValidator floats info election).2 =
      if election.config.minStake ≤ info.stake then election.enrolled floats info
      else election := by
  simp only [registerValidator, read_bind, ensure_bind, modify_apply]
  split
  · rfl
  · rfl

/-- An enrolment adds its stake and weight to those of the others. -/
theorem Kept.enrolled (kept : Kept floats election) (info : ValidatorInfo) :
    (election.enrolled floats info).totalStake =
        (Map.sum (election.validators.erase info.address) (·.stake) + info.stake) % 2 ^ 128 ∧
      (election.enrolled floats info).validators.sum (·.stake) =
        Map.sum (election.validators.erase info.address) (·.stake) + info.stake ∧
      (election.enrolled floats info).totalWeightedStake =
        (Map.sum (election.validators.erase info.address) (election.weightOf floats) +
          election.weightOf floats info) % 2 ^ 128 ∧
      (election.enrolled floats info).trueWeight floats =
        Map.sum (election.validators.erase info.address) (election.weightOf floats) +
          election.weightOf floats info := by
  have totals := kept.withoutOld info.address
  have stake := Map.sum_insert election.validators info.address info (·.stake)
  have weight := Map.sum_insert election.validators info.address info (election.weightOf floats)
  have others := Map.sum_erase election.validators info.address (·.stake)
  have weights := Map.sum_erase election.validators info.address (election.weightOf floats)
  have touched : (election.enrolled floats info).trueWeight floats =
      Map.sum (election.validators.insert info.address info) (election.weightOf floats) :=
    Map.sum_congr_on fun _ other _ => weightOf_touch info.address other
  refine ⟨?_, ?_, ?_, ?_⟩
  · exact congrArg (fun parts => addU128 parts.1 info.stake) totals
  · change Map.sum (election.validators.insert info.address info) (·.stake) = _
    omega
  · exact congrArg (fun parts => addU128 parts.2 (election.weightOf floats info)) totals
  · rw [touched]
    omega

variable {info : ValidatorInfo}

theorem Kept.registerValidator (kept : Kept floats election)
    (steady : election.Steady floats (.registerValidator info)) :
    Kept floats (PoUWElection.registerValidator floats info election).2 := by
  rw [registerValidator_eq]
  split
  next enough =>
    obtain ⟨stakeFits, weightFits⟩ := steady enough
    obtain ⟨total, stake, weighted, weight⟩ := kept.enrolled info
    rw [Nat.mod_eq_of_lt stakeFits] at total
    rw [Nat.mod_eq_of_lt weightFits] at weighted
    exact ⟨Map.forall_insert rfl kept.keyed, total.trans stake.symm, weighted.trans weight.symm,
      total ▸ stakeFits, weighted ▸ weightFits, rfl⟩
  · exact kept

/-- A removal keeps the totals. -/
theorem Kept.removeValidator (kept : Kept floats election) (address : Address) :
    Kept floats (PoUWElection.removeValidator floats address election).2 := by
  simp only [PoUWElection.removeValidator, read_bind, okOr_bind, modify_apply]
  cases present : election.validators.lookup address with
  | none => exact kept
  | some old =>
    have totals := kept.withoutOld address
    have stake := Map.sum_erase election.validators address (·.stake)
    have weight := Map.sum_erase election.validators address (election.weightOf floats)
    have total := kept.stake
    have weighted := kept.weighted
    have stakeFits := kept.stakeFits
    have weightFits := kept.weightFits
    unfold trueWeight at weighted
    have keyed : ∀ key info, (election.validators.erase address).lookup key = some info →
        info.address = key ∧ key ≠ address := by
      intro key info found
      by_cases same : key = address
      · rw [same, AList.lookup_erase] at found
        cases found
      · rw [AList.lookup_erase_ne same] at found
        exact ⟨kept.keyed key info found, same⟩
    refine ⟨fun key info found => (keyed key info found).1, ?_, ?_, ?_, ?_, ?_⟩
    · exact congrArg Prod.fst totals
    · refine (congrArg Prod.snd totals).trans (Map.sum_congr_on fun key info found => ?_)
      obtain ⟨atKey, differ⟩ := keyed key info found
      unfold weightOf
      refine congrArg (weightedStakeInternal floats info.stake) ?_
      rw [atKey]
      simp only [getUsefulWorkScore, AList.lookup_erase_ne differ]
    · change (election.withoutOld floats address).1 < _
      rw [totals]
      dsimp only
      omega
    · change (election.withoutOld floats address).2 < _
      rw [totals]
      dsimp only
      omega
    · change election.thresholdCache.erase address = ∅
      rw [kept.uncached]
      rfl

theorem putScore_putScore (address : Address) (first second : UsefulWorkScore) :
    (election.putScore address first).putScore address second =
      election.putScore address second := by
  unfold PoUWElection.putScore
  simp only [AList.insert_insert]

variable {address : Address}

theorem updateWeightedStake_absent (absent : election.validators.lookup address = none) :
    updateWeightedStake floats address election =
      (.error (.ValidatorNotRegistered address), election) := by
  simp only [updateWeightedStake, read_bind, okOr_bind, absent]

theorem updateWeightedStake_present (present : election.validators.lookup address = some info) :
    updateWeightedStake floats address election =
      (.ok (), { election with
        totalWeightedStake :=
          saturatingAdd (saturatingSub election.totalWeightedStake
            (weightedStakeInternal floats info.stake (election.getUsefulWorkScore floats address)))
            (weightedStakeInternal floats info.stake
              (election.getUsefulWorkScore floats address)) }) := by
  simp only [updateWeightedStake, read_bind, okOr_bind, present, modify_apply]

def retotalled (election : PoUWElection) (address : Address) (weighted : Nat) : PoUWElection :=
  { election with
    totalWeightedStake := weighted
    thresholdCache := election.thresholdCache.erase address }

section Record

variable (address : Address) (uwu : Nat) (category : UtilityCategory)
  (method : VerificationMethod) (complexity : Nat)

theorem recordUsefulWork_suspicious
    (suspicious : (election.scoreEntry address).isSuspicious floats = true) :
    (recordUsefulWork floats address uwu category method complexity election).2 =
      election.putScore address (election.scoreEntry address) := by
  simp only [recordUsefulWork, read_bind, modify_bind, ensure_bind, suspicious, Bool.true_eq_false,
    ↓reduceIte]

theorem recordUsefulWork_trusted
    (trusted : (election.scoreEntry address).isSuspicious floats = false) :
    recordUsefulWork floats address uwu category method complexity election =
      (updateWeightedStake floats address >>= fun _ => modify fun election =>
        { election with thresholdCache := election.thresholdCache.erase address })
        (election.worked address uwu category method complexity) := by
  simp only [recordUsefulWork, read_bind, modify_bind, ensure_bind, trusted, ↓reduceIte,
    putScore_putScore]
  rfl

/-- A report is refused, about a stranger, or counted. -/
theorem recordUsefulWork_cases (fits : election.totalWeightedStake < 2 ^ 128) :
    (recordUsefulWork floats address uwu category method complexity election).2 =
        election.putScore address (election.scoreEntry address) ∧
      (election.scoreEntry address).isSuspicious floats = true ∨
    (election.scoreEntry address).isSuspicious floats = false ∧
      ((recordUsefulWork floats address uwu category method complexity election).2 =
          election.worked address uwu category method complexity ∧
        election.validators.lookup address = none ∨
      ∃ info, election.validators.lookup address = some info ∧
        (recordUsefulWork floats address uwu category method complexity election).2 =
          retotalled (election.worked address uwu category method complexity) address
            (max election.totalWeightedStake
              (weightedStakeInternal floats info.stake ((election.worked address uwu category method
                complexity).getUsefulWorkScore floats address)))) := by
  by_cases trusted : (election.scoreEntry address).isSuspicious floats = false
  · refine .inr ⟨trusted, ?_⟩
    rw [recordUsefulWork_trusted address uwu category method complexity trusted]
    cases present : election.validators.lookup address with
    | none =>
      have absent : (election.worked address uwu category method complexity).validators.lookup
          address = none := present
      rw [bind_of_error (updateWeightedStake_absent absent)]
      exact .inl ⟨rfl, rfl⟩
    | some info =>
      have found : (election.worked address uwu category method complexity).validators.lookup
          address = some info := present
      refine .inr ⟨info, rfl, ?_⟩
      rw [bind_of_ok (updateWeightedStake_present found), modify_apply]
      have bound := (floats.weighted info.stake ((election.worked address uwu category method
        complexity).getUsefulWorkScore floats address)).isLt
      have total : ∀ weight, weight < 2 ^ 128 →
          saturatingAdd (saturatingSub election.totalWeightedStake weight) weight =
            max election.totalWeightedStake weight := by
        intro weight small
        simp only [saturatingAdd, saturatingSub, MAX_U128]
        omega
      exact congrArg (retotalled (election.worked address uwu category method complexity) address)
        (total _ bound)
  · have suspicious := Bool.eq_true_of_not_eq_false trusted
    exact .inl ⟨recordUsefulWork_suspicious address uwu category method complexity suspicious,
      suspicious⟩

end Record

section

variable (kept : Kept floats election)
include kept

theorem Kept.trueWeight_putScore (present : election.validators.lookup address = some info)
    (score : UsefulWorkScore) :
    (election.putScore address score).trueWeight floats + election.weightOf floats info =
      election.totalWeightedStake + (election.putScore address score).weightOf floats info := by
  have before := Map.sum_erase election.validators address (election.weightOf floats)
  have after := Map.sum_erase election.validators address
    ((election.putScore address score).weightOf floats)
  have weighted := kept.weighted
  have others : Map.sum (election.validators.erase address)
      ((election.putScore address score).weightOf floats) =
      Map.sum (election.validators.erase address) (election.weightOf floats) := by
    refine Map.sum_congr_on fun key other found => ?_
    have differ : key ≠ address := by
      rintro rfl
      rw [AList.lookup_erase] at found
      cases found
    rw [AList.lookup_erase_ne differ] at found
    unfold weightOf
    rw [kept.keyed key other found, getUsefulWorkScore_putScore_ne score differ]
  rw [present, Map.share_some] at before after
  unfold trueWeight at weighted ⊢
  change Map.sum election.validators _ + _ = _
  omega

theorem Kept.putScore_absent (absent : election.validators.lookup address = none)
    (score : UsefulWorkScore) : Kept floats (election.putScore address score) := by
  refine ⟨kept.keyed, kept.stake, kept.weighted.trans ?_, kept.stakeFits, kept.weightFits,
    kept.uncached⟩
  refine Map.sum_congr_on fun key info present => ?_
  have differ : key ≠ address := by
    rintro rfl
    rw [absent] at present
    cases present
  unfold weightOf
  rw [kept.keyed key info present, getUsefulWorkScore_putScore_ne score differ]

theorem Kept.touch (address : Address) :
    Kept floats (election.putScore address (election.scoreEntry address)) :=
  ⟨kept.keyed, kept.stake,
    kept.weighted.trans (Map.sum_congr_on fun _ info _ => (weightOf_touch address info).symm),
    kept.stakeFits, kept.weightFits, kept.uncached⟩

/-- A steady report keeps the totals. -/
theorem Kept.recordUsefulWork {uwu : Nat} {category : UtilityCategory} {method : VerificationMethod}
    {complexity : Nat} (steady : election.Steady floats
      (.recordUsefulWork address uwu category method complexity)) :
    Kept floats (PoUWElection.recordUsefulWork floats address uwu category method complexity
      election).2 := by
  obtain ⟨done, -⟩ | ⟨trusted, ⟨done, absent⟩ | ⟨info, present, done⟩⟩ :=
    recordUsefulWork_cases address uwu category method complexity kept.weightFits
  · rw [done]
    exact kept.touch address
  · rw [done]
    exact kept.putScore_absent absent _
  · have moved := kept.trueWeight_putScore present ((election.scoreEntry address).addUwu uwu
      category method complexity election.currentEpoch)
    have part := (kept.parts present).2
    have fits := kept.weightFits
    have cleared : election.thresholdCache.erase address = ∅ := by
      rw [kept.uncached]
      rfl
    have weight : weightedStakeInternal floats info.stake ((election.worked address uwu category
        method complexity).getUsefulWorkScore floats address) =
        (election.worked address uwu category method complexity).weightOf floats info := by
      rw [weightOf, kept.keyed address info present]
    have small : (election.worked address uwu category method complexity).weightOf floats info
        < 2 ^ 128 := Fin.isLt _
    have same := steady trusted info present
    rw [done, weight]
    change _ = _ ∨ _ at same
    change (election.worked address uwu category method complexity).trueWeight floats + _ =
      _ + (election.worked address uwu category method complexity).weightOf floats info at moved
    change (election.worked address uwu category method complexity).weightOf floats info = _ ∨ _
      at same
    refine ⟨kept.keyed, kept.stake, ?_, kept.stakeFits, ?_, cleared⟩
    · change max _ _ = (election.worked address uwu category method complexity).trueWeight floats
      omega
    · change max _ _ < _
      omega

theorem Kept.setCurrentEpoch {epoch : Nat}
    (steady : election.Steady floats (.setCurrentEpoch epoch)) :
    Kept floats (election.setCurrentEpoch floats epoch) := by
  unfold PoUWElection.setCurrentEpoch
  split
  next later =>
    have fits := steady later
    exact ⟨kept.keyed, kept.stake, Nat.mod_eq_of_lt fits, kept.stakeFits,
      Nat.mod_lt _ (Nat.two_pow_pos 128), rfl⟩
  · exact kept

end

theorem kept_step (election : PoUWElection) (call : ElectionCall)
    (steady : election.Steady floats call) (kept : Kept floats election) :
    Kept floats (election.step floats call) := by
  cases call with
  | registerValidator info => exact kept.registerValidator steady
  | removeValidator address => exact kept.removeValidator address
  | recordUsefulWork address uwu category method complexity => exact kept.recordUsefulWork steady
  | setCurrentEpoch epoch => exact kept.setCurrentEpoch steady

/-- A step that leaves the totals true was steady. -/
theorem Kept.steady_of_totalled (kept : Kept floats election) (call : ElectionCall)
    (totalled : (election.step floats call).Totalled floats) : election.Steady floats call := by
  have stake := totalled.stake
  have weighted := totalled.weighted
  cases call with
  | registerValidator info =>
    intro enough
    obtain ⟨total, sum, weightTotal, weight⟩ := kept.enrolled info
    have done : election.step floats (.registerValidator info) = election.enrolled floats info :=
      (registerValidator_eq info).trans (if_pos enough)
    rw [done] at stake weighted
    have positive : 0 < 2 ^ 128 := Nat.two_pow_pos 128
    refine ⟨?_, ?_⟩
    · rw [← sum, ← stake, total]
      exact Nat.mod_lt _ positive
    · rw [← weight, ← weighted, weightTotal]
      exact Nat.mod_lt _ positive
  | removeValidator address => trivial
  | recordUsefulWork address uwu category method complexity =>
    intro trusted info present
    obtain ⟨-, suspicious⟩ | ⟨-, ⟨-, absent⟩ | ⟨found, there, done⟩⟩ :=
      recordUsefulWork_cases address uwu category method complexity kept.weightFits
    · rw [trusted] at suspicious
      cases suspicious
    · rw [Option.mem_def, absent] at present
      cases present
    · cases present.symm.trans there
      have moved := kept.trueWeight_putScore there ((election.scoreEntry address).addUwu uwu
        category method complexity election.currentEpoch)
      have part := (kept.parts there).2
      have weight : weightedStakeInternal floats info.stake ((election.worked address uwu category
          method complexity).getUsefulWorkScore floats address) =
          (election.worked address uwu category method complexity).weightOf floats info := by
        rw [weightOf, kept.keyed address info there]
      change (PoUWElection.recordUsefulWork floats address uwu category method complexity
        election).2.totalWeightedStake = (PoUWElection.recordUsefulWork floats address uwu category
          method complexity election).2.trueWeight floats at weighted
      rw [done, weight] at weighted
      change max _ _ = (election.worked address uwu category method complexity).trueWeight floats
        at weighted
      change (election.worked address uwu category method complexity).trueWeight floats + _ =
        _ + (election.worked address uwu category method complexity).weightOf floats info at moved
      omega
  | setCurrentEpoch epoch =>
    intro later
    have done : election.step floats (.setCurrentEpoch epoch) =
        recalculateWeightedStakes floats { election with currentEpoch := epoch } := if_pos later
    rw [done] at weighted
    change _ % _ = trueWeight floats { election with currentEpoch := epoch } at weighted
    rw [← weighted]
    exact Nat.mod_lt _ (Nat.two_pow_pos 128)

end Scores

/-- The totals are true in every state of a run exactly if all its steps are steady. -/
theorem totalled_iff_steady (config : PoUWConfig) (calls : List ElectionCall) :
    (∀ first, first <+: calls →
        (Run.exec (step floats) (new config) first).Totalled floats) ↔
      Run.Along (step floats) (Steady floats) (new config) calls :=
  Run.forall_prefix_iff kept_step (fun _ kept => kept.totalled)
    (fun _ call kept totalled => kept.steady_of_totalled call totalled) (kept_new config) calls

/-- The factor `1 + log₁₀(1 + score) / 6` in sixths, at most 5.0: exact where `1 + score` is a power
of ten, and that of the power below elsewhere. -/
def sampleMultiplier (score : Nat) : Nat := min 30 (6 + Nat.log 10 (1 + score))

def sampleFloats : Floats where
  dominates part whole := decide (95 * whole < 100 * part)
  crowds part whole := decide (9 * whole < 10 * part)
  decay score epoch := score.epochScores.get epoch 0
  weighted stake score := Fin.ofNat (2 ^ 128) (stake * sampleMultiplier score / 6)
  precise stake score := Fin.ofNat (2 ^ 128) (stake * sampleMultiplier score * PRECISION / 6)

def sampleCalls : List ElectionCall :=
  [.registerValidator { address := 1, stake := 10 },
    .registerValidator { address := 2, stake := 10 },
    .recordUsefulWork 1 999999 .General .TeeAttestation 1]

/-- Work of a million less one gives the first validator twice its weight, 20, and the total stays
20. -/
theorem not_totalled_sampleCalls :
    ¬(Run.exec (step sampleFloats) (new { minStake := 1 }) sampleCalls).Totalled sampleFloats := by
  intro totalled
  have total := totalled.weighted
  revert total
  decide +kernel

end Consensus.PoUWElection
