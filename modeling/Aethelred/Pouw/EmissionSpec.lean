import Aethelred.Pouw.FeeBreakdown
import Aethelred.Pouw.Vesting

/- The schedule of yearly emissions. -/
namespace Pouw

open Go SafeMath List Except Option Int

inductive EmissionDecayModel where
  | linear
  | exponential
  | step
  /-- Any other text. -/
  | other (text : String)
deriving DecidableEq

structure EmissionConfig where
  initialInflationBps : I64
  targetInflationBps : I64
  decayModel : EmissionDecayModel
  decayPeriodYears : I64
  maxSupplyCap : I64
  stakingTargetBps : I64
  securityBudgetFloorBps : I64

inductive EmissionError where
  | initialOutOfRange (bps : Int)
  | targetOutOfRange (initial bps : Int)
  | unknownDecayModel (model : EmissionDecayModel)
  | decayPeriodOutOfRange (years : Int)
  | fixedSupplyInflation
  | fixedSupplyCap (supply cap : Int)
  | fixedSupplyFloor (bps : Int)
  | stakingTargetOutOfRange (bps : Int)
  | securityFloorOutOfRange (initial bps : Int)
deriving DecidableEq

def validateFixedSupply (config : EmissionConfig) : Except EmissionError Unit :=
  if config.initialInflationBps.val = 0 ∨ config.targetInflationBps.val = 0 then
    if config.initialInflationBps.val ≠ 0 ∨ config.targetInflationBps.val ≠ 0 then
      .error .fixedSupplyInflation
    else if config.maxSupplyCap.val ≠ initialSupplyUAETHEL then
      .error (.fixedSupplyCap initialSupplyUAETHEL config.maxSupplyCap.val)
    else if config.securityBudgetFloorBps.val ≠ 0 then
      .error (.fixedSupplyFloor config.securityBudgetFloorBps.val)
    else .ok ()
  else .ok ()

def validateEmissionConfig (config : EmissionConfig) : Except EmissionError Unit :=
  if config.initialInflationBps.val < 0 ∨ config.initialInflationBps.val > 2000 then
    .error (.initialOutOfRange config.initialInflationBps.val)
  else if config.targetInflationBps.val < 0 ∨
      config.targetInflationBps.val > config.initialInflationBps.val then
    .error (.targetOutOfRange config.initialInflationBps.val config.targetInflationBps.val)
  else if config.decayModel ≠ .linear ∧ config.decayModel ≠ .exponential ∧
      config.decayModel ≠ .step then
    .error (.unknownDecayModel config.decayModel)
  else if config.decayPeriodYears.val < 2 ∨ config.decayPeriodYears.val > 20 then
    .error (.decayPeriodOutOfRange config.decayPeriodYears.val)
  else do
    validateFixedSupply config
    if config.stakingTargetBps.val < 2000 ∨ config.stakingTargetBps.val > 9000 then
      .error (.stakingTargetOutOfRange config.stakingTargetBps.val)
    else if config.securityBudgetFloorBps.val < 0 ∨
        config.securityBudgetFloorBps.val > config.initialInflationBps.val then
      .error (.securityFloorOutOfRange config.initialInflationBps.val
        config.securityBudgetFloorBps.val)
    else .ok ()

def halve (bps : Int) : Int := (Int64.wrap (bps + 1)).tdiv 2

def halvings (bps : Int) : Nat → Int
  | 0 => bps
  | count + 1 => halve (halvings bps count)

def computeInflationForYear (config : EmissionConfig) (year : Int) : Int :=
  let initial := config.initialInflationBps.val
  let target := config.targetInflationBps.val
  let period := config.decayPeriodYears.val
  match config.decayModel with
  | .linear =>
    if year ≥ period then target
    else
      let reduction := (Int64.wrap (Int64.wrap (initial - target) * year)).tdiv period
      Int64.wrap (initial - reduction)
  | .exponential =>
    let q := year.tdiv period
    let r := year.tmod period
    let bpsAfterHalvings := halvings initial q.toNat
    let bpsNextHalving := halve bpsAfterHalvings
    let interpolated := Int64.wrap (bpsAfterHalvings -
      (Int64.wrap (Int64.wrap (bpsAfterHalvings - bpsNextHalving) * r)).tdiv period)
    if interpolated < target then target else interpolated
  | .step =>
    let stepSize := if period.tdiv 3 < 1 then 1 else period.tdiv 3
    let steps := year.tdiv stepSize
    let reduction := (Int64.wrap (steps * Int64.wrap (initial - target))).tdiv 4
    let result := Int64.wrap (initial - reduction)
    if result < target then target else result
  | .other _ => target

/-- The year with its rate, what is minted in it and the supply behind it. -/
structure EmissionScheduleEntry where
  year : Int
  inflationBps : Int
  annualEmission : Int
  cumulativeSupply : Int
deriving DecidableEq

def capSupply (maxSupplyCap emission supply : Int) : Int × Int :=
  if maxSupplyCap > 0 ∧ supply > maxSupplyCap then
    (emission - (supply - maxSupplyCap), maxSupplyCap)
  else (emission, supply)

def mainnetFeeDistribution : FeeDistributionConfig where
  validatorRewardBps := .ofInt 4000
  treasuryBps := .ofInt 3000
  burnBps := .ofInt 2000
  insuranceFundBps := .ofInt 1000

/-- The bytes of an entry, and the most that can be asked for at once. -/
def entrySize : Int := 48
def maxAlloc : Int := 2 ^ 48

/-- One turn of the loop, which ends early on an error or on an amount of more than 64 bits. -/
def emissionForYear (config : EmissionConfig) (supply year : Int) : Option EmissionScheduleEntry := do
  let inflationBps := computeInflationForYear config year
  let emission ← (safeBpsMultiply supply inflationBps).toOption
  let supply ← (safeAdd supply emission).toOption
  let capped := capSupply config.maxSupplyCap.val emission supply
  let _ ← (safeBpsMultiply capped.1 mainnetFeeDistribution.validatorRewardBps.val).toOption
  let _ ← (safeBpsMultiply capped.2 config.stakingTargetBps.val).toOption
  if Int64.Fits capped.1 ∧ Int64.Fits capped.2 then
    some { year, inflationBps, annualEmission := capped.1, cumulativeSupply := capped.2 }
  else none

def emissionYears (config : EmissionConfig) : Nat → (year supply : Int) → List EmissionScheduleEntry
  | 0, _, _ => []
  | count + 1, year, supply =>
    match emissionForYear config supply year with
    | none => []
    | some entry => entry :: emissionYears config count (year + 1) entry.cumulativeSupply

/-- The schedule, or a panic where the array cannot be made. -/
def computeEmissionSchedule (config : EmissionConfig) (years : Int) :
    Except Fault (List EmissionScheduleEntry) :=
  if years < 0 ∨ entrySize * years > maxAlloc then .error (.panic "makeslice: cap out of range")
  else .ok (emissionYears config years.toNat 1 initialSupplyUAETHEL)

/- What the schedules release and emit. -/

/-- What `ValidateEmissionConfig` makes sure of. -/
structure EmissionConfig.Valid (config : EmissionConfig) : Prop where
  initial : config.initialInflationBps.val ≤ 2000
  target : 0 ≤ config.targetInflationBps.val
  ordered : config.targetInflationBps.val ≤ config.initialInflationBps.val
  model : config.decayModel = .linear ∨ config.decayModel = .exponential ∨ config.decayModel = .step
  period : 2 ≤ config.decayPeriodYears.val ∧ config.decayPeriodYears.val ≤ 20
  staking : 0 ≤ config.stakingTargetBps.val ∧ config.stakingTargetBps.val ≤ 9000

theorem valid_of_validateEmissionConfig {config : EmissionConfig}
    (accepted : validateEmissionConfig config = .ok ()) : config.Valid := by
  unfold validateEmissionConfig at accepted
  simp only [ite_error_eq_ok, bind_unit_eq_ok] at accepted
  obtain ⟨initial, target, model, period, _, staking, _⟩ := accepted
  refine ⟨by omega, by omega, by omega, ?_, by omega, by omega⟩
  by_contra unknown
  simp only [not_or] at unknown
  exact model unknown

section Inflation

variable {config : EmissionConfig}

def lastYear : Int := 2 ^ 48

theorem halve_bounds {bps : Int} (lower : 0 ≤ bps) (upper : bps ≤ 2000) :
    halve bps = (bps + 1) / 2 ∧ 0 ≤ halve bps ∧ halve bps ≤ bps := by
  have exact : halve bps = (bps + 1) / 2 := by
    rw [halve, Int64.wrap_of_fits ⟨by omega, by omega⟩, tdiv_eq_ediv_of_nonneg (by omega)]
  omega

theorem halvings_bounds {bps : Int} (lower : 0 ≤ bps) (upper : bps ≤ 2000) (count : Nat) :
    0 ≤ halvings bps count ∧ halvings bps count ≤ bps := by
  induction count with
  | zero => exact ⟨lower, le_refl bps⟩
  | succ count ih =>
    have half := halve_bounds ih.1 (by omega)
    rw [halvings]
    omega

theorem reduction_eq {whole part period : Int} (whole_nonneg : 0 ≤ whole) (small : whole ≤ 2000)
    (part_nonneg : 0 ≤ part) (early : part ≤ period) (bounded : period ≤ 20) (positive : 0 < period) :
    (Int64.wrap (Int64.wrap whole * part)).tdiv period = whole * part / period ∧
      0 ≤ whole * part / period ∧ whole * part / period ≤ whole := by
  have product : 0 ≤ whole * part := mul_nonneg whole_nonneg part_nonneg
  have upper : whole * part ≤ 2000 * 20 :=
    mul_le_mul small (by omega) part_nonneg (by decide)
  refine ⟨?_, ediv_nonneg product (by omega), ?_⟩
  · rw [Int64.wrap_of_fits (x := whole) ⟨by omega, by omega⟩,
      Int64.wrap_of_fits (x := whole * part) ⟨by omega, by omega⟩,
      tdiv_eq_ediv_of_nonneg product]
  · apply Int.ediv_le_of_le_mul positive
    exact Int.mul_le_mul_of_nonneg_left early whole_nonneg

def exactInflation (config : EmissionConfig) (year : Int) : Int :=
  let initial := config.initialInflationBps.val
  let target := config.targetInflationBps.val
  let period := config.decayPeriodYears.val
  match config.decayModel with
  | .linear => if year ≥ period then target else initial - (initial - target) * year / period
  | .exponential =>
    let rate := halvings initial (year / period).toNat
    max target (rate - (rate - halve rate) * (year % period) / period)
  | .step =>
    max target (initial - year / (max 1 (period / 3)) * (initial - target) / 4)
  | .other _ => target

/-- The rate has no rounding or wrap beyond the specified one. -/
theorem computeInflationForYear_eq (valid : config.Valid) {year : Int} (positive : 0 ≤ year)
    (early : year ≤ lastYear) : computeInflationForYear config year = exactInflation config year := by
  have initial := valid.initial
  have target := valid.target
  have ordered := valid.ordered
  have period := valid.period
  unfold computeInflationForYear exactInflation
  rcases valid.model with model | model | model
  · rw [model]
    dsimp only
    by_cases late : year ≥ config.decayPeriodYears.val
    · rw [if_pos late, if_pos late]
    · have reduction := reduction_eq (show 0 ≤ config.initialInflationBps.val -
        config.targetInflationBps.val by omega) (by omega) positive (by omega) period.2 (by omega)
      rw [if_neg late, if_neg late, reduction.1, Int64.wrap_of_fits ⟨by omega, by omega⟩]
  · rw [model]
    dsimp only
    rw [tdiv_eq_ediv_of_nonneg positive, tmod_eq_emod_of_nonneg positive]
    have rate := halvings_bounds (target.trans ordered) initial
      (year / config.decayPeriodYears.val).toNat
    generalize halvings config.initialInflationBps.val
      (year / config.decayPeriodYears.val).toNat = bps at rate ⊢
    have half := halve_bounds rate.1 (by omega)
    have rest := emod_nonneg year (show config.decayPeriodYears.val ≠ 0 by omega)
    have less := emod_lt_of_pos year (show 0 < config.decayPeriodYears.val by omega)
    have reduction := reduction_eq (show 0 ≤ bps - halve bps by omega) (by omega) rest less.le
      period.2 (by omega)
    rw [reduction.1, Int64.wrap_of_fits ⟨by omega, by omega⟩]
    split <;> omega
  · rw [model]
    dsimp only
    rw [tdiv_eq_ediv_of_nonneg (show 0 ≤ config.decayPeriodYears.val by omega)]
    have size : (if config.decayPeriodYears.val / 3 < 1 then 1 else config.decayPeriodYears.val / 3) =
        max 1 (config.decayPeriodYears.val / 3) := by
      split <;> omega
    rw [size, tdiv_eq_ediv_of_nonneg positive]
    have steps : 0 ≤ year / max 1 (config.decayPeriodYears.val / 3) :=
      ediv_nonneg positive (by omega)
    have fewer : year / max 1 (config.decayPeriodYears.val / 3) ≤ year :=
      ediv_le_self _ positive
    generalize year / max 1 (config.decayPeriodYears.val / 3) = count at steps fewer ⊢
    have product : 0 ≤ count * (config.initialInflationBps.val - config.targetInflationBps.val) :=
      mul_nonneg steps (by omega)
    have upper : count * (config.initialInflationBps.val - config.targetInflationBps.val) ≤
        lastYear * 2000 :=
      mul_le_mul (fewer.trans early) (by omega) (by omega) (by decide)
    unfold lastYear at upper
    rw [Int64.wrap_of_fits (x := config.initialInflationBps.val - config.targetInflationBps.val)
        ⟨by omega, by omega⟩,
      Int64.wrap_of_fits (x := count * (config.initialInflationBps.val -
        config.targetInflationBps.val)) ⟨by omega, by omega⟩,
      tdiv_eq_ediv_of_nonneg product, Int64.wrap_of_fits ⟨by omega, by omega⟩]
    split <;> omega

/-- The rate lies between target and start. -/
theorem exactInflation_bounds (valid : config.Valid) {year : Int} (positive : 0 ≤ year) :
    config.targetInflationBps.val ≤ exactInflation config year ∧
      exactInflation config year ≤ config.initialInflationBps.val := by
  have initial := valid.initial
  have target := valid.target
  have ordered := valid.ordered
  have period := valid.period
  unfold exactInflation
  rcases valid.model with model | model | model
  · rw [model]
    dsimp only
    split
    · omega
    · have reduction := reduction_eq (show 0 ≤ config.initialInflationBps.val -
        config.targetInflationBps.val by omega) (by omega) positive (by omega) period.2 (by omega)
      omega
  · rw [model]
    dsimp only
    have rate := halvings_bounds (target.trans ordered) initial
      (year / config.decayPeriodYears.val).toNat
    generalize halvings config.initialInflationBps.val
      (year / config.decayPeriodYears.val).toNat = bps at rate ⊢
    have half := halve_bounds rate.1 (by omega)
    have rest := emod_nonneg year (show config.decayPeriodYears.val ≠ 0 by omega)
    have less := emod_lt_of_pos year (show 0 < config.decayPeriodYears.val by omega)
    have reduction := reduction_eq (show 0 ≤ bps - halve bps by omega) (by omega) rest less.le
      period.2 (by omega)
    omega
  · rw [model]
    dsimp only
    have steps : 0 ≤ year / max 1 (config.decayPeriodYears.val / 3) :=
      ediv_nonneg positive (by omega)
    have product := mul_nonneg steps
      (show 0 ≤ config.initialInflationBps.val - config.targetInflationBps.val by omega)
    omega

/-- Between two halvings the rate falls from year to year. -/
theorem interpolated_succ_le {bps year period : Int} (lower : 0 ≤ bps) (upper : bps ≤ 2000)
    (positive : 0 ≤ year) (long : 0 < period) :
    halvings bps ((year + 1) / period).toNat - (halvings bps ((year + 1) / period).toNat -
        halve (halvings bps ((year + 1) / period).toNat)) * ((year + 1) % period) / period ≤
      halvings bps (year / period).toNat - (halvings bps (year / period).toNat -
        halve (halvings bps (year / period).toNat)) * (year % period) / period := by
  have rate := halvings_bounds lower upper (year / period).toNat
  have half := halve_bounds rate.1 (by omega)
  have rest := emod_nonneg year (show period ≠ 0 by omega)
  have less := emod_lt_of_pos year long
  have split := mul_ediv_add_emod year period
  by_cases within : year % period + 1 < period
  · have quotient : (year + 1) / period = year / period := by
      rw [ediv_eq_iff_of_pos long]
      constructor <;> linarith
    have remainder : (year + 1) % period = year % period + 1 := by
      rw [emod_def, quotient]
      linarith
    rw [quotient, remainder]
    apply sub_le_sub_left
    apply Int.ediv_le_ediv long
    exact Int.mul_le_mul_of_nonneg_left (by omega) (by omega)
  · have quotient : (year + 1) / period = year / period + 1 := by
      rw [ediv_eq_iff_of_pos long]
      constructor <;> linarith
    have remainder : (year + 1) % period = 0 := by
      rw [emod_def, quotient]
      linarith
    have next : (year / period + 1).toNat = (year / period).toNat + 1 := by
      have count := ediv_nonneg positive long.le
      omega
    rw [quotient, remainder, mul_zero, zero_ediv, sub_zero, next, halvings]
    generalize halvings bps (year / period).toNat = before at rate half ⊢
    have most : (before - halve before) * (year % period) / period ≤ before - halve before := by
      apply Int.ediv_le_of_le_mul long
      exact Int.mul_le_mul_of_nonneg_left less.le (by omega)
    omega

/-- The rate falls from year to year. -/
theorem exactInflation_succ_le (valid : config.Valid) {year : Int} (positive : 0 ≤ year) :
    exactInflation config (year + 1) ≤ exactInflation config year := by
  have ordered := valid.ordered
  have period := valid.period
  have bounds := exactInflation_bounds valid positive
  unfold exactInflation at bounds ⊢
  rcases valid.model with model | model | model
  · rw [model] at bounds ⊢
    dsimp only at bounds ⊢
    split
    · exact bounds.1
    · rw [if_neg (by omega)]
      apply sub_le_sub_left
      apply Int.ediv_le_ediv (by omega)
      exact Int.mul_le_mul_of_nonneg_left (by omega) (by omega)
  · rw [model]
    dsimp only
    exact max_le_max_left _ (interpolated_succ_le (valid.target.trans ordered) valid.initial
      positive (by omega))
  · rw [model]
    dsimp only
    apply max_le_max_left
    apply sub_le_sub_left
    apply Int.ediv_le_ediv (by decide)
    apply Int.mul_le_mul_of_nonneg_right _ (by omega)
    exact Int.ediv_le_ediv (by omega) (by omega)

theorem computeInflationForYear_antitone (valid : config.Valid) {year later : Int}
    (positive : 0 ≤ year) (order : year ≤ later) (early : later ≤ lastYear) :
    computeInflationForYear config later ≤ computeInflationForYear config year := by
  rw [computeInflationForYear_eq valid (by omega) early,
    computeInflationForYear_eq valid positive (by omega)]
  obtain ⟨count, rfl⟩ : ∃ count : Nat, later = year + count := ⟨(later - year).toNat, by omega⟩
  clear order early
  induction count with
  | zero => exact le_of_eq (by simp)
  | succ count ih =>
    rw [natCast_succ, ← add_assoc]
    exact (exactInflation_succ_le valid (by omega)).trans ih

end Inflation

section Schedule

variable {config : EmissionConfig} {supply year : Int} {entry : EmissionScheduleEntry}

theorem safeBpsMultiply_eq_ok {value bps result : Int} :
    safeBpsMultiply value bps = .ok result ↔
      (value * bps).tdiv 10000 = result ∧ result.natAbs < 2 ^ 256 := by
  rw [safeBpsMultiply, safeMulDiv, ite_error_eq_ok, SdkInt.checked, ite_error_eq_ok,
    ok.injEq, SdkInt.overflows, decide_eq_true_eq, Nat.not_le]
  constructor
  · rintro ⟨_, small, rfl⟩
    exact ⟨rfl, small⟩
  · rintro ⟨rfl, small⟩
    exact ⟨by decide, small, rfl⟩

theorem safeAdd_eq_ok_iff {a b result : Int} :
    safeAdd a b = .ok result ↔ a + b = result ∧ (a + b).natAbs < 2 ^ 256 := by
  rw [safeAdd, ite_error_eq_ok, ite_error_eq_ok, ok.injEq, SdkInt.overflows,
    decide_eq_true_eq, Nat.not_le]
  constructor
  · rintro ⟨small, _, rfl⟩
    exact ⟨rfl, small⟩
  · rintro ⟨rfl, small⟩
    exact ⟨small, by omega, rfl⟩

def minted (config : EmissionConfig) (supply year : Int) : Int :=
  supply * computeInflationForYear config year / 10000

section

variable (valid : config.Valid) (nonnegative : 0 ≤ supply) (positive : 0 ≤ year)
  (early : year ≤ lastYear)
include valid nonnegative positive early

theorem minted_bounds : 0 ≤ minted config supply year ∧ minted config supply year ≤ supply := by
  have rate := exactInflation_bounds valid positive
  rw [← computeInflationForYear_eq valid positive early] at rate
  have target := valid.target
  have initial := valid.initial
  constructor
  · exact ediv_nonneg (mul_nonneg nonnegative (by omega)) (by decide)
  · apply Int.ediv_le_of_le_mul (by decide)
    exact Int.mul_le_mul_of_nonneg_left (by omega) nonnegative

theorem emissionForYear_eq_some (done : emissionForYear config supply year = some entry) :
    entry.year = year ∧ entry.inflationBps = computeInflationForYear config year ∧
      (entry.annualEmission, entry.cumulativeSupply) = capSupply config.maxSupplyCap.val
        (minted config supply year) (supply + minted config supply year) := by
  have rate := exactInflation_bounds valid positive
  rw [← computeInflationForYear_eq valid positive early] at rate
  have target := valid.target
  have product : 0 ≤ supply * computeInflationForYear config year :=
    mul_nonneg nonnegative (by omega)
  unfold emissionForYear at done
  simp only [bind_eq_bind, bind_eq_some_iff, toOption_eq_some,
    safeBpsMultiply_eq_ok] at done
  obtain ⟨emission, ⟨rfl, _⟩, total, added, _, _, _, _, kept⟩ := done
  rw [tdiv_eq_ediv_of_nonneg product] at added kept
  obtain ⟨rfl, _⟩ := safeAdd_eq_ok_iff.mp added
  split at kept
  · obtain rfl := some.inj kept
    exact ⟨rfl, rfl, rfl⟩
  · cases kept

end

theorem capSupply_bounds {maxSupplyCap emission supply : Int} (minted : 0 ≤ emission)
    (under : 0 < maxSupplyCap → supply ≤ maxSupplyCap) :
    0 ≤ (capSupply maxSupplyCap emission (supply + emission)).1 ∧
      supply ≤ (capSupply maxSupplyCap emission (supply + emission)).2 ∧
      (0 < maxSupplyCap → (capSupply maxSupplyCap emission (supply + emission)).2 ≤
        maxSupplyCap) := by
  unfold capSupply
  split
  · rename_i beyond
    have before := under beyond.1
    exact ⟨by show 0 ≤ emission - (supply + emission - maxSupplyCap); omega, before,
      fun _ => le_refl _⟩
  · rename_i inside
    refine ⟨minted, ?_, ?_⟩
    · show supply ≤ supply + emission
      omega
    · intro capped
      show supply + emission ≤ maxSupplyCap
      omega

/-- What holds of a schedule that continues from some year and supply. -/
structure SoundFrom (config : EmissionConfig) (year supply : Int)
    (schedule : List EmissionScheduleEntry) : Prop where
  emissions : ∀ entry ∈ schedule, 0 ≤ entry.annualEmission
  supplies : (supply :: schedule.map EmissionScheduleEntry.cumulativeSupply).Pairwise (· ≤ ·)
  capped : 0 < config.maxSupplyCap.val →
    ∀ entry ∈ schedule, entry.cumulativeSupply ≤ config.maxSupplyCap.val
  rates : ∀ entry ∈ schedule, config.targetInflationBps.val ≤ entry.inflationBps ∧
    entry.inflationBps ≤ computeInflationForYear config year
  decays : (schedule.map EmissionScheduleEntry.inflationBps).Pairwise (· ≥ ·)

/-- From a supply below the cap the years are sound. -/
theorem soundFrom_emissionYears (valid : config.Valid) (count : Nat) {year supply : Int}
    (nonnegative : 0 ≤ supply) (positive : 0 ≤ year) (early : year + count ≤ lastYear)
    (under : 0 < config.maxSupplyCap.val → supply ≤ config.maxSupplyCap.val) :
    SoundFrom config year supply (emissionYears config count year supply) := by
  induction count generalizing year supply with
  | zero => exact ⟨by simp [emissionYears], by simp [emissionYears], by simp [emissionYears],
      by simp [emissionYears], by simp [emissionYears]⟩
  | succ count ih =>
    rw [emissionYears]
    cases done : emissionForYear config supply year with
    | none => exact ⟨by simp, by simp, by simp, by simp, by simp⟩
    | some entry =>
      obtain ⟨_, rate, amounts⟩ :=
        emissionForYear_eq_some valid nonnegative positive (by omega) done
      have minting := minted_bounds valid nonnegative positive (by omega)
      obtain ⟨gained, grown, capped⟩ := capSupply_bounds minting.1 under
      rw [← amounts] at gained grown capped
      dsimp only at gained grown capped
      have later : SoundFrom config (year + 1) entry.cumulativeSupply
          (emissionYears config count (year + 1) entry.cumulativeSupply) :=
        ih (by omega) (by omega) (by omega) capped
      have falls := computeInflationForYear_antitone valid positive
        (show year ≤ year + 1 by omega) (by omega)
      have bounds := exactInflation_bounds valid positive
      rw [← computeInflationForYear_eq valid positive (by omega)] at bounds
      have rising := pairwise_cons.mp later.supplies
      dsimp only
      refine ⟨?_, ?_, ?_, ?_, ?_⟩
      · intro other member
        rcases mem_cons.mp member with rfl | among
        · exact gained
        · exact later.emissions other among
      · rw [map_cons, pairwise_cons]
        refine ⟨?_, later.supplies⟩
        intro amount member
        rcases mem_cons.mp member with rfl | among
        · exact grown
        · exact grown.trans (rising.1 amount among)
      · intro limited other member
        rcases mem_cons.mp member with rfl | among
        · exact capped limited
        · exact later.capped limited other among
      · intro other member
        rcases mem_cons.mp member with rfl | among
        · rw [rate]
          exact ⟨bounds.1, le_refl _⟩
        · exact ⟨(later.rates other among).1, (later.rates other among).2.trans falls⟩
      · rw [map_cons, pairwise_cons]
        refine ⟨?_, later.decays⟩
        intro other member
        obtain ⟨following, among, rfl⟩ := mem_map.mp member
        rw [rate]
        exact (later.rates following among).2.trans falls

/-- From a supply above the cap the year's emission is negative. -/
theorem emissionForYear_beyond_cap (valid : config.Valid) (nonnegative : 0 ≤ supply)
    (moderate : supply < 2 ^ 62) (positive : 0 ≤ year) (early : year ≤ lastYear)
    (limited : 0 < config.maxSupplyCap.val) (beyond : config.maxSupplyCap.val < supply) :
    ∃ entry, emissionForYear config supply year = some entry ∧
      entry.annualEmission = config.maxSupplyCap.val - supply := by
  have bounds := minted_bounds valid nonnegative positive early
  have rate := exactInflation_bounds valid positive
  rw [← computeInflationForYear_eq valid positive early] at rate
  have target := valid.target
  have staking := valid.staking
  have product : 0 ≤ supply * computeInflationForYear config year :=
    mul_nonneg nonnegative (by omega)
  have emission : safeBpsMultiply supply (computeInflationForYear config year) =
      .ok (minted config supply year) := by
    rw [safeBpsMultiply_eq_ok, tdiv_eq_ediv_of_nonneg product]
    exact ⟨rfl, by omega⟩
  have total : safeAdd supply (minted config supply year) =
      .ok (supply + minted config supply year) := by
    rw [safeAdd_eq_ok_iff]
    exact ⟨rfl, by omega⟩
  have cut : capSupply config.maxSupplyCap.val (minted config supply year)
      (supply + minted config supply year) =
        (config.maxSupplyCap.val - supply, config.maxSupplyCap.val) := by
    rw [capSupply, if_pos ⟨limited, by omega⟩]
    congr 1
    omega
  have share (value : Int) (within : value.natAbs < 2 ^ 62) (bps : Int)
      (part : bps.natAbs ≤ 10000) :
      safeBpsMultiply value bps = .ok ((value * bps).tdiv 10000) := by
    rw [safeBpsMultiply_eq_ok]
    refine ⟨rfl, ?_⟩
    have less : ((value * bps).tdiv 10000).natAbs ≤ (value * bps).natAbs := by
      rw [natAbs_tdiv]
      exact Nat.div_le_self _ _
    have small : (value * bps).natAbs ≤ 2 ^ 62 * 10000 := by
      rw [natAbs_mul]
      exact Nat.mul_le_mul within.le part
    omega
  refine ⟨⟨year, computeInflationForYear config year, config.maxSupplyCap.val - supply,
    config.maxSupplyCap.val⟩, ?_, rfl⟩
  unfold emissionForYear
  dsimp only
  rw [emission]
  simp only [Except.toOption, bind_eq_bind, bind_some, total, cut]
  rw [share _ (by omega) _ (by decide), share _ (by omega) _ (by omega)]
  simp only [bind_some]
  rw [if_pos ⟨⟨by omega, by omega⟩, ⟨by omega, by omega⟩⟩]

end Schedule

/-- A schedule that mints, never takes back, keeps to its cap and slows down. -/
structure ScheduleSound (config : EmissionConfig) (schedule : List EmissionScheduleEntry) : Prop where
  emissions : ∀ entry ∈ schedule, 0 ≤ entry.annualEmission
  supplies : (initialSupplyUAETHEL ::
    schedule.map EmissionScheduleEntry.cumulativeSupply).Pairwise (· ≤ ·)
  capped : 0 < config.maxSupplyCap.val →
    ∀ entry ∈ schedule, entry.cumulativeSupply ≤ config.maxSupplyCap.val
  rates : ∀ entry ∈ schedule, config.targetInflationBps.val ≤ entry.inflationBps ∧
    entry.inflationBps ≤ config.initialInflationBps.val
  decays : (schedule.map EmissionScheduleEntry.inflationBps).Pairwise (· ≥ ·)

/-- A schedule is sound exactly without years, without a cap or with a cap above the start. -/
theorem scheduleSound_iff {config : EmissionConfig} (valid : config.Valid) {years : Int}
    {schedule : List EmissionScheduleEntry}
    (computed : computeEmissionSchedule config years = .ok schedule) :
    ScheduleSound config schedule ↔
      years = 0 ∨ config.maxSupplyCap.val ≤ 0 ∨ initialSupplyUAETHEL ≤ config.maxSupplyCap.val := by
  unfold computeEmissionSchedule at computed
  rw [ite_error_eq_ok, ok.injEq] at computed
  obtain ⟨made, rfl⟩ := computed
  unfold entrySize maxAlloc at made
  have genesis : initialSupplyUAETHEL = 10000000000000000 := rfl
  constructor
  · intro sound
    by_contra failing
    obtain ⟨count, counted⟩ : ∃ count, years.toNat = count + 1 := ⟨years.toNat - 1, by omega⟩
    obtain ⟨entry, first, negative⟩ := emissionForYear_beyond_cap valid
      (show 0 ≤ initialSupplyUAETHEL by decide) (by decide) (show 0 ≤ (1 : Int) by decide)
      (by decide) (show 0 < config.maxSupplyCap.val by omega) (by omega)
    have least := sound.emissions entry (by
      rw [counted, emissionYears, first]
      exact mem_cons_self)
    omega
  · intro holds
    rcases holds with none | capped
    · subst none
      exact ⟨by simp [emissionYears], by simp [emissionYears], by simp [emissionYears],
        by simp [emissionYears], by simp [emissionYears]⟩
    · have early : (1 : Int) + years.toNat ≤ lastYear := by
        unfold lastYear
        omega
      have sound := soundFrom_emissionYears valid years.toNat
        (show 0 ≤ initialSupplyUAETHEL by decide) (by decide) early (by omega)
      have bounds := exactInflation_bounds valid (show 0 ≤ (1 : Int) by decide)
      rw [← computeInflationForYear_eq valid (by decide) (by decide)] at bounds
      refine ⟨sound.emissions, sound.supplies, sound.capped, ?_, sound.decays⟩
      intro entry member
      have rate := sound.rates entry member
      exact ⟨rate.1, rate.2.trans bounds.2⟩

/-- Every accepted vesting schedule releases monotonically up to its total, and every accepted
emission is sound exactly when no positive cap lies below the genesis supply. -/
theorem vesting_and_emission_sound (schedules : List VestingSchedule) (config : EmissionConfig) :
    (validateVestingSchedules schedules = .ok () → ∀ s ∈ schedules, ∀ h₁ h₂ : I64,
      0 ≤ h₁.val → h₁.val ≤ h₂.val →
        vestedAmount s h₁.val ≤ vestedAmount s h₂.val ∧
        vestedAmount s h₂.val ≤ s.totalUAETHEL.val ∧
        (s.vestingBlocks.val ≤ h₂.val → vestedAmount s h₂.val = s.totalUAETHEL.val) ∧
        vestedAmount s h₂.val = exactVestedAmount s h₂.val) ∧
    (validateEmissionConfig config = .ok () → ∀ years schedule,
      computeEmissionSchedule config years = .ok schedule →
        (ScheduleSound config schedule ↔ years = 0 ∨ config.maxSupplyCap.val ≤ 0 ∨
          initialSupplyUAETHEL ≤ config.maxSupplyCap.val)) := by
  constructor
  · intro accepted s member h₁ h₂ nonnegative later
    have valid := valid_of_validateVestingSchedules accepted s member
    have cliff := valid.cliff
    have ends := valid.ends
    rw [valid.vestedAmount_eq nonnegative h₁.fits, valid.vestedAmount_eq (by omega) h₂.fits,
      valid.exactVestedAmount_eq (by omega) h₂.fits]
    refine ⟨valid.released_mono later, valid.released_le h₂.val, ?_, rfl⟩
    intro finished
    rw [VestingSchedule.released, if_neg (by omega), if_pos finished]
  · intro accepted years schedule computed
    exact scheduleSound_iff (valid_of_validateEmissionConfig accepted) computed

/-- An inflation of 8 percent under a cap of one token. -/
def lowCap : EmissionConfig where
  initialInflationBps := ⟨800, by decide⟩
  targetInflationBps := ⟨200, by decide⟩
  decayModel := .linear
  decayPeriodYears := ⟨6, by decide⟩
  maxSupplyCap := ⟨1000000, by decide⟩
  stakingTargetBps := ⟨5500, by decide⟩
  securityBudgetFloorBps := ⟨100, by decide⟩

/-- The accepted configuration mints a negative amount in its first year. -/
theorem low_cap_mints_negative :
    validateEmissionConfig lowCap = .ok () ∧
      computeEmissionSchedule lowCap 1 = .ok [⟨1, 700, -9999999999000000, 1000000⟩] ∧
      ¬ScheduleSound lowCap [⟨1, 700, -9999999999000000, 1000000⟩] := by
  refine ⟨by decide, by decide +kernel, ?_⟩
  intro sound
  have minted := sound.emissions _ (mem_singleton_self _)
  exact absurd minted (by decide)

/-- One allocation with a cliff after 10 of 100 blocks. -/
def sampleVesting : VestingSchedule where
  category := "team"
  totalUAETHEL := ⟨1000, by decide⟩
  tgeUnlockBps := ⟨1000, by decide⟩
  cliffBlocks := ⟨10, by decide⟩
  vestingBlocks := ⟨100, by decide⟩
  cliffPercent := ⟨2000, by decide⟩
  linearAfterCliff := true

/-- A cap that the second year reaches. -/
def highCap : EmissionConfig := { lowCap with maxSupplyCap := .ofInt (11 * 10 ^ 15) }

def highCapSchedule : List EmissionScheduleEntry :=
  [⟨1, 700, 7 * 10 ^ 14, 107 * 10 ^ 14⟩, ⟨2, 600, 3 * 10 ^ 14, 11 * 10 ^ 15⟩,
    ⟨3, 500, 0, 11 * 10 ^ 15⟩]

theorem vesting_and_emission_sample :
    vestedAmount sampleVesting 9 ≤ vestedAmount sampleVesting 55 ∧
      vestedAmount sampleVesting 55 ≤ 1000 ∧
      computeEmissionSchedule highCap 3 = .ok highCapSchedule ∧
      ScheduleSound highCap highCapSchedule := by
  obtain ⟨vesting, emission⟩ := vesting_and_emission_sound [sampleVesting] highCap
  have released := vesting (by decide) sampleVesting (mem_singleton_self _)
    ⟨9, by decide⟩ ⟨55, by decide⟩ (by decide) (by decide)
  have computed : computeEmissionSchedule highCap 3 = .ok highCapSchedule := by decide +kernel
  exact ⟨released.1, released.2.1, computed,
    (emission (by decide +kernel) 3 highCapSchedule computed).mpr (by decide +kernel)⟩

end Pouw
