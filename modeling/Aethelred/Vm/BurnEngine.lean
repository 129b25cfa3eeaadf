import Aethelred.Lib.Run
import Aethelred.Vm.Types

/- The adaptive burn engine (`tokenomics.rs`): the burn rate grows with how full the blocks are. -/
namespace Vm

open Nat

structure BurnConfig where
  minBurnRateBps : Nat
  maxBurnRateBps : Nat
  curveExponent : Nat
  smoothingFactor : Nat

structure AdaptiveBurnEngine where
  config : BurnConfig
  currentRateBps : Nat
  totalBurned : Nat := 0
  epochBurned : Nat := 0
  avgUtilizationBps : Nat := 0
  blockCount : Nat := 0

/-- `saturating_mul` again and again, in a `u64`. -/
def saturatingPowU64 (base : Nat) : Nat → Nat
  | 0 => 1
  | exponent + 1 => min (saturatingPowU64 base exponent * base) MAX_U64

namespace BurnConfig

variable (config : BurnConfig)

def calculateBurnRate (blockFullnessBps : Nat) : Nat :=
  let range := (config.maxBurnRateBps + 2 ^ 16 - config.minBurnRateBps) % 2 ^ 16
  let numerator := saturatingPowU64 blockFullnessBps config.curveExponent
  let denominator := saturatingPowU64 10000 config.curveExponent
  let additional := mulU128 range numerator / denominator % 2 ^ 16
  (config.minBurnRateBps + additional) % 2 ^ 16

def exactBurnRate (fullness : Nat) : Nat :=
  config.minBurnRateBps + (config.maxBurnRateBps - config.minBurnRateBps) *
    fullness ^ config.curveExponent / 10000 ^ config.curveExponent

/-- Limits in order and percentages that are percentages. -/
structure Valid (config : BurnConfig) : Prop where
  ordered : config.minBurnRateBps ≤ config.maxBurnRateBps
  limited : config.maxBurnRateBps ≤ 10000
  smoothing : config.smoothingFactor ≤ 100

instance : Decidable config.Valid :=
  decidable_of_iff (config.minBurnRateBps ≤ config.maxBurnRateBps ∧
    config.maxBurnRateBps ≤ 10000 ∧ config.smoothingFactor ≤ 100)
    ⟨fun valid => ⟨valid.1, valid.2.1, valid.2.2⟩,
      fun valid => ⟨valid.ordered, valid.limited, valid.smoothing⟩⟩

end BurnConfig

namespace AdaptiveBurnEngine

def new (config : BurnConfig) : AdaptiveBurnEngine where
  config
  currentRateBps := config.minBurnRateBps

def fullnessBps (gasUsed gasLimit : Nat) : Nat :=
  if gasLimit > 0 then gasUsed * 10000 / gasLimit % 2 ^ 16 else 0

variable (engine : AdaptiveBurnEngine)

/-- The average with one more block, in a `u32`. -/
def smoothed (fullness : Nat) : Nat :=
  let smoothing := engine.config.smoothingFactor
  (engine.avgUtilizationBps * ((100 + 2 ^ 32 - smoothing) % 2 ^ 32) % 2 ^ 32 +
    fullness * smoothing % 2 ^ 32) % 2 ^ 32 / 100 % 2 ^ 16

def updateBlock (gasUsed gasLimit : Nat) : AdaptiveBurnEngine :=
  let avgUtilizationBps := engine.smoothed (fullnessBps gasUsed gasLimit)
  { engine with
    avgUtilizationBps
    currentRateBps := engine.config.calculateBurnRate avgUtilizationBps
    blockCount := addU64 engine.blockCount 1 }

abbrev BlockGas := Nat × Nat

variable (gas : BlockGas)

def step : AdaptiveBurnEngine :=
  engine.updateBlock gas.1 gas.2

/-- The average is a share, and the rate is between its limits. -/
structure Bounded (engine : AdaptiveBurnEngine) : Prop where
  average : engine.avgUtilizationBps ≤ 10000
  least : engine.config.minBurnRateBps ≤ engine.currentRateBps
  most : engine.currentRateBps ≤ engine.config.maxBurnRateBps

/-- The block does not take the average beyond a full block. -/
def Fills : Prop :=
  engine.avgUtilizationBps * (100 - engine.config.smoothingFactor) +
    fullnessBps gas.1 gas.2 * engine.config.smoothingFactor < 1000100

instance : Decidable (engine.Fills gas) :=
  inferInstanceAs (Decidable (_ < _))

end AdaptiveBurnEngine

theorem saturatingPowU64_eq (base exponent : Nat) :
    saturatingPowU64 base exponent = min (base ^ exponent) MAX_U64 := by
  induction exponent with
  | zero => rfl
  | succ exponent ih =>
    rw [saturatingPowU64, ih, pow_succ]
    obtain small | large := le_total (base ^ exponent) MAX_U64
    · rw [min_eq_left small]
    · rw [min_eq_right large]
      cases base with
      | zero => rw [mul_zero, mul_zero]
      | succ base =>
        have more : MAX_U64 ≤ MAX_U64 * (base + 1) := Nat.le_mul_of_pos_right _ (Nat.succ_pos _)
        have raised : MAX_U64 * (base + 1) ≤ (base + 1) ^ exponent * (base + 1) :=
          mul_le_mul_right _ large
        rw [min_eq_right more, min_eq_right (le_trans more raised)]

theorem saturatingPowU64_le (base exponent : Nat) : saturatingPowU64 base exponent ≤ MAX_U64 := by
  rw [saturatingPowU64_eq]
  exact min_le_right _ _

theorem saturatingPowU64_mono {base larger : Nat} (le : base ≤ larger) (exponent : Nat) :
    saturatingPowU64 base exponent ≤ saturatingPowU64 larger exponent := by
  rw [saturatingPowU64_eq, saturatingPowU64_eq]
  have powers := Nat.pow_le_pow_left le exponent
  omega

theorem saturatingPowU64_pos (exponent : Nat) : 0 < saturatingPowU64 10000 exponent := by
  rw [saturatingPowU64_eq]
  exact Nat.lt_min.mpr ⟨Nat.pow_pos (by decide), by decide⟩

theorem saturatingPowU64_eq_pow {base exponent : Nat} (share : base ≤ 10000)
    (low : exponent ≤ 4) : saturatingPowU64 base exponent = base ^ exponent := by
  rw [saturatingPowU64_eq, min_eq_left]
  calc base ^ exponent ≤ 10000 ^ exponent := Nat.pow_le_pow_left share exponent
    _ ≤ 10000 ^ 4 := Nat.pow_le_pow_right (by decide) low
    _ ≤ MAX_U64 := by decide

/-- From the fifth power on, a nearly full block counts as a full one. -/
theorem saturatingPowU64_of_high {exponent : Nat} (high : 5 ≤ exponent) :
    saturatingPowU64 9999 exponent = MAX_U64 ∧ saturatingPowU64 10000 exponent = MAX_U64 := by
  have nearly : MAX_U64 ≤ 9999 ^ exponent :=
    Nat.le_trans (by decide : MAX_U64 ≤ 9999 ^ 5) (Nat.pow_le_pow_right (by decide) high)
  have full : 9999 ^ exponent ≤ 10000 ^ exponent := Nat.pow_le_pow_left (by decide) exponent
  rw [saturatingPowU64_eq, saturatingPowU64_eq]
  exact ⟨min_eq_right nearly, min_eq_right (le_trans nearly full)⟩

namespace BurnConfig

variable {config : BurnConfig} {fullness : Nat}

def additional (config : BurnConfig) (fullness : Nat) : Nat :=
  (config.maxBurnRateBps - config.minBurnRateBps) *
    saturatingPowU64 fullness config.curveExponent / saturatingPowU64 10000 config.curveExponent

theorem additional_le (config : BurnConfig) (share : fullness ≤ 10000) :
    config.additional fullness ≤ config.maxBurnRateBps - config.minBurnRateBps := by
  refine Nat.div_le_of_le_mul ?_
  rw [Nat.mul_comm]
  exact mul_le_mul_right _ (saturatingPowU64_mono share _)

theorem calculateBurnRate_eq (valid : config.Valid) (share : fullness ≤ 10000) :
    config.calculateBurnRate fullness = config.minBurnRateBps + config.additional fullness := by
  have ordered := valid.ordered
  have limited := valid.limited
  have range : (config.maxBurnRateBps + 2 ^ 16 - config.minBurnRateBps) % 2 ^ 16 =
      config.maxBurnRateBps - config.minBurnRateBps := by omega
  have more := additional_le config share
  have product : (config.maxBurnRateBps - config.minBurnRateBps) *
      saturatingPowU64 fullness config.curveExponent < 2 ^ 128 := by
    have bound := Nat.mul_le_mul (by omega : config.maxBurnRateBps - config.minBurnRateBps ≤ 10000)
      (saturatingPowU64_le fullness config.curveExponent)
    exact lt_of_le_of_lt bound (by decide)
  unfold calculateBurnRate
  rw [range]
  simp only [mulU128_eq product]
  unfold additional at more ⊢
  rw [mod_eq_of_lt (lt_of_le_of_lt more (by omega)), mod_eq_of_lt (by omega)]

/-- The rate follows the curve exactly up to the fourth power. -/
theorem follows_iff (valid : config.Valid) :
    (∀ fullness ≤ 10000, config.calculateBurnRate fullness = config.exactBurnRate fullness) ↔
      config.curveExponent ≤ 4 ∨ config.minBurnRateBps = config.maxBurnRateBps := by
  constructor
  · intro follows
    by_contra fails
    have high : 5 ≤ config.curveExponent := by omega
    have ordered := valid.ordered
    obtain ⟨nearly, full⟩ := saturatingPowU64_of_high high
    have rate := follows 9999 (by decide)
    rw [calculateBurnRate_eq valid (by decide), additional, exactBurnRate, nearly, full,
      Nat.mul_div_cancel _ (by decide)] at rate
    have below : (config.maxBurnRateBps - config.minBurnRateBps) * 9999 ^ config.curveExponent /
        10000 ^ config.curveExponent < config.maxBurnRateBps - config.minBurnRateBps := by
      refine Nat.div_lt_of_lt_mul ?_
      rw [Nat.mul_comm (10000 ^ config.curveExponent)]
      exact Nat.mul_lt_mul_of_pos_left (Nat.pow_lt_pow_left (by decide) (by omega)) (by omega)
    omega
  · intro exactly fullness share
    rw [calculateBurnRate_eq valid share, additional, exactBurnRate]
    cases exactly with
    | inl low =>
      rw [saturatingPowU64_eq_pow share low, saturatingPowU64_eq_pow (le_refl _) low]
    | inr same => rw [same, Nat.sub_self, Nat.zero_mul, Nat.zero_mul, Nat.zero_div, Nat.zero_div]

end BurnConfig

namespace AdaptiveBurnEngine

variable {engine : AdaptiveBurnEngine} {gas : BlockGas}

theorem fullnessBps_lt (gasUsed gasLimit : Nat) : fullnessBps gasUsed gasLimit < 2 ^ 16 := by
  unfold fullnessBps
  split
  · exact mod_lt _ (by decide)
  · decide

theorem smoothed_eq (smoothing : engine.config.smoothingFactor ≤ 100)
    (average : engine.avgUtilizationBps < 2 ^ 16) {fullness : Nat} (cut : fullness < 2 ^ 16) :
    engine.smoothed fullness =
      (engine.avgUtilizationBps * (100 - engine.config.smoothingFactor) +
        fullness * engine.config.smoothingFactor) / 100 := by
  have rest : (100 + 2 ^ 32 - engine.config.smoothingFactor) % 2 ^ 32 =
      100 - engine.config.smoothingFactor := by omega
  have old : engine.avgUtilizationBps * (100 - engine.config.smoothingFactor) ≤
      65535 * (100 - engine.config.smoothingFactor) := mul_le_mul_right _ (by omega)
  have new : fullness * engine.config.smoothingFactor ≤ 65535 * engine.config.smoothingFactor :=
    mul_le_mul_right _ (by omega)
  unfold smoothed
  dsimp only
  rw [rest]
  rw [mod_eq_of_lt (by omega), mod_eq_of_lt (by omega), mod_eq_of_lt (by omega),
    mod_eq_of_lt (by omega)]

theorem bounded_step_iff (valid : engine.config.Valid) (bounded : engine.Bounded) :
    (engine.step gas).Bounded ↔ engine.Fills gas := by
  have average := bounded.average
  have ordered := valid.ordered
  have after := smoothed_eq valid.smoothing (by omega) (fullnessBps_lt gas.1 gas.2)
  have share : engine.smoothed (fullnessBps gas.1 gas.2) ≤ 10000 ↔ engine.Fills gas := by
    rw [after, Fills]
    omega
  rw [← share]
  constructor
  · exact fun bounded => bounded.average
  · intro share
    have rate := BurnConfig.calculateBurnRate_eq valid share
    have more := BurnConfig.additional_le engine.config share
    refine ⟨share, ?_, ?_⟩
    · show engine.config.minBurnRateBps ≤ engine.config.calculateBurnRate _
      omega
    · show engine.config.calculateBurnRate _ ≤ engine.config.maxBurnRateBps
      omega

/-- The averages and rates of a run are bounded, and the rates follow the formula, exactly if the
blocks fill up to a full one and the powers are exact. -/
theorem run_bounded_iff (config : BurnConfig) (valid : config.Valid) (blocks : List BlockGas) :
    ((∀ first, first <+: blocks → (Run.exec step (new config) first).Bounded) ∧
        ∀ fullness ≤ 10000, config.calculateBurnRate fullness = config.exactBurnRate fullness) ↔
      Run.Along step Fills (new config) blocks ∧
        (config.curveExponent ≤ 4 ∨ config.minBurnRateBps = config.maxBurnRateBps) := by
  have kept : ∀ (engine : AdaptiveBurnEngine) (gas : BlockGas), engine.Fills gas →
      engine.config.Valid ∧ engine.Bounded →
        (engine.step gas).config.Valid ∧ (engine.step gas).Bounded :=
    fun engine gas fills kept => ⟨kept.1, (bounded_step_iff kept.1 kept.2).mpr fills⟩
  have needs : ∀ (engine : AdaptiveBurnEngine) (gas : BlockGas),
      engine.config.Valid ∧ engine.Bounded → (engine.step gas).Bounded → engine.Fills gas :=
    fun engine gas kept after => (bounded_step_iff kept.1 kept.2).mp after
  have initial : (new config).Bounded := ⟨zero_le _, le_refl _, valid.ordered⟩
  exact and_congr (Run.forall_prefix_iff kept (fun _ kept => kept.2) needs ⟨valid, initial⟩ blocks)
    (BurnConfig.follows_iff valid)

def curve (exponent : Nat) : BurnConfig where
  minBurnRateBps := 500
  maxBurnRateBps := 2000
  curveExponent := exponent
  smoothingFactor := 50

theorem run_bounded_iff_quadratic :
    (curve 2).Valid ∧
      (((∀ first, first <+: [(500, 1000), (1000, 1000)] →
          (Run.exec step (new (curve 2)) first).Bounded) ∧
        ∀ fullness ≤ 10000,
          (curve 2).calculateBurnRate fullness = (curve 2).exactBurnRate fullness) ↔
      Run.Along step Fills (new (curve 2)) [(500, 1000), (1000, 1000)] ∧
        ((curve 2).curveExponent ≤ 4 ∨
          (curve 2).minBurnRateBps = (curve 2).maxBurnRateBps)) := by
  have valid : (curve 2).Valid := by decide
  exact ⟨valid, run_bounded_iff (curve 2) valid _⟩

/-- More gas than the limit, and a fifth power. -/
theorem overfull_not_bounded :
    ¬(Run.exec step (new (curve 2)) [(3000, 1000)]).Bounded ∧
      (curve 5).calculateBurnRate 9999 ≠ (curve 5).exactBurnRate 9999 := by
  refine ⟨fun bounded => absurd bounded.average (by decide), by decide⟩

end AdaptiveBurnEngine

end Vm
