import Aethelred.Lib.Checked
import Aethelred.Vm.BurnEngine
import Aethelred.Vm.Vesting

/- How the tokenomics manager splits a fee (`tokenomics.rs`), with every operation checked. -/
namespace Vm

open Checked Option Nat

structure TokenomicsConfig where
  adaptiveBurnEnabled : Bool
  proverFeeBps : Nat
  burnFeeBps : Nat

structure FeeDistribution where
  totalFee : Nat
  proverAmount : Nat
  validatorAmount : Nat
  burnAmount : Nat
  effectiveBurnRateBps : Nat

def BurnConfig.default : BurnConfig where
  minBurnRateBps := 500
  maxBurnRateBps := 2000
  curveExponent := 2
  smoothingFactor := 50

def TokenomicsConfig.devnet : TokenomicsConfig where
  adaptiveBurnEnabled := false
  proverFeeBps := 7000
  burnFeeBps := 500

/-- The burn rate at a fullness; it stops where an operation overflows. -/
def BurnConfig.checkedBurnRate (config : BurnConfig) (blockFullnessBps : Nat) : Option Nat := do
  let range ← sub config.maxBurnRateBps config.minBurnRateBps
  let product ← mul 128 range (saturatingPowU64 blockFullnessBps config.curveExponent)
  let additional ← div product (saturatingPowU64 10000 config.curveExponent)
  add 16 config.minBurnRateBps (additional % 2 ^ 16)

namespace AdaptiveBurnEngine

def calculateBurn (engine : AdaptiveBurnEngine) (feeAmount blockFullnessBps : Nat) :
    Option Nat := do
  let burnRate ← engine.config.checkedBurnRate blockFullnessBps
  return (← mul 128 feeAmount burnRate) / 10000

def recordBurn (engine : AdaptiveBurnEngine) (amount : Nat) : Option AdaptiveBurnEngine := do
  let totalBurned ← add 128 engine.totalBurned amount
  let epochBurned ← add 128 engine.epochBurned amount
  return { engine with totalBurned, epochBurned }

end AdaptiveBurnEngine

namespace TokenomicsConfig

variable (config : TokenomicsConfig) (engine : AdaptiveBurnEngine)
  (feeAmount blockFullnessBps : Nat)

def burnAmount : Option Nat :=
  if config.adaptiveBurnEnabled then engine.calculateBurn feeAmount blockFullnessBps
  else do return (← mul 128 feeAmount config.burnFeeBps) / 10000

def processFee : Option (FeeDistribution × AdaptiveBurnEngine) := do
  let burnAmount ← config.burnAmount engine feeAmount blockFullnessBps
  let engine ← engine.recordBurn burnAmount
  let remaining ← sub feeAmount burnAmount
  let proverAmount := (← mul 128 remaining config.proverFeeBps) / 10000
  let validatorAmount ← sub remaining proverAmount
  let effective ← div (← mul 128 burnAmount 10000) feeAmount
  return ({
    totalFee := feeAmount
    proverAmount, validatorAmount, burnAmount
    effectiveBurnRateBps := effective % 2 ^ 16 }, engine)

/-- The fee is split without a rest, and the burn is recorded. -/
def Splits : Prop :=
  ∃ split after, config.processFee engine feeAmount blockFullnessBps = some (split, after) ∧
    split.proverAmount + split.validatorAmount + split.burnAmount = feeAmount ∧
    after.totalBurned = engine.totalBurned + split.burnAmount ∧
    after.epochBurned = engine.epochBurned + split.burnAmount

/-- Rates that are shares. -/
structure Shares (config : TokenomicsConfig) (rates : BurnConfig) : Prop where
  least : rates.minBurnRateBps ≤ 10000
  most : rates.maxBurnRateBps ≤ 10000
  prover : config.proverFeeBps ≤ 10000
  burn : config.burnFeeBps ≤ 10000

def exactBurn (rates : BurnConfig) (feeAmount blockFullnessBps : Nat) : Nat :=
  feeAmount * (if config.adaptiveBurnEnabled then
    rates.minBurnRateBps + rates.additional blockFullnessBps else config.burnFeeBps) / 10000

/-- There is a fee, the limits of an adaptive rate are in order, and the counters have room. -/
structure Payable (config : TokenomicsConfig) (engine : AdaptiveBurnEngine)
    (feeAmount blockFullnessBps : Nat) : Prop where
  positive : 0 < feeAmount
  ordered : config.adaptiveBurnEnabled →
    engine.config.minBurnRateBps ≤ engine.config.maxBurnRateBps
  total : engine.totalBurned + config.exactBurn engine.config feeAmount blockFullnessBps < 2 ^ 128
  epoch : engine.epochBurned + config.exactBurn engine.config feeAmount blockFullnessBps < 2 ^ 128

variable {config : TokenomicsConfig} {engine : AdaptiveBurnEngine}
  {feeAmount blockFullnessBps : Nat}

/-- The checked rate, or the underflow of reversed limits. -/
theorem checkedBurnRate_eq {rates : BurnConfig} (most : rates.maxBurnRateBps ≤ 10000)
    (share : blockFullnessBps ≤ 10000) :
    rates.checkedBurnRate blockFullnessBps =
      if rates.minBurnRateBps ≤ rates.maxBurnRateBps then
        some (rates.minBurnRateBps + rates.additional blockFullnessBps)
      else none := by
  unfold BurnConfig.checkedBurnRate
  split
  next ordered =>
    have more := BurnConfig.additional_le rates share
    have product : (rates.maxBurnRateBps - rates.minBurnRateBps) *
        saturatingPowU64 blockFullnessBps rates.curveExponent < 2 ^ 128 := by
      have bound := Nat.mul_le_mul
        (by omega : rates.maxBurnRateBps - rates.minBurnRateBps ≤ 10000)
        (saturatingPowU64_le blockFullnessBps rates.curveExponent)
      exact lt_of_le_of_lt bound (by decide)
    rw [sub_of_le ordered]
    simp only [bind_eq_bind, bind_some, mul_of_lt product,
      div_of_pos (saturatingPowU64_pos _)]
    unfold BurnConfig.additional at more ⊢
    rw [mod_eq_of_lt (by omega), add_of_lt (by omega)]
  next reversed =>
    rw [sub, if_neg reversed]
    rfl

theorem part_fits (small : feeAmount ≤ TOTAL_GENESIS_SUPPLY) {amount rate : Nat}
    (part : amount ≤ feeAmount) (share : rate ≤ 10000) : amount * rate < 2 ^ 128 :=
  Nat.lt_of_le_of_lt (Nat.mul_le_mul (Nat.le_trans part small) share) (by decide)

theorem part_le {amount rate : Nat} (share : rate ≤ 10000) : amount * rate / 10000 ≤ amount := by
  refine Nat.div_le_of_le_mul ?_
  rw [Nat.mul_comm]
  exact mul_le_mul_right _ share

/-- What is burned of a fee. -/
theorem burnAmount_cases (shares : config.Shares engine.config)
    (small : feeAmount ≤ TOTAL_GENESIS_SUPPLY) (share : blockFullnessBps ≤ 10000) :
    (config.adaptiveBurnEnabled ∧ ¬engine.config.minBurnRateBps ≤ engine.config.maxBurnRateBps ∧
      config.burnAmount engine feeAmount blockFullnessBps = none) ∨
    ((config.adaptiveBurnEnabled → engine.config.minBurnRateBps ≤ engine.config.maxBurnRateBps) ∧
      config.burnAmount engine feeAmount blockFullnessBps =
        some (config.exactBurn engine.config feeAmount blockFullnessBps) ∧
      config.exactBurn engine.config feeAmount blockFullnessBps ≤ feeAmount) := by
  unfold burnAmount exactBurn
  by_cases adaptive : config.adaptiveBurnEnabled
  · rw [if_pos adaptive, if_pos adaptive, AdaptiveBurnEngine.calculateBurn,
      checkedBurnRate_eq shares.most share]
    by_cases ordered : engine.config.minBurnRateBps ≤ engine.config.maxBurnRateBps
    · have more := BurnConfig.additional_le engine.config share
      have most := shares.most
      have rate : engine.config.minBurnRateBps + engine.config.additional blockFullnessBps ≤
          10000 := by omega
      rw [if_pos ordered]
      simp only [bind_eq_bind, bind_some,
        mul_of_lt (part_fits small (le_refl _) rate)]
      exact .inr ⟨fun _ => ordered, rfl, part_le rate⟩
    · rw [if_neg ordered]
      exact .inl ⟨adaptive, ordered, rfl⟩
  · rw [if_neg adaptive, if_neg adaptive, mul_of_lt (part_fits small (le_refl _) shares.burn)]
    exact .inr ⟨fun enabled => absurd enabled adaptive, rfl, part_le shares.burn⟩

theorem recordBurn_eq (engine : AdaptiveBurnEngine) (amount : Nat) :
    engine.recordBurn amount =
      if engine.totalBurned + amount < 2 ^ 128 ∧ engine.epochBurned + amount < 2 ^ 128 then
        some { engine with
          totalBurned := engine.totalBurned + amount
          epochBurned := engine.epochBurned + amount }
      else none := by
  unfold AdaptiveBurnEngine.recordBurn
  by_cases total : engine.totalBurned + amount < 2 ^ 128
  · rw [add_of_lt total]
    by_cases epoch : engine.epochBurned + amount < 2 ^ 128
    · rw [if_pos ⟨total, epoch⟩, add_of_lt epoch]
      rfl
    · rw [if_neg fun both => epoch both.2, bind_eq_bind, bind_some, add, if_neg epoch]
      rfl
  · rw [if_neg fun both => total both.1, add, if_neg total]
    rfl

/-- A fee is split without a panic exactly if it is payable. -/
theorem splits_iff (config : TokenomicsConfig) (engine : AdaptiveBurnEngine)
    (shares : config.Shares engine.config) (feeAmount blockFullnessBps : Nat)
    (small : feeAmount ≤ TOTAL_GENESIS_SUPPLY) (share : blockFullnessBps ≤ 10000) :
    config.Splits engine feeAmount blockFullnessBps ↔
      config.Payable engine feeAmount blockFullnessBps := by
  unfold Splits processFee
  obtain ⟨adaptive, reversed, stopped⟩ | ⟨ordered, burns, part⟩ :=
    burnAmount_cases shares small share
  · rw [stopped]
    refine iff_of_false ?_ fun payable => reversed (payable.ordered adaptive)
    rintro ⟨split, after, done, -⟩
    exact nomatch done
  · rw [burns, bind_eq_bind, bind_some, recordBurn_eq]
    generalize burned : config.exactBurn engine.config feeAmount blockFullnessBps = amount at part ⊢
    by_cases room : engine.totalBurned + amount < 2 ^ 128 ∧ engine.epochBurned + amount < 2 ^ 128
    · have rest : feeAmount - amount ≤ feeAmount := sub_le _ _
      have prover : (feeAmount - amount) * config.proverFeeBps / 10000 ≤ feeAmount - amount :=
        part_le shares.prover
      rw [if_pos room]
      simp only [bind_eq_bind, bind_some, sub_of_le part, sub_of_le prover,
        mul_of_lt (part_fits small rest shares.prover),
        mul_of_lt (part_fits small part (le_refl _))]
      by_cases positive : 0 < feeAmount
      · rw [div_of_pos positive]
        refine iff_of_true ⟨_, _, rfl, ?_, rfl, rfl⟩ ⟨positive, ordered, ?_, ?_⟩
        · show _ / 10000 + (feeAmount - amount - _ / 10000) + amount = feeAmount
          omega
        · rw [burned]
          exact room.1
        · rw [burned]
          exact room.2
      · rw [div, if_pos (by omega)]
        refine iff_of_false ?_ fun payable => positive payable.positive
        rintro ⟨split, after, done, -⟩
        exact nomatch done
    · rw [if_neg room]
      refine iff_of_false ?_ fun payable => room ?_
      · rintro ⟨split, after, done, -⟩
        exact nomatch done
      · rw [← burned]
        exact ⟨payable.total, payable.epoch⟩

theorem splits_iff_devnet :
    TokenomicsConfig.devnet.Shares (AdaptiveBurnEngine.new .default).config ∧
      (TokenomicsConfig.devnet.Splits (.new .default) 1000000000000 5000 ↔
        TokenomicsConfig.devnet.Payable (.new .default) 1000000000000 5000) := by
  have shares : TokenomicsConfig.devnet.Shares (AdaptiveBurnEngine.new .default).config :=
    ⟨by decide, by decide, by decide, by decide⟩
  exact ⟨shares, splits_iff _ _ shares _ _ (by decide) (by decide)⟩

/-- A free transaction. -/
theorem zeroFee_not_split : ¬TokenomicsConfig.devnet.Splits (.new .default) 0 0 := by
  have stopped : TokenomicsConfig.devnet.processFee (.new .default) 0 0 = none := by
    decide +kernel
  rintro ⟨split, after, done, -⟩
  rw [stopped] at done
  exact nomatch done

end TokenomicsConfig

end Vm
