import Aethelred.Go.Int64
import Aethelred.Pouw.BondingCurve

/- The split of a job fee by basis points: the configuration, and the breakdown of
`x/pouw/keeper/fee_distribution.go`. -/
namespace Pouw

open Go Except Int

structure Coin where
  denom : String
  amount : Int

namespace Coin

def denomChar (c : Char) : Bool := c.isAlphanum || "/:._-".toList.contains c

/-- `sdk.ValidateDenom`, by the expression `[a-zA-Z][a-zA-Z0-9/:._-]{2,127}`. -/
def validDenom (denom : String) : Bool :=
  match denom.toList with
  | [] => false
  | first :: rest => first.isAlpha && rest.all denomChar && decide (2 ≤ rest.length) &&
      decide (rest.length ≤ 127)

/-- `sdk.NewCoin`, which panics on a coin that is not valid. -/
def newCoin (denom : String) (amount : Int) : Except Fault Coin :=
  if ¬validDenom denom then .error (.panic s!"invalid denom: {denom}")
  else if amount < 0 then .error (.panic s!"negative coin amount: {amount}")
  else .ok { denom, amount }

def toString (coin : Coin) : String :=
  let amount := coin.amount
  let denom := coin.denom
  s!"{amount}{denom}"

theorem newCoin_eq_ok {denom : String} {amount : Int} {coin : Coin} :
    newCoin denom amount = .ok coin ↔
      validDenom denom ∧ 0 ≤ amount ∧ { denom, amount } = coin := by
  rw [newCoin, ite_error_eq_ok, ite_error_eq_ok, not_not, not_lt,
    ok.injEq]

end Coin

/-- The total basis points, 100%. -/
def feeBpsBase : Int := 10000

structure FeeDistributionConfig where
  validatorRewardBps : I64
  treasuryBps : I64
  burnBps : I64
  insuranceFundBps : I64

namespace FeeDistributionConfig

def total (config : FeeDistributionConfig) : Int :=
  Int64.wrap (Int64.wrap (Int64.wrap (config.validatorRewardBps.val + config.treasuryBps.val) +
    config.burnBps.val) + config.insuranceFundBps.val)

end FeeDistributionConfig

def defaultFeeDistributionConfig : FeeDistributionConfig where
  validatorRewardBps := .ofInt 4000
  treasuryBps := .ofInt 3000
  burnBps := .ofInt 2000
  insuranceFundBps := .ofInt 1000

/-- One check of the configuration: the named share is not negative. -/
def checkBps (name : String) (bps : I64) : Except String Unit :=
  let value := bps.val
  if value < 0 then .error s!"{name} bps must be non-negative, got {value}" else .ok ()

def validateFeeDistribution (config : FeeDistributionConfig) : Except String Unit := do
  checkBps "validator reward" config.validatorRewardBps
  checkBps "treasury" config.treasuryBps
  checkBps "burn" config.burnBps
  checkBps "insurance fund" config.insuranceFundBps
  let total := config.total
  if total ≠ feeBpsBase then
    .error s!"fee distribution bps must sum to {feeBpsBase}, got {total}"
  else
    .ok ()

structure FeeDistributionResult where
  totalFee : Coin
  validatorRewards : Coin
  perValidatorReward : Coin
  treasuryAmount : Coin
  burnedAmount : Coin
  insuranceFund : Coin
  dustToTreasury : Coin
  validatorCount : Int

/-- A share of the fee: `total.Mul(bps).Quo(BpsBase)`. -/
def feeShare (total : Int) (bps : I64) : Except Fault Int := do
  let product ← SdkInt.mul total bps.val
  .ok (product.tdiv feeBpsBase)

/-- The equal share of each validator and what the shares come to. -/
def validatorSplit (validatorTotal validatorCount : Int) : Except Fault (Int × Int) :=
  if 0 < validatorCount then do
    let perValidator := validatorTotal.tdiv validatorCount
    let validatorActual ← SdkInt.mul perValidator validatorCount
    .ok (perValidator, validatorActual)
  else
    .ok (0, 0)

def calculateFeeBreakdown (totalFee : Coin) (config : FeeDistributionConfig)
    (validatorCount : Int) : Except Fault FeeDistributionResult := do
  let total := totalFee.amount
  let validatorTotal ← feeShare total config.validatorRewardBps
  let treasuryRaw ← feeShare total config.treasuryBps
  let burnAmount ← feeShare total config.burnBps
  let insuranceAmount ← feeShare total config.insuranceFundBps
  let (perValidator, validatorActual) ← validatorSplit validatorTotal validatorCount
  let withTreasury ← SdkInt.add validatorActual treasuryRaw
  let withBurn ← SdkInt.add withTreasury burnAmount
  let allocated ← SdkInt.add withBurn insuranceAmount
  let dust ← SdkInt.sub total allocated
  let treasuryFinal ← SdkInt.add treasuryRaw dust
  let validatorRewards ← Coin.newCoin totalFee.denom validatorActual
  let perValidatorReward ← Coin.newCoin totalFee.denom perValidator
  let treasuryAmount ← Coin.newCoin totalFee.denom treasuryFinal
  let burnedAmount ← Coin.newCoin totalFee.denom burnAmount
  let insuranceFund ← Coin.newCoin totalFee.denom insuranceAmount
  let dustToTreasury ← Coin.newCoin totalFee.denom dust
  .ok { totalFee, validatorRewards, perValidatorReward, treasuryAmount, burnedAmount,
        insuranceFund, dustToTreasury, validatorCount }

section Exactness

variable {config : FeeDistributionConfig} {fee : Coin} {total count : Int} {bps : I64}

namespace FeeDistributionConfig

variable (config : FeeDistributionConfig)

/-- The shares in the order of their fields. -/
def shares : List I64 :=
  [config.validatorRewardBps, config.treasuryBps, config.burnBps, config.insuranceFundBps]

/-- The sum of the shares, as a number. -/
def exactTotal : Int :=
  config.validatorRewardBps.val + config.treasuryBps.val + config.burnBps.val +
    config.insuranceFundBps.val

theorem total_eq_wrap : config.total = Int64.wrap config.exactTotal := by
  rw [total, Int64.wrap_wrap_add, add_assoc, Int64.wrap_wrap_add, ← add_assoc, exactTotal]

end FeeDistributionConfig

theorem checkBps_eq_ok {name : String} : checkBps name bps = .ok () ↔ 0 ≤ bps.val := by
  simp only [checkBps, ite_error_eq_ok, not_lt, and_true]

theorem validateFeeDistribution_eq_ok :
    validateFeeDistribution config = .ok () ↔
      (∀ bps ∈ config.shares, 0 ≤ bps.val) ∧ Int64.wrap config.exactTotal = feeBpsBase := by
  simp only [validateFeeDistribution, bind_unit_eq_ok, checkBps_eq_ok,
    ite_error_eq_ok, not_not, and_true, FeeDistributionConfig.total_eq_wrap,
    FeeDistributionConfig.shares, List.forall_mem_cons, List.not_mem_nil, false_implies,
    implies_true, ne_eq]
  tauto

theorem exactTotal_cases (accepted : validateFeeDistribution config = .ok ()) :
    config.exactTotal = 10000 ∨ config.exactTotal = 2 ^ 64 + 10000 := by
  obtain ⟨nonneg, wrapped⟩ := validateFeeDistribution_eq_ok.mp accepted
  simp only [FeeDistributionConfig.shares, List.forall_mem_cons] at nonneg
  obtain ⟨rewardNonneg, treasuryNonneg, burnNonneg, insuranceNonneg, _⟩ := nonneg
  have rewardFits := config.validatorRewardBps.fits
  have treasuryFits := config.treasuryBps.fits
  have burnFits := config.burnBps.fits
  have insuranceFits := config.insuranceFundBps.fits
  unfold Int64.Fits at rewardFits treasuryFits burnFits insuranceFits
  unfold Int64.wrap feeBpsBase at wrapped
  unfold FeeDistributionConfig.exactTotal at wrapped ⊢
  omega

theorem checked_eq_ok_iff {text : String} {value result : Int} :
    SdkInt.checked text value = .ok result ↔ value.natAbs < 2 ^ 256 ∧ value = result := by
  rw [SdkInt.checked, ite_error_eq_ok, SdkInt.overflows, decide_eq_true_eq, Nat.not_le,
    ok.injEq]

theorem feeShare_eq_ok {share : Int} :
    feeShare total bps = .ok share ↔
      (total * bps.val).natAbs < 2 ^ 256 ∧ (total * bps.val).tdiv feeBpsBase = share := by
  rw [feeShare, bind_eq_ok, SdkInt.mul]
  constructor
  · rintro ⟨product, multiplied, given⟩
    obtain ⟨small, rfl⟩ := checked_eq_ok_iff.mp multiplied
    exact ⟨small, ok.inj given⟩
  · rintro ⟨small, rfl⟩
    exact ⟨_, checked_eq_ok_iff.mpr ⟨small, rfl⟩, rfl⟩

structure Amounts where
  perValidator : Int
  validators : Int
  treasuryRaw : Int
  burned : Int
  insurance : Int

def amountsOf (config : FeeDistributionConfig) (total count : Int) : Amounts where
  perValidator := ((total * config.validatorRewardBps.val).tdiv feeBpsBase).tdiv count
  validators := ((total * config.validatorRewardBps.val).tdiv feeBpsBase).tdiv count * count
  treasuryRaw := (total * config.treasuryBps.val).tdiv feeBpsBase
  burned := (total * config.burnBps.val).tdiv feeBpsBase
  insurance := (total * config.insuranceFundBps.val).tdiv feeBpsBase

def Amounts.allocated (amounts : Amounts) : Int :=
  amounts.validators + amounts.treasuryRaw + amounts.burned + amounts.insurance

def Amounts.result (amounts : Amounts) (fee : Coin) (count : Int) : FeeDistributionResult where
  totalFee := fee
  validatorRewards := { denom := fee.denom, amount := amounts.validators }
  perValidatorReward := { denom := fee.denom, amount := amounts.perValidator }
  treasuryAmount :=
    { denom := fee.denom, amount := amounts.treasuryRaw + (fee.amount - amounts.allocated) }
  burnedAmount := { denom := fee.denom, amount := amounts.burned }
  insuranceFund := { denom := fee.denom, amount := amounts.insurance }
  dustToTreasury := { denom := fee.denom, amount := fee.amount - amounts.allocated }
  validatorCount := count

variable (nonneg : ∀ bps ∈ config.shares, 0 ≤ bps.val) (positive : 0 < total) (several : 0 < count)

include nonneg positive several in
theorem amountsOf_nonneg :
    0 ≤ (amountsOf config total count).perValidator ∧
      0 ≤ (amountsOf config total count).validators ∧
      0 ≤ (amountsOf config total count).treasuryRaw ∧
      0 ≤ (amountsOf config total count).burned ∧ 0 ≤ (amountsOf config total count).insurance := by
  have share (bps : I64) (member : bps ∈ config.shares) :
      0 ≤ (total * bps.val).tdiv feeBpsBase :=
    Int.tdiv_nonneg (Int.mul_nonneg (Int.le_of_lt positive) (nonneg bps member)) (by decide)
  have each : 0 ≤ (amountsOf config total count).perValidator :=
    Int.tdiv_nonneg (share _ (by simp [FeeDistributionConfig.shares])) (Int.le_of_lt several)
  refine ⟨each, mul_nonneg each (le_of_lt several), share _ ?_, share _ ?_, share _ ?_⟩
  all_goals simp [FeeDistributionConfig.shares]

include nonneg positive several in
/-- The amounts against the exact shares: at most them, and short by less than one unit each and
one unit a validator. -/
theorem allocated_bounds :
    10000 * (amountsOf config total count).allocated ≤ total * config.exactTotal ∧
      total * config.exactTotal <
        10000 * ((amountsOf config total count).allocated + 4 + count) := by
  have share (bps : I64) (member : bps ∈ config.shares) :
      10000 * (total * bps.val).tdiv feeBpsBase ≤ total * bps.val ∧
        total * bps.val < 10000 * ((total * bps.val).tdiv feeBpsBase + 1) := by
    have product : 0 ≤ total * bps.val :=
      mul_nonneg (le_of_lt positive) (nonneg bps member)
    rw [feeBpsBase, tdiv_eq_ediv_of_nonneg product]
    omega
  have reward := share config.validatorRewardBps (by simp [FeeDistributionConfig.shares])
  have treasury := share config.treasuryBps (by simp [FeeDistributionConfig.shares])
  have burn := share config.burnBps (by simp [FeeDistributionConfig.shares])
  have insurance := share config.insuranceFundBps (by simp [FeeDistributionConfig.shares])
  have whole : total * config.exactTotal = total * config.validatorRewardBps.val +
      total * config.treasuryBps.val + total * config.burnBps.val +
      total * config.insuranceFundBps.val := by
    rw [FeeDistributionConfig.exactTotal]
    ring
  have rewardNonneg : 0 ≤ (total * config.validatorRewardBps.val).tdiv feeBpsBase :=
    Int.tdiv_nonneg (Int.mul_nonneg (Int.le_of_lt positive)
      (nonneg _ (by simp [FeeDistributionConfig.shares]))) (by decide)
  have split : (amountsOf config total count).validators ≤
        (total * config.validatorRewardBps.val).tdiv feeBpsBase ∧
      (total * config.validatorRewardBps.val).tdiv feeBpsBase <
        (amountsOf config total count).validators + count := by
    rw [amountsOf]
    dsimp only
    rw [tdiv_eq_ediv_of_nonneg rewardNonneg]
    exact ⟨Int.ediv_mul_le _ (by omega), Int.lt_ediv_add_one_mul_self _ several |>.trans_eq (by ring)⟩
  have spelled : (amountsOf config total count).allocated =
      (amountsOf config total count).validators +
        (total * config.treasuryBps.val).tdiv feeBpsBase +
        (total * config.burnBps.val).tdiv feeBpsBase +
        (total * config.insuranceFundBps.val).tdiv feeBpsBase := rfl
  rw [whole, spelled]
  omega

theorem validatorSplit_eq_ok {validatorTotal : Int} {pair : Int × Int} (several : 0 < count) :
    validatorSplit validatorTotal count = .ok pair ↔
      (validatorTotal.tdiv count * count).natAbs < 2 ^ 256 ∧
        (validatorTotal.tdiv count, validatorTotal.tdiv count * count) = pair := by
  rw [validatorSplit, if_pos several, bind_eq_ok, SdkInt.mul]
  constructor
  · rintro ⟨product, multiplied, given⟩
    obtain ⟨small, rfl⟩ := checked_eq_ok_iff.mp multiplied
    exact ⟨small, ok.inj given⟩
  · rintro ⟨small, rfl⟩
    exact ⟨_, checked_eq_ok_iff.mpr ⟨small, rfl⟩, rfl⟩

include nonneg several in
/-- When a fee is split, and into what. -/
theorem calculateFeeBreakdown_eq_ok {result : FeeDistributionResult} (paid : 0 < fee.amount)
    (representable : fee.amount < 2 ^ 256) :
    calculateFeeBreakdown fee config count = .ok result ↔
      Coin.validDenom fee.denom ∧ (∀ bps ∈ config.shares, fee.amount * bps.val < 2 ^ 256) ∧
        (amountsOf config fee.amount count).allocated ≤ fee.amount ∧
        (amountsOf config fee.amount count).result fee count = result := by
  obtain ⟨eachNonneg, validatorsNonneg, treasuryNonneg, burnedNonneg, insuranceNonneg⟩ :=
    amountsOf_nonneg nonneg paid several
  have product (bps : I64) (member : bps ∈ config.shares) : 0 ≤ fee.amount * bps.val :=
    mul_nonneg (le_of_lt paid) (nonneg bps member)
  have spelled : (amountsOf config fee.amount count).allocated =
      (amountsOf config fee.amount count).validators +
        (amountsOf config fee.amount count).treasuryRaw +
        (amountsOf config fee.amount count).burned +
        (amountsOf config fee.amount count).insurance := rfl
  simp only [FeeDistributionConfig.shares, List.forall_mem_cons, List.not_mem_nil, false_implies,
    implies_true, and_true] at product ⊢
  obtain ⟨rewardProduct, treasuryProduct, burnProduct, insuranceProduct⟩ := product
  constructor
  · intro done
    simp only [calculateFeeBreakdown, bind_eq_ok, feeShare_eq_ok, validatorSplit_eq_ok several,
      SdkInt.add, SdkInt.sub, checked_eq_ok_iff, Coin.newCoin_eq_ok, ok.injEq] at done
    obtain ⟨_, ⟨rewardSmall, rfl⟩, _, ⟨treasurySmall, rfl⟩, _, ⟨burnSmall, rfl⟩, _,
      ⟨insuranceSmall, rfl⟩, _, ⟨_, rfl⟩, _, ⟨_, rfl⟩, _, ⟨_, rfl⟩, _, ⟨_, rfl⟩, _, ⟨_, rfl⟩, _,
      ⟨_, rfl⟩, _, ⟨denom, _, rfl⟩, _, ⟨_, _, rfl⟩, _, ⟨_, _, rfl⟩, _, ⟨_, _, rfl⟩, _,
      ⟨_, _, rfl⟩, _, ⟨_, dust, rfl⟩, rfl⟩ := done
    refine ⟨denom, ⟨by omega, by omega, by omega, by omega⟩, ?_, rfl⟩
    exact le_of_sub_nonneg dust
  · rintro ⟨denom, ⟨rewardSmall, treasurySmall, burnSmall, insuranceSmall⟩, covered, rfl⟩
    have small {value : Int} (within : 0 ≤ value ∧ value ≤ fee.amount) :
        value.natAbs < 2 ^ 256 := by omega
    generalize amounts : amountsOf config fee.amount count = split at *
    have first : 0 ≤ split.validators ∧ split.validators ≤ fee.amount := by omega
    have second : 0 ≤ split.validators + split.treasuryRaw ∧
        split.validators + split.treasuryRaw ≤ fee.amount := by omega
    have third : 0 ≤ split.validators + split.treasuryRaw + split.burned ∧
        split.validators + split.treasuryRaw + split.burned ≤ fee.amount := by omega
    have fourth : 0 ≤ split.allocated ∧ split.allocated ≤ fee.amount := by omega
    have dust : 0 ≤ fee.amount - split.allocated ∧
        fee.amount - split.allocated ≤ fee.amount := by omega
    have treasury : 0 ≤ split.treasuryRaw + (fee.amount - split.allocated) ∧
        split.treasuryRaw + (fee.amount - split.allocated) ≤ fee.amount := by omega
    subst amounts
    refine bind_eq_ok.mpr ⟨_, feeShare_eq_ok.mpr ⟨by omega, rfl⟩, ?_⟩
    refine bind_eq_ok.mpr ⟨_, feeShare_eq_ok.mpr ⟨by omega, rfl⟩, ?_⟩
    refine bind_eq_ok.mpr ⟨_, feeShare_eq_ok.mpr ⟨by omega, rfl⟩, ?_⟩
    refine bind_eq_ok.mpr ⟨_, feeShare_eq_ok.mpr ⟨by omega, rfl⟩, ?_⟩
    refine bind_eq_ok.mpr ⟨_, (validatorSplit_eq_ok several).mpr ⟨small first, rfl⟩, ?_⟩
    refine bind_eq_ok.mpr ⟨_, checked_eq_ok_iff.mpr ⟨small second, rfl⟩, ?_⟩
    refine bind_eq_ok.mpr ⟨_, checked_eq_ok_iff.mpr ⟨small third, rfl⟩, ?_⟩
    refine bind_eq_ok.mpr ⟨_, checked_eq_ok_iff.mpr ⟨small fourth, rfl⟩, ?_⟩
    refine bind_eq_ok.mpr ⟨_, checked_eq_ok_iff.mpr ⟨small dust, rfl⟩, ?_⟩
    refine bind_eq_ok.mpr ⟨_, checked_eq_ok_iff.mpr ⟨small treasury, rfl⟩, ?_⟩
    refine bind_eq_ok.mpr ⟨_, Coin.newCoin_eq_ok.mpr ⟨denom, validatorsNonneg, rfl⟩, ?_⟩
    refine bind_eq_ok.mpr ⟨_, Coin.newCoin_eq_ok.mpr ⟨denom, eachNonneg, rfl⟩, ?_⟩
    refine bind_eq_ok.mpr ⟨_, Coin.newCoin_eq_ok.mpr ⟨denom, treasury.1, rfl⟩, ?_⟩
    refine bind_eq_ok.mpr ⟨_, Coin.newCoin_eq_ok.mpr ⟨denom, burnedNonneg, rfl⟩, ?_⟩
    refine bind_eq_ok.mpr ⟨_, Coin.newCoin_eq_ok.mpr ⟨denom, insuranceNonneg, rfl⟩, ?_⟩
    refine bind_eq_ok.mpr ⟨_, Coin.newCoin_eq_ok.mpr ⟨denom, dust.1, rfl⟩, ?_⟩
    rfl

/-- The breakdown returns amounts that are not negative and add up to the fee. -/
def BreakdownExact (fee : Coin) (config : FeeDistributionConfig) (count : Int) : Prop :=
  ∃ result, calculateFeeBreakdown fee config count = .ok result ∧
    0 ≤ result.validatorRewards.amount ∧ 0 ≤ result.treasuryAmount.amount ∧
    0 ≤ result.burnedAmount.amount ∧ 0 ≤ result.insuranceFund.amount ∧
    result.validatorRewards.amount + result.treasuryAmount.amount + result.burnedAmount.amount +
      result.insuranceFund.amount = fee.amount

/-- The shares come to 100% without a wrap, and no product leaves 256 bits. -/
def FeeDistributionConfig.Sound (config : FeeDistributionConfig) (fee : Coin) : Prop :=
  config.exactTotal = 10000 ∧ ∀ bps ∈ config.shares, fee.amount * bps.val < 2 ^ 256

variable (accepted : validateFeeDistribution config = .ok ()) (paid : 0 < fee.amount)
  (bounded : count ≤ 300)

include accepted paid several bounded in
theorem allocated_le_iff :
    (amountsOf config fee.amount count).allocated ≤ fee.amount ↔ config.exactTotal = 10000 := by
  have nonneg := (validateFeeDistribution_eq_ok.mp accepted).1
  obtain ⟨most, least⟩ := allocated_bounds nonneg paid several
  constructor
  · intro covered
    rcases exactTotal_cases accepted with exact | wrapped
    · exact exact
    · rw [wrapped] at least
      omega
  · intro exact
    rw [exact] at most
    omega

include accepted paid several bounded in
theorem calculateFeeBreakdown_of_accepted {result : FeeDistributionResult}
    (representable : fee.amount < 2 ^ 256) (named : Coin.validDenom fee.denom) :
    calculateFeeBreakdown fee config count = .ok result ↔
      config.Sound fee ∧ (amountsOf config fee.amount count).result fee count = result := by
  have nonneg := (validateFeeDistribution_eq_ok.mp accepted).1
  rw [calculateFeeBreakdown_eq_ok nonneg several paid representable,
    allocated_le_iff several accepted paid bounded, FeeDistributionConfig.Sound]
  constructor
  · rintro ⟨_, small, exact, given⟩
    exact ⟨⟨exact, small⟩, given⟩
  · rintro ⟨⟨exact, small⟩, given⟩
    exact ⟨named, small, exact, given⟩

include accepted paid several bounded in
theorem breakdownExact_iff (representable : fee.amount < 2 ^ 256)
    (named : Coin.validDenom fee.denom) : BreakdownExact fee config count ↔ config.Sound fee := by
  have nonneg := (validateFeeDistribution_eq_ok.mp accepted).1
  constructor
  · rintro ⟨result, done, _⟩
    exact ((calculateFeeBreakdown_of_accepted several accepted paid bounded representable
      named).mp done).1
  · intro sound
    obtain ⟨_, validators, treasury, burned, insurance⟩ := amountsOf_nonneg nonneg paid several
    have covered := (allocated_le_iff several accepted paid bounded).mpr sound.1
    refine ⟨_, (calculateFeeBreakdown_of_accepted several accepted paid bounded representable
      named).mpr ⟨sound, rfl⟩, validators, ?_, burned, insurance, ?_⟩
    · exact add_nonneg treasury (sub_nonneg.mpr covered)
    · simp only [Amounts.result, Amounts.allocated]
      ring

end Exactness

end Pouw
