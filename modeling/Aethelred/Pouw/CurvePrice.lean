import Aethelred.Pouw.BondingCurve

/- The price as a function of the supply, and what the two pricing loops come to. -/
namespace Pouw.BondingCurve

open SafeMath StepSum Except Nat Int

theorem sqrt_le_half {n : Nat} (large : 2 ≤ n) : n.sqrt ≤ n / 2 := by
  refine Nat.lt_succ_iff.mp (Nat.sqrt_lt.mpr ?_)
  obtain ⟨half, even | odd⟩ := Nat.even_or_odd' n
  · have : n / 2 = half := by omega
    rw [this, succ_eq_add_one]
    nlinarith
  · have : n / 2 = half := by omega
    have : 1 ≤ half := by omega
    rw [‹n / 2 = half›, succ_eq_add_one]
    nlinarith

theorem intSqrt_nonneg (n : Int) : 0 ≤ intSqrt n := by
  unfold intSqrt
  split
  · exact le_refl 0
  · split
    · decide
    · exact natCast_nonneg _

theorem intSqrt_mono {a b : Int} (order : a ≤ b) : intSqrt a ≤ intSqrt b := by
  by_cases low : a ≤ 0
  · have zero : intSqrt a = 0 := if_pos low
    rw [zero]
    exact intSqrt_nonneg b
  · have atLeast : ∀ {c : Int}, 1 < c →
        intSqrt c = Newton.descend c.toNat 50 (c.toNat / 2) := by
      intro c above
      rw [intSqrt, if_neg (by omega), if_neg (by omega)]
    have guess : ∀ {c : Int}, 1 < c → c.toNat.sqrt ≤ c.toNat / 2 :=
      fun above => sqrt_le_half (by omega)
    rcases lt_or_eq_of_le (show 1 ≤ a by omega) with above | rfl
    · rw [atLeast above, atLeast (by omega), ofNat_le]
      exact Newton.descend_mono 50 (by omega) (Nat.div_le_div_right (by omega)) (guess above)
        (guess (by omega))
    · rcases lt_or_eq_of_le order with above | rfl
      · rw [atLeast above, show intSqrt 1 = ((1 : Nat) : Int) from rfl, Int.ofNat_le]
        refine le_trans ?_ (Newton.sqrt_le_descend 50 (guess above))
        exact le_sqrt.mpr (by omega)
      · exact le_refl _

/-- `priceMultiplier` before its overflow checks. -/
def multiplierOf (exponent base : Int) : Int :=
  if exponent = 1000 then base
  else if exponent = 1500 then (base * intSqrt (base * scaledOne)).tdiv scaledOne
  else (base * base).tdiv scaledOne

/-- `getPriceAtSupply` before its overflow checks. -/
def curvePrice (config : BondingCurveConfig) (supply : Int) : Int :=
  if supply = 0 then config.basePriceUAETHEL
  else
    (config.basePriceUAETHEL * multiplierOf config.exponentScaled
      (scaledOne + (supply * scaledOne).tdiv config.scaleFactor)).tdiv scaledOne

section Checked

variable {a b c value : Int} {text : String}

theorem checked_eq_ok (done : SdkInt.checked text a = .ok value) : value = a := by
  unfold SdkInt.checked at done
  rw [ite_error_eq_ok] at done
  exact (ok.inj done.2).symm

theorem safeMulDiv_eq_ok (done : safeMulDiv a b c = .ok value) : value = (a * b).tdiv c := by
  unfold safeMulDiv at done
  rw [ite_error_eq_ok] at done
  exact checked_eq_ok done.2

theorem safeMul_eq_ok (done : safeMul a b = .ok value) : value = a * b := by
  unfold safeMul at done
  rw [ite_error_eq_ok] at done
  exact (ok.inj done.2).symm

theorem safeAdd_eq_ok (done : safeAdd a b = .ok value) : value = a + b := by
  unfold safeAdd at done
  rw [ite_error_eq_ok, ite_error_eq_ok] at done
  exact (ok.inj done.2.2).symm

theorem priceMultiplier_eq_ok {exponent base : Int}
    (done : priceMultiplier exponent base = .ok value) : value = multiplierOf exponent base := by
  unfold priceMultiplier at done
  unfold multiplierOf
  split
  next linear =>
    rw [if_pos linear] at done
    exact (ok.inj done).symm
  next linear =>
    rw [if_neg linear] at done
    split
    next root =>
      rw [if_pos root] at done
      obtain ⟨radicand, multiplied, done⟩ := bind_eq_ok.mp done
      rw [safeMulDiv_eq_ok done, checked_eq_ok multiplied]
    next root =>
      rw [if_neg root] at done
      split at done
      · exact safeMulDiv_eq_ok done
      · contradiction

theorem getPriceAtSupply_eq_ok {config : BondingCurveConfig} {supply : Int}
    (done : getPriceAtSupply config supply = .ok value) : value = curvePrice config supply := by
  unfold getPriceAtSupply at done
  rw [ite_error_eq_ok] at done
  replace done := done.2
  unfold curvePrice
  split
  next empty =>
    rw [if_pos empty] at done
    exact (ok.inj done).symm
  next empty =>
    rw [if_neg empty] at done
    obtain ⟨ratio, divided, done⟩ := bind_eq_ok.mp done
    obtain ⟨base, added, done⟩ := bind_eq_ok.mp done
    obtain ⟨multiplier, powered, done⟩ := bind_eq_ok.mp done
    rw [safeMulDiv_eq_ok done, priceMultiplier_eq_ok powered, checked_eq_ok added,
      safeMulDiv_eq_ok divided]

end Checked

section Growth

variable {config : BondingCurveConfig}

theorem scaledOne_pos : 0 < scaledOne := by decide

theorem multiplierOf_mono {exponent x y : Int} (start : scaledOne ≤ x) (order : x ≤ y) :
    multiplierOf exponent x ≤ multiplierOf exponent y := by
  have nonneg : 0 ≤ x := le_trans (le_of_lt scaledOne_pos) start
  unfold multiplierOf
  split
  · exact order
  · split
    · refine Int.tdiv_le_tdiv scaledOne_pos ?_
      have roots : intSqrt (x * scaledOne) ≤ intSqrt (y * scaledOne) :=
        intSqrt_mono (mul_le_mul_of_nonneg_right order (le_of_lt scaledOne_pos))
      exact mul_le_mul order roots (intSqrt_nonneg _) (le_trans nonneg order)
    · refine Int.tdiv_le_tdiv scaledOne_pos ?_
      exact Int.mul_le_mul order order nonneg (Int.le_trans nonneg order)

theorem scaledOne_le_multiplierOf {exponent x : Int} (start : scaledOne ≤ x) :
    scaledOne ≤ multiplierOf exponent x := by
  refine le_trans ?_ (multiplierOf_mono (le_refl _) start)
  unfold multiplierOf
  split
  · exact le_refl _
  · split <;> decide +kernel

theorem base_le {supply : Int} (valid : 0 < config.scaleFactor) (nonneg : 0 ≤ supply) :
    scaledOne ≤ scaledOne + (supply * scaledOne).tdiv config.scaleFactor := by
  have quotient : 0 ≤ (supply * scaledOne).tdiv config.scaleFactor :=
    Int.tdiv_nonneg (Int.mul_nonneg nonneg (Int.le_of_lt scaledOne_pos)) (Int.le_of_lt valid)
  omega

theorem valid_iff : validateBondingCurveConfig config = .ok () ↔ 0 < config.basePriceUAETHEL ∧
    0 < config.scaleFactor ∧ 0 < config.maxSupply ∧
    (0 ≤ config.reserveRatioBps ∧ config.reserveRatioBps ≤ bpsBase) ∧
    config.exponentScaled ∈ supportedBondingCurveExponents := by
  simp only [validateBondingCurveConfig, ite_error_eq_ok, not_le, not_or, not_lt, not_not,
    and_true]

variable (valid : validateBondingCurveConfig config = .ok ())

include valid in
/-- The price grows with the supply. -/
theorem curvePrice_mono (x y : Int) (nonneg : 0 ≤ x) (order : x ≤ y) :
    curvePrice config x ≤ curvePrice config y := by
  obtain ⟨price, scale, -⟩ := valid_iff.mp valid
  have later : ∀ {z : Int}, 0 ≤ z → config.basePriceUAETHEL ≤ (config.basePriceUAETHEL *
      multiplierOf config.exponentScaled
        (scaledOne + (z * scaledOne).tdiv config.scaleFactor)).tdiv scaledOne := by
    intro z nonneg
    rw [tdiv_eq_ediv_of_nonneg]
    · rw [Int.le_ediv_iff_mul_le scaledOne_pos]
      exact mul_le_mul_of_nonneg_left (scaledOne_le_multiplierOf (base_le scale nonneg))
        (le_of_lt price)
    · refine mul_nonneg (le_of_lt price) (le_trans (le_of_lt scaledOne_pos) ?_)
      exact scaledOne_le_multiplierOf (base_le scale nonneg)
  unfold curvePrice
  split
  next =>
    split
    · exact le_refl _
    · exact later (by omega)
  next positive =>
    rw [if_neg (by omega)]
    refine Int.tdiv_le_tdiv scaledOne_pos (Int.mul_le_mul_of_nonneg_left ?_ (Int.le_of_lt price))
    refine multiplierOf_mono (base_le scale nonneg) (Int.add_le_add_left ?_ _)
    refine Int.tdiv_le_tdiv scale ?_
    exact Int.mul_le_mul_of_nonneg_right order (Int.le_of_lt scaledOne_pos)

include valid in
theorem curvePrice_nonneg (x : Int) (nonneg : 0 ≤ x) : 0 ≤ curvePrice config x := by
  obtain ⟨price, -⟩ := valid_iff.mp valid
  refine le_trans ?_ (curvePrice_mono valid 0 x (le_refl 0) nonneg)
  exact le_of_lt price

end Growth

section Loops

variable {config : BondingCurveConfig} {size : Nat} {start supply value : Int} {what : String}

theorem addStep_eq_ok (done : addStep config what size start supply = .ok value) :
    value = start + curvePrice config supply * size := by
  unfold addStep at done
  obtain ⟨price, priced, done⟩ := bind_eq_ok.mp done
  obtain ⟨product, multiplied, done⟩ := bind_eq_ok.mp done
  rw [safeAdd_eq_ok (mapError_eq_ok done), safeMul_eq_ok (mapError_eq_ok multiplied),
    getPriceAtSupply_eq_ok (mapError_eq_ok priced)]

theorem costLoop_eq_ok (steps : Nat) (done : costLoop config size steps start supply = .ok value) :
    value = start + stepped (curvePrice config) supply size steps := by
  induction steps generalizing start supply with
  | zero => simpa [costLoop, stepped] using done.symm
  | succ steps ih =>
    obtain ⟨sum, stepDone, done⟩ := bind_eq_ok.mp done
    obtain ⟨moved, added, done⟩ := bind_eq_ok.mp done
    rw [ih done, addStep_eq_ok stepDone, checked_eq_ok added, stepped, add_assoc]

theorem returnLoop_le (valid : validateBondingCurveConfig config = .ok ()) (steps : Nat)
    (done : returnLoop config size steps start supply = .ok value) {bottom : Int}
    (bottomed : bottom + (steps * size : Nat) = supply) (nonneg : 0 ≤ bottom) :
    value ≤ start + total (curvePrice config) bottom (steps * size) := by
  induction steps generalizing start supply with
  | zero => simpa [returnLoop] using le_of_eq (ok.inj done).symm
  | succ steps ih =>
    obtain ⟨moved, subtracted, done⟩ := bind_eq_ok.mp done
    obtain ⟨sum, stepDone, done⟩ := bind_eq_ok.mp done
    rw [succ_mul, total_add]
    rw [Nat.succ_mul, Nat.cast_add] at bottomed
    have down : bottom + (steps * size : Nat) = moved := by
      rw [checked_eq_ok subtracted]
      omega
    have first := mul_le_total (f := curvePrice config) (s := moved)
      (fun x y above => curvePrice_mono valid x y (by omega)) size
    have rest := ih done down
    rw [addStep_eq_ok stepDone] at rest
    rw [down]
    omega

theorem stepsOf_spec {amount : Int} (positive : 0 < amount) : ∃ size blocks : Nat,
    stepsOf amount = ((size : Int), (blocks : Int)) ∧ blocks * size ≤ amount.toNat := by
  obtain ⟨count, rfl⟩ := eq_ofNat_of_zero_le (le_of_lt positive)
  have quotient : (count : Int).tdiv 100 = (count / 100 : Nat) := rfl
  unfold stepsOf
  rw [quotient]
  split
  · exact ⟨1, count, rfl, by simp⟩
  · exact ⟨count / 100, 100, rfl, by simpa using mul_div_le count 100⟩

end Loops

/- The price against the supply. A price grows with the supply whatever the exponent is. The root
that the exponent 1500 takes starts at half its radicand, a number of at least 37 digits, and fifty
rounds are never enough for it. -/

/-- The number that `getPriceAtSupply` passes to `intSqrt`. -/
def radicandAt (config : BondingCurveConfig) (supply : Int) : Except Fault Int := do
  let supplyRatio ← safeMulDiv supply scaledOne config.scaleFactor
  let base ← SdkInt.add scaledOne supplyRatio
  SdkInt.mul base scaledOne

/-- A price for every supply, no less for a larger one, and taken from exact roots. -/
structure PricedOnCurve (config : BondingCurveConfig) : Prop where
  increasing : ∀ s t : Int, 0 ≤ s → s ≤ t → t ≤ config.maxSupply →
    ∃ low high, getPriceAtSupply config s = .ok low ∧ getPriceAtSupply config t = .ok high ∧
      low ≤ high
  root : config.exponentScaled = 1500 → ∀ s n : Int, 0 < s → s ≤ config.maxSupply →
    radicandAt config s = .ok n → intSqrt n = n.toNat.sqrt

/-- One and the supply over the scale factor, both in units of `scaledOne`. -/
def baseAt (config : BondingCurveConfig) (supply : Int) : Int :=
  scaledOne + (supply * scaledOne).tdiv config.scaleFactor

/-- The price of the largest supply, and what is computed on the way to it, has at most 256 bits. -/
structure PriceFits (config : BondingCurveConfig) : Prop where
  base : baseAt config config.maxSupply < 2 ^ 256
  multiplier : multiplierOf config.exponentScaled (baseAt config config.maxSupply) < 2 ^ 256
  price : curvePrice config config.maxSupply < 2 ^ 256

/-- Fifty halvings of half of a number of 37 digits stay above its root. -/
theorem sqrt_lt_descend {n : Nat} (large : 10 ^ 36 ≤ n) : n.sqrt < Newton.descend n 50 (n / 2) := by
  have root : 10 ^ 18 ≤ n.sqrt := le_sqrt.mpr (by omega)
  have square : n.sqrt * n.sqrt ≤ n := sqrt_le n
  have above : n.sqrt < n / 2 / 2 ^ 50 := by
    rw [Nat.div_div_eq_div_mul, Nat.lt_iff_add_one_le, Nat.le_div_iff_mul_le (by decide)]
    nlinarith
  exact above.trans_le (Newton.div_two_pow_le_descend 50)

theorem intSqrt_ne_sqrt {n : Int} (large : 10 ^ 36 ≤ n) : intSqrt n ≠ n.toNat.sqrt := by
  rw [intSqrt, if_neg (by omega), if_neg (by omega)]
  intro exact_root
  have above := sqrt_lt_descend (n := n.toNat) (by omega)
  omega

section Bits

variable {a b c value : Int} {text : String}

theorem checked_of_lt (nonneg : 0 ≤ a) (small : a < 2 ^ 256) : SdkInt.checked text a = .ok a := by
  rw [SdkInt.checked, if_neg]
  simp only [SdkInt.overflows, decide_eq_true_eq]
  omega

theorem lt_of_checked (done : SdkInt.checked text a = .ok value) : a < 2 ^ 256 := by
  unfold SdkInt.checked at done
  rw [ite_error_eq_ok] at done
  have small := done.1
  simp only [SdkInt.overflows, decide_eq_true_eq] at small
  omega

theorem safeMulDiv_of_lt (positive : 0 < c) (nonneg : 0 ≤ a * b)
    (small : (a * b).tdiv c < 2 ^ 256) : safeMulDiv a b c = .ok ((a * b).tdiv c) := by
  rw [safeMulDiv, if_neg (by omega)]
  exact checked_of_lt (Int.tdiv_nonneg nonneg (Int.le_of_lt positive)) small

theorem lt_of_safeMulDiv (positive : 0 < c) (done : safeMulDiv a b c = .ok value) :
    (a * b).tdiv c < 2 ^ 256 := by
  rw [safeMulDiv, if_neg (by omega)] at done
  exact lt_of_checked done

end Bits

section Fits

variable {config : BondingCurveConfig}

theorem baseAt_mono (scale : 0 < config.scaleFactor) {s t : Int} (order : s ≤ t) :
    baseAt config s ≤ baseAt config t := by
  apply Int.add_le_add_left
  apply Int.tdiv_le_tdiv scale
  exact Int.mul_le_mul_of_nonneg_right order (Int.le_of_lt scaledOne_pos)

theorem priceMultiplier_of_lt {exponent base : Int}
    (supported : exponent ∈ supportedBondingCurveExponents) (rootless : exponent ≠ 1500)
    (small : multiplierOf exponent base < 2 ^ 256) :
    priceMultiplier exponent base = .ok (multiplierOf exponent base) := by
  unfold priceMultiplier multiplierOf at *
  split
  · rfl
  next other =>
    have quadratic : exponent = 2000 := by
      simp only [supportedBondingCurveExponents, List.mem_cons, List.not_mem_nil, or_false]
        at supported
      omega
    rw [if_pos quadratic]
    rw [if_neg other, if_neg rootless] at small
    exact safeMulDiv_of_lt scaledOne_pos (mul_self_nonneg base) small

theorem multiplier_lt_of_ok {exponent base value : Int} (small : base < 2 ^ 256)
    (done : priceMultiplier exponent base = .ok value) : multiplierOf exponent base < 2 ^ 256 := by
  unfold priceMultiplier at done
  unfold multiplierOf
  split
  · exact small
  next other =>
    rw [if_neg other] at done
    split
    next root =>
      rw [if_pos root] at done
      obtain ⟨radicand, multiplied, done⟩ := bind_eq_ok.mp done
      rw [← checked_eq_ok multiplied]
      exact lt_of_safeMulDiv scaledOne_pos done
    next root =>
      rw [if_neg root] at done
      split at done
      · exact lt_of_safeMulDiv scaledOne_pos done
      · contradiction

variable (valid : validateBondingCurveConfig config = .ok ())

include valid in
/-- Where products fit, the price is the curve's. -/
theorem getPriceAtSupply_of_fits (rootless : config.exponentScaled ≠ 1500)
    (fits : PriceFits config) {s : Int} (nonneg : 0 ≤ s) (supplied : s ≤ config.maxSupply) :
    getPriceAtSupply config s = .ok (curvePrice config s) := by
  obtain ⟨price, scale, -, -, supported⟩ := valid_iff.mp valid
  have bounded : curvePrice config s < 2 ^ 256 :=
    lt_of_le_of_lt (curvePrice_mono valid s _ nonneg supplied) fits.price
  have start : scaledOne ≤ baseAt config s := base_le scale nonneg
  have base : baseAt config s ≤ baseAt config config.maxSupply := baseAt_mono scale supplied
  have multiplier : multiplierOf config.exponentScaled (baseAt config s) < 2 ^ 256 :=
    lt_of_le_of_lt (multiplierOf_mono start base) fits.multiplier
  have ratio : safeMulDiv s scaledOne config.scaleFactor =
      .ok ((s * scaledOne).tdiv config.scaleFactor) := by
    apply safeMulDiv_of_lt scale
    · exact mul_nonneg nonneg (le_of_lt scaledOne_pos)
    · have positive := scaledOne_pos
      have small := lt_of_le_of_lt base fits.base
      unfold baseAt at small
      omega
  have sum : SdkInt.add scaledOne ((s * scaledOne).tdiv config.scaleFactor) =
      .ok (baseAt config s) := by
    apply checked_of_lt
    · exact le_trans (le_of_lt scaledOne_pos) start
    · exact lt_of_le_of_lt base fits.base
  unfold getPriceAtSupply
  rw [if_neg (not_not.mpr supported)]
  unfold curvePrice at bounded ⊢
  split
  · rfl
  next supplied =>
    rw [if_neg supplied] at bounded
    refine bind_eq_ok.mpr ⟨_, ratio, bind_eq_ok.mpr ⟨_, sum, ?_⟩⟩
    refine bind_eq_ok.mpr ⟨_, priceMultiplier_of_lt supported rootless multiplier, ?_⟩
    apply safeMulDiv_of_lt scaledOne_pos _ bounded
    apply mul_nonneg (le_of_lt price)
    exact le_trans (le_of_lt scaledOne_pos) (scaledOne_le_multiplierOf start)

include valid in
theorem fits_of_ok {value : Int} (done : getPriceAtSupply config config.maxSupply = .ok value) :
    PriceFits config := by
  obtain ⟨-, scale, supply, -, supported⟩ := valid_iff.mp valid
  unfold getPriceAtSupply at done
  rw [if_neg (not_not.mpr supported), if_neg (by omega)] at done
  obtain ⟨ratio, divided, done⟩ := bind_eq_ok.mp done
  obtain ⟨base, added, done⟩ := bind_eq_ok.mp done
  obtain ⟨multiplier, powered, done⟩ := bind_eq_ok.mp done
  have small := lt_of_checked added
  obtain rfl := checked_eq_ok added
  obtain rfl := safeMulDiv_eq_ok divided
  have bounded := multiplier_lt_of_ok small powered
  obtain rfl := priceMultiplier_eq_ok powered
  refine ⟨small, bounded, ?_⟩
  rw [curvePrice, if_neg (by omega)]
  exact lt_of_safeMulDiv scaledOne_pos done

include valid in
theorem radicandAt_one : ∃ n, radicandAt config 1 = .ok n ∧ 10 ^ 36 ≤ n := by
  obtain ⟨-, scale, -⟩ := valid_iff.mp valid
  have start : scaledOne ≤ baseAt config 1 := base_le scale (by decide)
  have small : (1 * scaledOne).tdiv config.scaleFactor ≤ scaledOne := by
    rw [one_mul, tdiv_eq_ediv_of_nonneg (le_of_lt scaledOne_pos)]
    exact ediv_le_self _ (le_of_lt scaledOne_pos)
  have one : scaledOne = 10 ^ 18 := by decide
  have ratio := safeMulDiv_of_lt (a := 1) (b := scaledOne) scale (by decide) (by omega)
  have sum : SdkInt.add scaledOne ((1 * scaledOne).tdiv config.scaleFactor) =
      .ok (baseAt config 1) := by
    unfold baseAt at start ⊢
    exact checked_of_lt (by omega) (by omega)
  refine ⟨baseAt config 1 * scaledOne, ?_, ?_⟩
  · refine bind_eq_ok.mpr ⟨_, ratio, bind_eq_ok.mpr ⟨_, sum, ?_⟩⟩
    apply checked_of_lt
    · exact mul_nonneg (by omega) (by omega)
    · unfold baseAt
      rw [one] at small ⊢
      omega
  · rw [one] at start ⊢
    omega

end Fits

/-- A valid curve prices every supply as it says exactly when it takes no root and its last price
fits. -/
theorem priced_on_curve_iff (config : BondingCurveConfig)
    (valid : validateBondingCurveConfig config = .ok ()) :
    PricedOnCurve config ↔ config.exponentScaled ≠ 1500 ∧ PriceFits config := by
  obtain ⟨-, -, supply, -⟩ := valid_iff.mp valid
  constructor
  · intro priced
    constructor
    · intro takes_root
      obtain ⟨n, passed, large⟩ := radicandAt_one valid
      exact intSqrt_ne_sqrt large (priced.root takes_root 1 n (by decide) (by omega) passed)
    · obtain ⟨low, high, -, done, -⟩ := priced.increasing 0 config.maxSupply (by decide)
        (by omega) (le_refl _)
      exact fits_of_ok valid done
  · rintro ⟨rootless, fits⟩
    constructor
    · intro s t nonneg order supplied
      refine ⟨_, _, getPriceAtSupply_of_fits valid rootless fits nonneg (by omega),
        getPriceAtSupply_of_fits valid rootless fits (by omega) supplied, ?_⟩
      exact curvePrice_mono valid s t nonneg order
    · intro takes_root
      exact absurd takes_root rootless

/-- The default curve with its exponent set to one. -/
theorem priced_on_curve_linear : PricedOnCurve { defaultBondingCurveConfig with
    exponentScaled := 1000 } := by
  refine (priced_on_curve_iff _ rfl).mpr ⟨by decide, ?_⟩
  constructor
  all_goals decide +kernel

/-- On the default curve the root of the first token is over 444 times too large, and so is its
price. -/
theorem not_priced_on_default_curve :
    ¬(∀ config : BondingCurveConfig, validateBondingCurveConfig config = .ok () →
      PricedOnCurve config) ∧
    getPriceAtSupply defaultBondingCurveConfig 0 = .ok 100 ∧
    getPriceAtSupply defaultBondingCurveConfig 1 = .ok 44408 := by
  refine ⟨fun every => ?_, rfl, by decide +kernel⟩
  have exact_root := (every defaultBondingCurveConfig rfl).root rfl 1
    1000000000010000000000000000000000000 (by decide) (by decide) (by decide +kernel)
  exact intSqrt_ne_sqrt (by decide) exact_root

end Pouw.BondingCurve
