import Aethelred.Lib.Newton
import Aethelred.Lib.Result
import Aethelred.Lib.Run

/- The bonding curve and the checked arithmetic below it. `sdkmath.Int` is an integer of at most
256 bits; an operation that leaves that range panics. -/
namespace Pouw

/-- A call that does not succeed: it returns an error, or it panics. -/
inductive Fault where
  | err (text : String)
  | panic (text : String)
  deriving DecidableEq

/-- `fmt.Errorf` with `%w` around an error; a panic passes through. -/
def Fault.wrap (context : String) : Fault → Fault
  | .err text => .err (context ++ ": " ++ text)
  | .panic text => .panic text

namespace SdkInt

def overflows (value : Int) : Bool := decide (2 ^ 256 ≤ value.natAbs)

def checked (text : String) (value : Int) : Except Fault Int :=
  if overflows value then .error (.panic text) else .ok value

def add (a b : Int) : Except Fault Int := checked "Int overflow" (a + b)

def sub (a b : Int) : Except Fault Int := checked "Int overflow" (a - b)

def mul (a b : Int) : Except Fault Int := checked "Int overflow" (a * b)

end SdkInt

namespace SafeMath

def safeAdd (a b : Int) : Except Fault Int :=
  if SdkInt.overflows (a + b) then .error (.err s!"integer overflow in addition: {a} + {b}")
  else if 0 < a ∧ 0 < b ∧ (a + b < a ∨ a + b < b) then
    .error (.err s!"integer overflow in addition: {a} + {b}")
  else .ok (a + b)

def safeMul (a b : Int) : Except Fault Int :=
  if a ≠ 0 ∧ b ≠ 0 ∧ SdkInt.overflows (a * b) then
    .error (.err s!"integer overflow in multiplication: {a} * {b}")
  else .ok (a * b)

def safeMulDiv (a b c : Int) : Except Fault Int :=
  if c = 0 then .error (.err "division by zero in MulDiv")
  else SdkInt.checked "NewIntFromBigInt() out of bound" ((a * b).tdiv c)

def bpsBase : Int := 10000

def safeBpsMultiply (value bps : Int) : Except Fault Int := safeMulDiv value bps bpsBase

end SafeMath

open SafeMath

structure BondingCurveConfig where
  basePriceUAETHEL : Int
  scaleFactor : Int
  exponentScaled : Int
  maxSupply : Int
  reserveRatioBps : Int
  enabled : Bool

def defaultBondingCurveConfig : BondingCurveConfig where
  basePriceUAETHEL := 100
  scaleFactor := 100000000000
  exponentScaled := 1500
  maxSupply := 100000000000000
  reserveRatioBps := 5000
  enabled := true

def supportedBondingCurveExponents : List Int := [1000, 1500, 2000]

def unsupportedExponent (exponent : Int) : String :=
  s!"unsupported bonding curve exponent {exponent} (supported: [1000 1500 2000])"

def validateBondingCurveConfig (config : BondingCurveConfig) : Except String Unit :=
  if config.basePriceUAETHEL ≤ 0 then .error "base price must be positive"
  else if config.scaleFactor ≤ 0 then .error "scale factor must be positive"
  else if config.maxSupply ≤ 0 then .error "max supply must be positive"
  else if config.reserveRatioBps < 0 ∨ bpsBase < config.reserveRatioBps then
    let ratio := config.reserveRatioBps
    .error s!"reserve ratio bps must be in [0, {bpsBase}], got {ratio}"
  else if config.exponentScaled ∉ supportedBondingCurveExponents then
    .error (unsupportedExponent config.exponentScaled)
  else .ok ()

structure BondingCurve where
  config : BondingCurveConfig
  currentSupply : Int
  reserveBalance : Int
  configErr : Except String Unit

namespace BondingCurve

def newBondingCurve (config : BondingCurveConfig) : BondingCurve where
  config
  currentSupply := 0
  reserveBalance := 0
  configErr := validateBondingCurveConfig config

def scaledOne : Int := 1000000000000000000

def intSqrt (n : Int) : Int :=
  if n ≤ 0 then 0
  else if n = 1 then 1
  else Newton.descend n.toNat 50 (n.toNat / 2)

def priceMultiplier (exponent base : Int) : Except Fault Int :=
  if exponent = 1000 then .ok base
  else if exponent = 1500 then do
    let radicand ← SdkInt.mul base scaledOne
    safeMulDiv base (intSqrt radicand) scaledOne
  else if exponent = 2000 then safeMulDiv base base scaledOne
  else .error (.err (unsupportedExponent exponent))

def getPriceAtSupply (config : BondingCurveConfig) (supply : Int) : Except Fault Int :=
  if config.exponentScaled ∉ supportedBondingCurveExponents then
    .error (.err (unsupportedExponent config.exponentScaled))
  else if supply = 0 then .ok config.basePriceUAETHEL
  else do
    let supplyRatio ← safeMulDiv supply scaledOne config.scaleFactor
    let base ← SdkInt.add scaledOne supplyRatio
    let multiplier ← priceMultiplier config.exponentScaled base
    safeMulDiv config.basePriceUAETHEL multiplier scaledOne

variable (curve : BondingCurve)

/-- `configErr` and the switch, checked first by both calculations. -/
def usable : Except Fault Unit :=
  match curve.configErr with
  | .error text => .error (.err text)
  | .ok () => if curve.config.enabled then .ok () else .error (.err "bonding curve is disabled")

variable (tokenAmount : Int)

def stepsOf : Int × Int :=
  if tokenAmount.tdiv 100 = 0 then (1, tokenAmount) else (tokenAmount.tdiv 100, 100)

def addStep (config : BondingCurveConfig) (what : String) (stepSize total supply : Int) :
    Except Fault Int := do
  let priceAtStep ← (getPriceAtSupply config supply).mapError
    (Fault.wrap "failed to evaluate price at supply")
  let stepValue ← (safeMul priceAtStep stepSize).mapError
    (Fault.wrap s!"overflow calculating step {what}")
  (safeAdd total stepValue).mapError (Fault.wrap s!"overflow calculating total {what}")

def costLoop (config : BondingCurveConfig) (stepSize : Int) : Nat → Int → Int → Except Fault Int
  | 0, total, _ => .ok total
  | steps + 1, total, supply => do
      let total ← addStep config "cost" stepSize total supply
      let supply ← SdkInt.add supply stepSize
      costLoop config stepSize steps total supply

def returnLoop (config : BondingCurveConfig) (stepSize : Int) : Nat → Int → Int → Except Fault Int
  | 0, total, _ => .ok total
  | steps + 1, total, supply => do
      let supply ← SdkInt.sub supply stepSize
      let total ← addStep config "return" stepSize total supply
      returnLoop config stepSize steps total supply

def calculatePurchaseCost : Except Fault Int := do
  curve.usable
  let newSupply ← SdkInt.add curve.currentSupply tokenAmount
  if curve.config.maxSupply < newSupply then
    let supply := curve.currentSupply
    let limit := curve.config.maxSupply
    .error (.err s!"purchase would exceed max supply: {supply} + {tokenAmount} > {limit}")
  else
    let (stepSize, steps) := stepsOf tokenAmount
    let totalCost ← costLoop curve.config stepSize steps.toNat 0 curve.currentSupply
    .ok (totalCost.tdiv 1000000)

def calculateSaleReturn : Except Fault Int := do
  curve.usable
  if curve.currentSupply < tokenAmount then
    .error (.err "cannot sell more than current supply")
  else
    let (stepSize, steps) := stepsOf tokenAmount
    let totalReturn ← returnLoop curve.config stepSize steps.toNat 0 curve.currentSupply
    safeBpsMultiply (totalReturn.tdiv 1000000) curve.config.reserveRatioBps

/-- The curve after a purchase, and its cost. The error of the last multiplication is dropped; it
has none, since its divisor is not zero. -/
def executePurchase : Except Fault (BondingCurve × Int) := do
  let cost ← curve.calculatePurchaseCost tokenAmount
  let currentSupply ← SdkInt.add curve.currentSupply tokenAmount
  let reserveAddition ← safeBpsMultiply cost curve.config.reserveRatioBps
  let reserveBalance ← SdkInt.add curve.reserveBalance reserveAddition
  .ok ({ curve with currentSupply, reserveBalance }, cost)

def executeSale : Except Fault (BondingCurve × Int) := do
  let returnAmount ← curve.calculateSaleReturn tokenAmount
  if curve.reserveBalance < returnAmount then .error (.err "insufficient reserve balance")
  else
    let currentSupply ← SdkInt.sub curve.currentSupply tokenAmount
    let reserveBalance ← SdkInt.sub curve.reserveBalance returnAmount
    .ok ({ curve with currentSupply, reserveBalance }, returnAmount)

inductive Trade where
  | purchase (tokenAmount : Int)
  | sale (tokenAmount : Int)
  deriving DecidableEq

def Trade.amount : Trade → Int
  | .purchase tokenAmount | .sale tokenAmount => tokenAmount

def trade : Trade → Except Fault BondingCurve
  | .purchase tokenAmount => (curve.executePurchase tokenAmount).map (·.1)
  | .sale tokenAmount => (curve.executeSale tokenAmount).map (·.1)

variable (call : Trade)

/-- A trade of a positive amount that the curve accepts. -/
def Succeeds : Prop :=
  0 < call.amount ∧ ∃ next, curve.trade call = .ok next

instance : Decidable (curve.Succeeds call) :=
  decidable_of_iff (0 < call.amount ∧ (curve.trade call).toOption.isSome = true) <| by
    simp only [Succeeds, Option.isSome_iff_exists, Except.toOption_eq_some]

/-- A refused trade changes nothing. -/
def step : BondingCurve :=
  (curve.trade call).toOption.getD curve

def run (calls : List Trade) : BondingCurve := Run.exec step curve calls

end BondingCurve

end Pouw
