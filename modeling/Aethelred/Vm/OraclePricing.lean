import Aethelred.Vm.ComplianceBonds

/- Oracle requests of the PoUW engine (`pouw_engine.rs`): what a request is quoted and what it is
charged. The switch for the sovereignty premium is read by the quote only. -/
namespace Vm

open Go Bytes

inductive SovereigntyRegion
  | Public | EuropeanUnion | UnitedArabEmirates | Singapore | UnitedStates | Switzerland | Japan
  | Australia | UnitedKingdom | China
  deriving DecidableEq

namespace SovereigntyRegion

def premiumMultiplierBps (region : SovereigntyRegion) (verified : Bool) : Nat :=
  let base := match region with
    | Public => 100
    | EuropeanUnion => 300
    | UnitedArabEmirates => 500
    | Singapore => 350
    | UnitedStates => 250
    | Switzerland => 600
    | Japan => 280
    | Australia => 220
    | UnitedKingdom => 280
    | China => 400
  if verified then base * 150 / 100 else base

/-- `from_str` of a name in upper case. -/
def ofUppercase (name : String) : Option SovereigntyRegion :=
  if name ∈ ["INTL", "PUBLIC"] then some Public
  else if name ∈ ["EU", "EUR", "EUROPEAN_UNION"] then some EuropeanUnion
  else if name ∈ ["AE", "UAE", "UNITED_ARAB_EMIRATES"] then some UnitedArabEmirates
  else if name ∈ ["SG", "SINGAPORE"] then some Singapore
  else if name ∈ ["US", "USA", "UNITED_STATES"] then some UnitedStates
  else if name ∈ ["CH", "SWITZERLAND"] then some Switzerland
  else if name ∈ ["JP", "JAPAN"] then some Japan
  else if name ∈ ["AU", "AUSTRALIA"] then some Australia
  else if name ∈ ["GB", "UK", "UNITED_KINGDOM"] then some UnitedKingdom
  else if name ∈ ["CN", "CHINA"] then some China
  else none

end SovereigntyRegion

inductive DataVerificationLevel
  | Unverified | SelfAttested | ThirdPartyVerified | AuthorityVerified | TeeAttested
  | ZkProofVerified
  deriving DecidableEq

namespace DataVerificationLevel

def verificationPremiumBps : DataVerificationLevel → Nat
  | Unverified => 100
  | SelfAttested => 110
  | ThirdPartyVerified => 150
  | AuthorityVerified => 200
  | TeeAttested => 250
  | ZkProofVerified => 300

def isVerified : DataVerificationLevel → Bool
  | Unverified | SelfAttested => false
  | ThirdPartyVerified | AuthorityVerified | TeeAttested | ZkProofVerified => true

end DataVerificationLevel

inductive DataCategory
  | Public | Financial | Healthcare | Identity | Commercial | Government | IoTSensor | AiModelData
  deriving DecidableEq

def DataCategory.baseMultiplierBps : DataCategory → Nat
  | Public => 100
  | Financial => 200
  | Healthcare => 400
  | Identity => 500
  | Commercial => 300
  | Government => 350
  | IoTSensor => 150
  | AiModelData => 800

structure OracleDataRequest where
  requestId : Hash
  requester : Address
  provider : Address
  region : SovereigntyRegion
  verificationLevel : DataVerificationLevel
  category : DataCategory
  basePrice : Nat
  premiumMultiplierBps : Nat
  finalPrice : Nat
  timestamp : Fin (2 ^ 64)
  fulfilled : Bool

structure ProviderStats where
  provider : Address
  totalRequests : Nat := 0
  totalEarnings : Nat := 0
  requestsByRegion : Map SovereigntyRegion Nat := ∅
  avgPremiumBps : Nat := 0
  reputationScore : Nat := 5000
  lastActive : Nat := 0

def ProviderStats.recordRequest (stats : ProviderStats) (price : Nat) (region : SovereigntyRegion)
    (timestamp : Nat) : ProviderStats :=
  { stats with
    totalRequests := addU64 stats.totalRequests 1
    totalEarnings := addU128 stats.totalEarnings price
    requestsByRegion := stats.requestsByRegion.insert region
      (addU64 (stats.requestsByRegion.get region 0) 1)
    lastActive := timestamp }

structure SovereigntyOracle where
  basePrice : Nat := ONE_AETHEL / 100
  totalRequests : Nat := 0
  totalPremiumCollected : Nat := 0
  requestsByRegion : Map SovereigntyRegion Nat := ∅
  revenueByRegion : Map SovereigntyRegion Nat := ∅
  providerStats : Map Address ProviderStats := ∅

namespace SovereigntyOracle

def combinedMultiplier (region : SovereigntyRegion) (verification : DataVerificationLevel)
    (category : DataCategory) : Nat :=
  category.baseMultiplierBps * region.premiumMultiplierBps verification.isVerified *
    verification.verificationPremiumBps / 10000

def calculatePrice (oracle : SovereigntyOracle) (region : SovereigntyRegion)
    (verification : DataVerificationLevel) (category : DataCategory) : Nat × Nat :=
  let combined := combinedMultiplier region verification category
  (mulU128 oracle.basePrice combined / 100, combined % 2 ^ 16)

def processRequest (requestId : Hash) (requester provider : Address) (region : SovereigntyRegion)
    (verification : DataVerificationLevel) (category : DataCategory) (timestamp : Fin (2 ^ 64))
    (oracle : SovereigntyOracle) : OracleDataRequest × SovereigntyOracle :=
  let price := oracle.calculatePrice region verification category
  ({ requestId, requester, provider, region
     verificationLevel := verification
     category
     basePrice := oracle.basePrice
     premiumMultiplierBps := price.2
     finalPrice := price.1
     timestamp
     fulfilled := false },
   { oracle with
     totalRequests := addU64 oracle.totalRequests 1
     totalPremiumCollected := addU128 oracle.totalPremiumCollected price.1
     requestsByRegion := oracle.requestsByRegion.insert region
       (addU64 (oracle.requestsByRegion.get region 0) 1)
     revenueByRegion := oracle.revenueByRegion.insert region
       (addU128 (oracle.revenueByRegion.get region 0) price.1)
     providerStats := oracle.providerStats.insert provider
       ((oracle.providerStats.get provider { provider }).recordRequest price.1 region timestamp) })

end SovereigntyOracle

structure OracleEngine where
  enableSovereigntyPremium : Bool
  sovereigntyOracle : SovereigntyOracle := {}
  currentTime : Fin (2 ^ 64) := 0

namespace OracleEngine

section Calls

variable (sha256 : List UInt8 → Hash) (toUppercase : String → String)

def regionOf (region : String) : SovereigntyRegion :=
  (SovereigntyRegion.ofUppercase (toUppercase region)).getD .Public

variable (engine : OracleEngine)

def priceOracleData (region : String)
    (verification : DataVerificationLevel) (category : DataCategory) : Nat × Nat :=
  if engine.enableSovereigntyPremium = false then (engine.sovereigntyOracle.basePrice, 100)
  else engine.sovereigntyOracle.calculatePrice (regionOf toUppercase region) verification category

def generateRequestId (requester provider : Address) (timestamp : Fin (2 ^ 64)) : Hash :=
  sha256 ("pouw-oracle-v1:".toUTF8.toList ++ bigEndian 32 requester ++
    bigEndian 32 provider ++ littleEndian 8 timestamp)

def processOracleRequest (requester provider : Address) (region : String)
    (verification : DataVerificationLevel) (category : DataCategory) (engine : OracleEngine) :
    OracleDataRequest × OracleEngine :=
  let processed := engine.sovereigntyOracle.processRequest
    (generateRequestId sha256 requester provider engine.currentTime) requester provider
    (regionOf toUppercase region) verification category engine.currentTime
  (processed.1, { engine with sovereigntyOracle := processed.2 })

/-- What happens to this part of the engine: requests, and calls that set the time. -/
inductive OracleCall
  | processOracleRequest (requester provider : Address) (region : String)
      (verification : DataVerificationLevel) (category : DataCategory)
  | setTime (timestamp : Fin (2 ^ 64))

/-- Requests are priced as time passes. -/
def step : OracleCall → OracleEngine
  | .processOracleRequest requester provider region verification category =>
    (processOracleRequest sha256 toUppercase requester provider region verification category
      engine).2
  | .setTime timestamp => { engine with currentTime := timestamp }

theorem basePrice_run (calls : List OracleCall) :
    (Run.exec (step sha256 toUppercase) engine calls).enableSovereigntyPremium =
        engine.enableSovereigntyPremium ∧
      (Run.exec (step sha256 toUppercase) engine calls).sovereigntyOracle.basePrice =
        engine.sovereigntyOracle.basePrice := by
  induction calls generalizing engine with
  | nil => exact ⟨rfl, rfl⟩
  | cons call calls ih =>
    obtain ⟨premium, price⟩ := ih (step sha256 toUppercase engine call)
    cases call with
    | processOracleRequest => exact ⟨premium, price⟩
    | setTime => exact ⟨premium, price⟩

section

variable (region : SovereigntyRegion) (verification : DataVerificationLevel)
  (category : DataCategory)
include region verification category

theorem combinedMultiplier_le :
    SovereigntyOracle.combinedMultiplier region verification category ≤ 21600 := by
  cases region <;> cases verification <;> cases category <;> decide

theorem combinedMultiplier_eq_iff :
    SovereigntyOracle.combinedMultiplier region verification category = 100 ↔
      region = .Public ∧ verification = .Unverified ∧ category = .Public := by
  cases region <;> cases verification <;> cases category <;> decide

end

/-- In every state of an engine, a request is charged what it is quoted exactly if the premium is
switched on or there is none. -/
theorem processOracleRequest_eq_quote_iff (enableSovereigntyPremium : Bool)
    (calls : List OracleCall) (requester provider : Address) (region : String)
    (verification : DataVerificationLevel) (category : DataCategory) :
    let engine := Run.exec (step sha256 toUppercase) { enableSovereigntyPremium } calls
    (processOracleRequest sha256 toUppercase requester provider region verification category
        engine).1.finalPrice = (engine.priceOracleData toUppercase region verification category).1 ↔
      enableSovereigntyPremium = true ∨ regionOf toUppercase region = .Public ∧
        verification = .Unverified ∧ category = .Public := by
  intro engine
  obtain ⟨premium, price⟩ := basePrice_run sha256 toUppercase { enableSovereigntyPremium } calls
  change engine.enableSovereigntyPremium = enableSovereigntyPremium at premium
  change engine.sovereigntyOracle.basePrice = ONE_AETHEL / 100 at price
  change (engine.sovereigntyOracle.calculatePrice (regionOf toUppercase region) verification
    category).1 = _ ↔ _
  rw [priceOracleData, premium]
  cases enableSovereigntyPremium with
  | true => exact iff_of_true rfl (.inl rfl)
  | false =>
    rw [if_pos rfl, ← combinedMultiplier_eq_iff, or_iff_right (by decide)]
    have bound := combinedMultiplier_le (regionOf toUppercase region) verification category
    dsimp only [SovereigntyOracle.calculatePrice]
    rw [price, ONE_AETHEL]
    generalize SovereigntyOracle.combinedMultiplier (regionOf toUppercase region) verification
      category = combined at bound ⊢
    rw [mulU128_eq (by omega)]
    omega

end Calls

/-- With the premium switched off, healthcare data of the Emirates is quoted the base price and
charged seventy-five times as much. -/
theorem disabled_premium_charged :
    let engine : OracleEngine := { enableSovereigntyPremium := false }
    (engine.priceOracleData id "UAE" .TeeAttested .Healthcare).1 = 10000000000000000 ∧
      (processOracleRequest (fun _ => 0) id 1 2 "UAE" .TeeAttested .Healthcare engine).1.finalPrice =
        750000000000000000 := by
  decide +kernel

end OracleEngine

end Vm
