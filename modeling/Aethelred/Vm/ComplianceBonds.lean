import Aethelred.Go.MapSum
import Aethelred.Lib.Bytes
import Aethelred.Lib.Run
import Aethelred.Vm.Types

/- The compliance bonds of the PoUW engine (`pouw_engine.rs`): posting, liquidation, and what holds
over runs of both. A bond's identifier is the hash of its node, its type and the time of its block. -/
namespace Vm

open Go Attempt Bytes

def ONE_AETHEL : Nat := 1000000000000000000

inductive ComplianceBondType
  | GdprProcessing | HipaaProcessing | FinancialData | UaeDpl | SingaporePdpa | Soc2TypeII | Iso27001
  | PciDss
  deriving DecidableEq

namespace ComplianceBondType

/-- `bond_type as u8`. -/
def code : ComplianceBondType → UInt8
  | GdprProcessing => 1
  | HipaaProcessing => 2
  | FinancialData => 3
  | UaeDpl => 4
  | SingaporePdpa => 5
  | Soc2TypeII => 6
  | Iso27001 => 7
  | PciDss => 8

def requiredBond : ComplianceBondType → Nat
  | GdprProcessing => 5000 * ONE_AETHEL
  | HipaaProcessing => 10000 * ONE_AETHEL
  | FinancialData => 15000 * ONE_AETHEL
  | UaeDpl => 8000 * ONE_AETHEL
  | SingaporePdpa => 6000 * ONE_AETHEL
  | Soc2TypeII => 7500 * ONE_AETHEL
  | Iso27001 => 5000 * ONE_AETHEL
  | PciDss => 20000 * ONE_AETHEL

theorem code_inj {a b : ComplianceBondType} (same : a.code = b.code) : a = b := by
  cases a <;> cases b <;> first | rfl | cases same

end ComplianceBondType

inductive LiquidationReason
  | TeeAttestationFailure | DataBreach | UnauthorizedAccess | AuditFailure | PrivacyViolation
  | KeyCompromise
  deriving DecidableEq

structure ComplianceBond where
  bondId : Hash
  node : Address
  bondType : ComplianceBondType
  amount : Nat
  createdAt : Fin (2 ^ 64)
  expiresAt : Nat
  active : Bool := true
  jobsProcessed : Nat := 0
  dataValueProcessed : Nat := 0
  lastJobAt : Nat := 0
  deriving DecidableEq

structure BondLiquidation where
  liquidationId : Hash
  bondId : Hash
  node : Address
  victim : Address
  bondAmount : Nat
  victimPayout : Nat
  burned : Nat
  reason : LiquidationReason
  evidenceHash : Hash
  timestamp : Fin (2 ^ 64)

def ATTESTATION_FAILURE_COOLDOWN : Nat := 30 * 24 * 60 * 60

structure PoUWEngine where
  victimPayoutBps : Nat := 8000
  complianceBonds : Map Address (List ComplianceBond) := ∅
  bondLookup : Map Hash Address := ∅
  liquidationHistory : List BondLiquidation := []
  nodeCooldowns : Map Address Nat := ∅
  epochBurned : Nat := 0
  totalBurned : Nat := 0
  currentTime : Fin (2 ^ 64) := 0

namespace PoUWEngine

/-- `PoUWEngine::new`; of the configuration the bonds read the victim's share. -/
def new (victimPayoutBps : Nat) : PoUWEngine where victimPayoutBps

abbrev Call := Attempt PoUWEngine SystemContractError

variable (sha256 : List UInt8 → Hash)

def bondPreimage (node : Address) (bondType : ComplianceBondType) (timestamp : Fin (2 ^ 64)) :
    List UInt8 :=
  "pouw-bond-v1:".toUTF8.toList ++ (bigEndian 32 node ++
    ([bondType.code] ++ littleEndian 8 timestamp))

def generateBondId (node : Address) (bondType : ComplianceBondType) (timestamp : Fin (2 ^ 64)) :
    Hash := sha256 (bondPreimage node bondType timestamp)

def generateLiquidationId (node : Address) (bondId : Hash) (timestamp : Fin (2 ^ 64)) : Hash :=
  sha256 ("pouw-liq-v1:".toUTF8.toList ++ bigEndian 32 node ++ bigEndian 32 bondId ++
    littleEndian 8 timestamp)

variable (engine : PoUWEngine)

/-- `ComplianceBond::new` as a posting calls it. -/
def newBond (node : Address) (bondType : ComplianceBondType)
    (amount expiresAt : Nat) : ComplianceBond where
  bondId := generateBondId sha256 node bondType engine.currentTime
  node
  bondType
  amount
  createdAt := engine.currentTime
  expiresAt

def bondsOf (node : Address) : List ComplianceBond :=
  engine.complianceBonds.get node []

def file (bond : ComplianceBond) : PoUWEngine :=
  { engine with
    complianceBonds := engine.complianceBonds.insert bond.node (engine.bondsOf bond.node ++ [bond])
    bondLookup := engine.bondLookup.insert bond.bondId bond.node }

def postComplianceBond (node : Address) (bondType : ComplianceBondType) (amount expiresAt : Nat) :
    Call Hash := do
  ensure (bondType.requiredBond ≤ amount) (.InsufficientBond bondType.requiredBond amount)
  let engine ← read
  ensure (engine.nodeCooldowns.get node 0 ≤ engine.currentTime)
    (.NodeInCooldown (engine.nodeCooldowns.get node 0))
  modify fun engine => engine.file (engine.newBond sha256 node bondType amount expiresAt)
  return generateBondId sha256 node bondType engine.currentTime

def liquidation (bond : ComplianceBond) (node : Address) (bondId : Hash)
    (victim : Address) (reason : LiquidationReason) (evidenceHash : Hash) : BondLiquidation :=
  let victimPayout := mulU128 bond.amount engine.victimPayoutBps / 10000
  { liquidationId := generateLiquidationId sha256 node bondId engine.currentTime
    bondId
    node
    victim
    bondAmount := bond.amount
    victimPayout
    burned := subU128 bond.amount victimPayout
    reason
    evidenceHash
    timestamp := engine.currentTime }

def liquidate (node : Address) (bonds : List ComplianceBond)
    (record : BondLiquidation) : PoUWEngine :=
  { engine with
    complianceBonds := engine.complianceBonds.insert node
      (bonds.eraseP fun bond => bond.bondId = record.bondId)
    bondLookup := engine.bondLookup.erase record.bondId
    liquidationHistory := engine.liquidationHistory ++ [record]
    nodeCooldowns := engine.nodeCooldowns.insert node
      (addU64 engine.currentTime ATTESTATION_FAILURE_COOLDOWN)
    epochBurned := addU128 engine.epochBurned record.burned
    totalBurned := addU128 engine.totalBurned record.burned }

def executeComplianceSlash (node : Address) (bondId : Hash) (victim : Address)
    (reason : LiquidationReason) (evidenceHash : Hash) : Call BondLiquidation := do
  let engine ← read
  let bonds ← okOr (engine.complianceBonds.lookup node) .NoBondFound
  let bond ← okOr (bonds.find? fun bond => bond.bondId = bondId) .NoBondFound
  let record := engine.liquidation sha256 bond node bondId victim reason evidenceHash
  modify fun engine => engine.liquidate node bonds record
  return record

end PoUWEngine

end Vm
