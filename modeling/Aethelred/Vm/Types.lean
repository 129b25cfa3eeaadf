import Aethelred.Go.RangeOrder
import Aethelred.Lib.Result

/- Types shared by the system contracts (`types.rs`, `error.rs`), and the arithmetic of the machine
integers they use. Token amounts are `u128` values with 18 decimals. -/
namespace Vm

/-- 32 bytes. -/
abbrev Address := Fin (2 ^ 256)

instance lawfulAddress : LawfulBEq Address := inferInstance

abbrev Hash := Fin (2 ^ 256)

abbrev JobId := Fin (2 ^ 256)

def MAX_U128 : Nat := 2 ^ 128 - 1

def MAX_U64 : Nat := 2 ^ 64 - 1

/-- `u128::saturating_add`. -/
def saturatingAdd (a b : Nat) : Nat := min (a + b) MAX_U128

def saturatingSub (a b : Nat) : Nat := a - b

/-- `a * b` of a `u128` in a build without overflow checks. -/
def mulU128 (a b : Nat) : Nat := a * b % 2 ^ 128

/-- `a + b` of a `u64` in a build without overflow checks. -/
def addU64 (a b : Nat) : Nat := (a + b) % 2 ^ 64

/-- `a + b` of a `u128` in a build without overflow checks. -/
def addU128 (a b : Nat) : Nat := (a + b) % 2 ^ 128

/-- `a - b` of a `u128` in a build without overflow checks. -/
def subU128 (a b : Nat) : Nat := (a + (2 ^ 128 - b)) % 2 ^ 128

variable {a b : Nat}

theorem addU128_eq (fits : a + b < 2 ^ 128) : addU128 a b = a + b :=
  Nat.mod_eq_of_lt fits

theorem subU128_eq (fits : a < 2 ^ 128) (le : b ≤ a) : subU128 a b = a - b := by
  unfold subU128
  omega

theorem mulU128_eq (fits : a * b < 2 ^ 128) : mulU128 a b = a * b :=
  Nat.mod_eq_of_lt fits

theorem saturatingAdd_eq (fits : a + b ≤ MAX_U128) : saturatingAdd a b = a + b :=
  Nat.min_eq_left fits

theorem saturatingAdd_le (a b : Nat) : saturatingAdd a b ≤ a + b := Nat.min_le_left _ _

theorem mulU128_le (a b : Nat) : mulU128 a b ≤ a * b := Nat.mod_le _ _

inductive JobStatus
  | Submitted | Assigned | Proving | Verifying | Verified | Settled | Expired | Cancelled | Failed
  | Disputed
  deriving DecidableEq

namespace JobStatus

def isTerminal : JobStatus → Bool
  | Settled | Expired | Cancelled | Failed => true
  | _ => false

def canCancel : JobStatus → Bool
  | Submitted | Assigned => true
  | _ => false

def isActive : JobStatus → Bool
  | Submitted | Assigned | Proving | Verifying => true
  | _ => false

def text : JobStatus → String
  | Submitted => "SUBMITTED"
  | Assigned => "ASSIGNED"
  | Proving => "PROVING"
  | Verifying => "VERIFYING"
  | Verified => "VERIFIED"
  | Settled => "SETTLED"
  | Expired => "EXPIRED"
  | Cancelled => "CANCELLED"
  | Failed => "FAILED"
  | Disputed => "DISPUTED"

end JobStatus

inductive JobPriority
  | Low | Normal | High | Urgent
  deriving DecidableEq

inductive VerificationMethod
  | TeeAttestation | ZkProof | Hybrid | ReExecution
  deriving DecidableEq

inductive StakeRole
  | Validator | ComputeNode | Delegator
  deriving DecidableEq

/-- The errors the system contracts return. Identifiers stand where the program puts their
hexadecimal text. -/
inductive SystemContractError
  | JobNotFound (jobId : JobId)
  | InvalidJobStatus (expected actual : String)
  | UnauthorizedProver (assigned attempted : Address)
  | SlaViolation (jobId : JobId) (deadline current : Nat)
  | InsufficientBid (minimum actual : Nat)
  | JobAlreadyAssigned (jobId : JobId) (prover : Address)
  | CannotCancelJob (jobId : JobId) (status : JobStatus)
  | OnlyRequesterCanCancel (requester caller : Address)
  | InsufficientStake (required actual : Nat)
  | StakerNotFound (address : Address)
  | CannotUnstake (requested available : Nat)
  | UnstakeInProgress (unlockTime : Nat)
  | NothingToWithdraw
  | SlashingInProgress
  | InsufficientBalance (required available : Nat)
  | InvalidAmount (reason : String)
  | AccountLocked (address : Address) (unlockTime : Nat)
  | EscrowNotFound (escrowId : Hash)
  | InvalidProof (reason : String)
  | TeeVerificationFailed (reason : String)
  | ZkVerificationFailed (reason : String)
  | ProofMethodMismatch (required actual : VerificationMethod)
  | SettlementFailed (reason : String)
  | InsufficientBond (required provided : Nat)
  | NodeInCooldown (cooldownUntil : Nat)
  | NoBondFound
  | Tokenomics (reason : String)
  | Compliance (reason : String)
  | Slashing (reason : String)
  | InvalidConfig (reason : String)
  deriving DecidableEq

structure BlockContext where
  height : Nat := 0
  timestamp : Nat := 0
  slot : Nat := 0
  proposer : Address := 0
  gasLimit : Nat := 30000000
  gasUsed : Nat := 0

end Vm
