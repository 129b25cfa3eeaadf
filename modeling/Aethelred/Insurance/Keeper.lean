import Aethelred.Go.Hex
import Aethelred.Go.MapSum
import Aethelred.Go.Strings
import Aethelred.Lib.Bytes
import Aethelred.Lib.Run
import Mathlib.Data.String.Basic

/- The insurance keeper (`x/insurance/keeper/keeper.go`): escrows of slashed stake, appeals against
them, and the tribunals that decide the appeals. -/
namespace Insurance

open Go Attempt

def EscrowDurationDays : Int := 14

def TribunalSize : Nat := 5

def TribunalMajority : Int := 3

inductive EscrowStatus
  | held | reimbursed | forfeited
  deriving DecidableEq

inductive AppealStatus
  | pending | approved | rejected
  deriving DecidableEq

structure EscrowRecord where
  id : String
  validatorAddress : String
  amount : String
  reason : String
  evidenceHash : String
  createdAtUnix : Int
  releaseAtUnix : Int
  appealID : String := ""
  status : EscrowStatus

structure AppealRecord where
  id : String
  escrowID : String
  validatorAddress : String
  teeLogURI : String
  evidenceHash : String
  tribunal : List String
  votesFor : Int := 0
  votesAgainst : Int := 0
  submittedAtUnix : Int
  resolvedAtUnix : Int := 0
  status : AppealStatus

def AppealRecord.withVote (appeal : AppealRecord) (nonMalicious : Bool) : AppealRecord :=
  if nonMalicious then { appeal with votesFor := appeal.votesFor + 1 }
  else { appeal with votesAgainst := appeal.votesAgainst + 1 }

structure TribunalVote where
  appealID : String
  voter : String
  nonMalicious : Bool
  notes : String
  submittedAtUnix : Int

structure MsgSubmitAppeal where
  validatorAddress : String
  escrowID : String
  teeLogURI : String
  evidenceHash : String

def MsgSubmitAppeal.validateBasic (msg : MsgSubmitAppeal) : Except String Unit :=
  if Strings.trimSpace msg.validatorAddress = "" then .error "validator address cannot be empty"
  else if Strings.trimSpace msg.escrowID = "" then .error "escrow id cannot be empty"
  else if Strings.trimSpace msg.teeLogURI = "" then .error "TEE log URI cannot be empty"
  else if Strings.trimSpace msg.evidenceHash = "" then .error "evidence hash cannot be empty"
  else .ok ()

structure Block where
  height : Int
  unix : Int

/-- The candidates for a tribunal, from another module. -/
structure ValidatorSource where
  listValidators : Except String (List String)
  isValidatorSlashed : String → Bool

/-- The module's store. -/
structure Keeper where
  escrows : Map String EscrowRecord := ∅
  appeals : Map String AppealRecord := ∅
  appealVotes : Map String TribunalVote := ∅
  escrowCount : Nat := 0
  appealCount : Nat := 0

namespace Keeper

abbrev Call := Attempt Keeper String

def setEscrow (k : Keeper) (record : EscrowRecord) : Keeper :=
  { k with escrows := k.escrows.insert record.id record }

def setAppeal (k : Keeper) (record : AppealRecord) : Keeper :=
  { k with appeals := k.appeals.insert record.id record }

def setAppealVote (k : Keeper) (voteKey : String) (record : TribunalVote) : Keeper :=
  { k with appealVotes := k.appealVotes.insert voteKey record }

def getEscrow (escrowID : String) : Call EscrowRecord := do
  let k ← read
  okOr (k.escrows.lookup escrowID) s!"escrow {escrowID} not found"

def getAppeal (appealID : String) : Call AppealRecord := do
  let k ← read
  okOr (k.appeals.lookup appealID) s!"appeal {appealID} not found"

def escrowName (count : Nat) : String := "escrow-" ++ Strconv.formatUint count

def appealName (count : Nat) : String := "appeal-" ++ Strconv.formatUint count

def tribunalVoteKey (appealID voter : String) : String := appealID ++ "|" ++ voter

/-- The counter is a `uint64`. -/
def nextEscrowID : Call String := do
  let k ← read
  let count := (k.escrowCount + 1) % 2 ^ 64
  modify fun k => { k with escrowCount := count }
  return escrowName count

def nextAppealID : Call String := do
  let k ← read
  let count := (k.appealCount + 1) % 2 ^ 64
  modify fun k => { k with appealCount := count }
  return appealName count

def escrowFraudSlash (block : Block) (validatorAddr : String) (amount : Int)
    (reason evidenceHash : String) : Call String := do
  let validatorAddr := Strings.trimSpace validatorAddr
  let reason := Strings.trimSpace reason
  let evidenceHash := Strings.trimSpace evidenceHash
  ensure (validatorAddr ≠ "") "validator address cannot be empty"
  ensure (0 < amount) "escrow amount must be positive"
  ensure (reason ≠ "") "escrow reason cannot be empty"
  let next ← nextEscrowID
  modify fun k => k.setEscrow
    { id := next
      validatorAddress := validatorAddr
      amount := Strconv.formatInt amount
      reason
      evidenceHash := if evidenceHash = "" then "n/a" else evidenceHash
      createdAtUnix := block.unix
      releaseAtUnix := block.unix + EscrowDurationDays * 24 * 3600
      status := .held }
  return next

section Tribunal

variable (sha256 : Bytes → Fin (2 ^ 256))

def utf8 (text : String) : Bytes := text.toUTF8.data.toList

variable (seed : Fin (2 ^ 256))

def deterministicRank (validator : String) : Fin (2 ^ 256) :=
  sha256 (Bytes.bigEndian 32 seed ++ utf8 validator)

def selectionSeed (block : Block) (anchor : String) : Fin (2 ^ 256) :=
  sha256 (utf8 (Strconv.formatInt block.height ++ "|" ++ Strconv.formatInt block.unix ++ "|" ++
    anchor))

def validatorHasHeldEscrow (k : Keeper) (validator : String) : Bool :=
  k.escrows.keys.any fun id => (k.escrows.lookup id).any fun record =>
    decide (record.validatorAddress = validator) && decide (record.status = .held)

/-- By rank, then by name. -/
def rankOrder (a b : String) : Prop :=
  deterministicRank sha256 seed a < deterministicRank sha256 seed b ∨
    deterministicRank sha256 seed a = deterministicRank sha256 seed b ∧ a ≤ b

instance decidableRankOrder : DecidableRel (rankOrder sha256 seed) :=
  fun _ _ => inferInstanceAs (Decidable (_ ∨ _))

def eligible (source : ValidatorSource) (appellant : String) (k : Keeper)
    (validators : List String) : List String :=
  validators.foldl (fun filtered validator =>
    let validator := Strings.trimSpace validator
    if validator = "" ∨ validator = appellant ∨ validator ∈ filtered ∨
        source.isValidatorSlashed validator ∨ k.validatorHasHeldEscrow validator then filtered
    else filtered ++ [validator]) []

def selectTribunal (source : Option ValidatorSource) (block : Block) (appellant anchor : String) :
    Call (List String) := do
  let source ← okOr source "validator source is not configured for tribunal selection"
  let validators ← ofExcept source.listValidators
  let k ← read
  let filtered := eligible source appellant k validators
  let got := filtered.length
  ensure (TribunalSize ≤ filtered.length)
    s!"insufficient eligible tribunal validators: got {got}, need {TribunalSize}"
  let sorted := (filtered.insertionSort (· ≤ ·)).insertionSort
    (rankOrder sha256 (selectionSeed sha256 block anchor))
  return sorted.take TribunalSize

end Tribunal

def submitAppeal (sha256 : Bytes → Fin (2 ^ 256)) (source : Option ValidatorSource)
    (block : Block) (msg : MsgSubmitAppeal) : Call AppealRecord := do
  ofExcept msg.validateBasic
  let escrow ← getEscrow msg.escrowID
  ensure (escrow.validatorAddress = msg.validatorAddress) "escrow validator mismatch"
  let id := escrow.id
  let appealID := escrow.appealID
  ensure (escrow.status = .held) s!"escrow {id} is not in held state"
  ensure (escrow.appealID = "") s!"escrow {id} already has appeal {appealID}"
  let tribunal ← selectTribunal sha256 source block msg.validatorAddress msg.escrowID
  let appealID ← nextAppealID
  let appeal : AppealRecord :=
    { id := appealID
      escrowID := msg.escrowID
      validatorAddress := msg.validatorAddress
      teeLogURI := msg.teeLogURI
      evidenceHash := msg.evidenceHash
      tribunal
      submittedAtUnix := block.unix
      status := .pending }
  modify fun k => k.setAppeal appeal
  modify fun k => k.setEscrow { escrow with appealID := appeal.id }
  return appeal

def resolveEscrow (escrowID : String) (status : EscrowStatus) : Call Unit := do
  let escrow ← getEscrow escrowID
  modify fun k => k.setEscrow { escrow with status }

variable (block : Block)

def castTribunalVote (appealID voter : String) (nonMalicious : Bool)
    (notes : String) : Call Unit := do
  let appealID := Strings.trimSpace appealID
  let voter := Strings.trimSpace voter
  ensure (appealID ≠ "" ∧ voter ≠ "") "appeal id and voter are required"
  let appeal ← getAppeal appealID
  ensure (appeal.status = .pending) s!"appeal {appealID} already resolved"
  ensure (voter ∈ appeal.tribunal) "voter is not assigned to appeal tribunal"
  let k ← read
  ensure (k.appealVotes.lookup (tribunalVoteKey appealID voter) = none) "voter already voted"
  modify fun k => k.setAppealVote (tribunalVoteKey appealID voter)
    { appealID
      voter
      nonMalicious
      notes := Strings.trimSpace notes
      submittedAtUnix := block.unix }
  let appeal := appeal.withVote nonMalicious
  if TribunalMajority ≤ appeal.votesFor then
    resolveEscrow appeal.escrowID .reimbursed
    modify fun k => k.setAppeal
      { appeal with status := .approved, resolvedAtUnix := block.unix }
  else if TribunalMajority ≤ appeal.votesAgainst then
    resolveEscrow appeal.escrowID .forfeited
    modify fun k => k.setAppeal
      { appeal with status := .rejected, resolvedAtUnix := block.unix }
  else modify fun k => k.setAppeal appeal

def expires (record : EscrowRecord) : Bool :=
  decide (record.status = .held) && decide (record.releaseAtUnix ≤ block.unix)

def expireEscrow (state : Keeper × Nat) (id : String) : Keeper × Nat :=
  match state.1.escrows.lookup id with
  | some record =>
    if expires block record then
      (state.1.setEscrow { record with status := .forfeited }, state.2 + 1)
    else state
  | none => state

def processEscrowExpiries : Call Nat := fun k =>
  let after := (k.escrows.keys.insertionSort (· ≤ ·)).foldl (expireEscrow block) (k, 0)
  (.ok after.2, after.1)

end Keeper

inductive Call where
  | escrowFraudSlash (validatorAddr : String) (amount : Int) (reason evidenceHash : String)
  | submitAppeal (source : Option ValidatorSource) (msg : MsgSubmitAppeal)
  | castTribunalVote (appealID voter : String) (nonMalicious : Bool) (notes : String)
  | processEscrowExpiries

namespace Keeper

def step (sha256 : Bytes → Fin (2 ^ 256)) (k : Keeper) (call : Block × Insurance.Call) : Keeper :=
  match call.2 with
  | .escrowFraudSlash validatorAddr amount reason evidenceHash =>
    (escrowFraudSlash call.1 validatorAddr amount reason evidenceHash k).2
  | .submitAppeal source msg => (submitAppeal sha256 source call.1 msg k).2
  | .castTribunalVote appealID voter nonMalicious notes =>
    (castTribunalVote call.1 appealID voter nonMalicious notes k).2
  | .processEscrowExpiries => (processEscrowExpiries call.1 k).2

end Keeper

end Insurance
