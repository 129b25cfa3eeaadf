import Aethelred.Pouw.Aggregate

/- Seal transactions: how the proposer writes them and how the keeper reads them. -/
namespace Aethelred.Pouw

open Go List Except Option ValidatorResult Json

structure SealCreationTx where
  type : String
  jobID : String
  modelHash : Bytes
  inputHash : Bytes
  outputHash : Bytes
  validatorCount : I64
  totalVotes : I64
  agreementPower : I64
  totalPower : I64
  validatorResults : List ValidatorResult
  blockHeight : I64
  timestamp : Time

def sealTxType : String := "create_seal_from_consensus"

def omitEmpty (name : String) (bytes : Bytes) : List (String × Json) :=
  if bytes = [] then [] else [(name, encodeBytes bytes)]

/-- A byte slice that is written as `null` when it holds nothing. -/
def encodeSlice (bytes : Bytes) : Json := if bytes = [] then .null else encodeBytes bytes

def ValidatorResult.fields (r : ValidatorResult) : List (String × Json) :=
  [("ValidatorAddress", .str r.validatorAddress),
    ("OutputHash", encodeBytes r.outputHash),
    ("AttestationType", .str r.attestationType),
    ("TEEPlatform", .str r.teePlatform),
    ("AttestationQuote", encodeSlice r.attestationQuote),
    ("ZKProof", encodeSlice r.zkProof),
    ("ExecutionTimeMs", .num r.executionTimeMs.val),
    ("Timestamp", .str r.timestamp.text)] ++
  omitEmpty "bls_signature" r.blsSignature ++ omitEmpty "bls_pub_key" r.blsPubKey

def ValidatorResult.encode (r : ValidatorResult) : Json := .obj r.fields

def ValidatorResult.zero : ValidatorResult := ⟨"", [], "", "", [], [], ⟨0, .zero⟩, Time.zero, [], []⟩

def ValidatorResult.decodeFields (fields : List (String × Json)) : Option ValidatorResult := do
  let validatorAddress ← field fields "ValidatorAddress" "" decodeString
  let outputHash ← field fields "OutputHash" [] decodeBytes
  let attestationType ← field fields "AttestationType" "" decodeString
  let teePlatform ← field fields "TEEPlatform" "" decodeString
  let attestationQuote ← field fields "AttestationQuote" [] decodeBytes
  let zkProof ← field fields "ZKProof" [] decodeBytes
  let executionTimeMs ← field fields "ExecutionTimeMs" ⟨0, .zero⟩ decodeInt64
  let timestamp ← field fields "Timestamp" Time.zero decodeTime
  let blsSignature ← field fields "bls_signature" [] decodeBytes
  let blsPubKey ← field fields "bls_pub_key" [] decodeBytes
  return { validatorAddress, outputHash, attestationType, teePlatform, attestationQuote, zkProof,
           executionTimeMs, timestamp, blsSignature, blsPubKey }

def ValidatorResult.decode : Json → Option ValidatorResult :=
  decodeRecord zero decodeFields

namespace SealCreationTx

def fields (tx : SealCreationTx) : List (String × Json) :=
  [("type", .str tx.type),
    ("job_id", .str tx.jobID),
    ("model_hash", encodeBytes tx.modelHash),
    ("input_hash", encodeBytes tx.inputHash),
    ("output_hash", encodeBytes tx.outputHash),
    ("validator_count", .num tx.validatorCount.val),
    ("total_votes", .num tx.totalVotes.val),
    ("agreement_power", .num tx.agreementPower.val),
    ("total_power", .num tx.totalPower.val),
    ("validator_results", .arr (tx.validatorResults.map encode)),
    ("block_height", .num tx.blockHeight.val),
    ("timestamp", .str tx.timestamp.text)]

def encode (tx : SealCreationTx) : Json := .obj tx.fields

def zero : SealCreationTx where
  type := ""
  jobID := ""
  modelHash := []
  inputHash := []
  outputHash := []
  validatorCount := ⟨0, .zero⟩
  totalVotes := ⟨0, .zero⟩
  agreementPower := ⟨0, .zero⟩
  totalPower := ⟨0, .zero⟩
  validatorResults := []
  blockHeight := ⟨0, .zero⟩
  timestamp := Time.zero

def decodeFields (fields : List (String × Json)) : Option SealCreationTx := do
  let type ← field fields "type" "" decodeString
  let jobID ← field fields "job_id" "" decodeString
  let modelHash ← field fields "model_hash" [] decodeBytes
  let inputHash ← field fields "input_hash" [] decodeBytes
  let outputHash ← field fields "output_hash" [] decodeBytes
  let validatorCount ← field fields "validator_count" ⟨0, .zero⟩ decodeInt64
  let totalVotes ← field fields "total_votes" ⟨0, .zero⟩ decodeInt64
  let agreementPower ← field fields "agreement_power" ⟨0, .zero⟩ decodeInt64
  let totalPower ← field fields "total_power" ⟨0, .zero⟩ decodeInt64
  let validatorResults ← field fields "validator_results" []
    (decodeList ValidatorResult.zero ValidatorResult.decode)
  let blockHeight ← field fields "block_height" ⟨0, .zero⟩ decodeInt64
  let timestamp ← field fields "timestamp" Time.zero decodeTime
  return { type, jobID, modelHash, inputHash, outputHash, validatorCount, totalVotes,
           agreementPower, totalPower, validatorResults, blockHeight, timestamp }

def decode : Json → Option SealCreationTx := decodeRecord zero decodeFields

end SealCreationTx

theorem omitEmpty_names (name : String) (bytes : Bytes) :
    (omitEmpty name bytes).map (fun entry => foldName entry.1) =
      if bytes = [] then [] else [foldName name] := by
  unfold omitEmpty
  split <;> rfl

section

variable (r : ValidatorResult)
include r

theorem ValidatorResult.distinct_fields :
    (r.fields.map fun entry => foldName entry.1).Nodup := by
  simp only [fields, map_append, map_cons, map_nil, omitEmpty_names]
  split <;> split <;> decide

theorem ValidatorResult.read_slice {name : String} {bytes : Bytes}
    (written : (name, encodeSlice bytes) ∈ r.fields) :
    field r.fields name [] decodeBytes = some bytes := by
  unfold encodeSlice at written
  split at written
  · rename_i empty
    rw [empty]
    exact field_null r.distinct_fields written
  · exact field_bytes r.distinct_fields written

theorem ValidatorResult.read_omitted {name : String} {bytes : Bytes}
    (written : omitEmpty name bytes ⊆ r.fields)
    (absent : bytes = [] → foldName name ∉ r.fields.map fun entry => foldName entry.1) :
    field r.fields name [] decodeBytes = some bytes := by
  by_cases empty : bytes = []
  · rw [field_absent (absent empty), empty]
  · exact field_bytes r.distinct_fields (written (by simp [omitEmpty, empty]))

theorem ValidatorResult.read_blsSignature :
    field r.fields "bls_signature" [] decodeBytes = some r.blsSignature := by
  apply r.read_omitted
  · intro entry member
    simp [fields, member]
  · intro empty
    simp only [fields, map_append, map_cons, map_nil, omitEmpty_names, empty,
      ↓reduceIte]
    split <;> decide

theorem ValidatorResult.read_blsPubKey :
    field r.fields "bls_pub_key" [] decodeBytes = some r.blsPubKey := by
  apply r.read_omitted
  · intro entry member
    simp [fields, member]
  · intro empty
    simp only [fields, map_append, map_cons, map_nil, omitEmpty_names, empty,
      ↓reduceIte]
    split <;> decide

theorem ValidatorResult.decode_encode : decode r.encode = some r := by
  have distinct := r.distinct_fields
  have address : ("ValidatorAddress", str r.validatorAddress) ∈ r.fields := by simp [fields]
  have output : ("OutputHash", encodeBytes r.outputHash) ∈ r.fields := by simp [fields]
  have kind : ("AttestationType", str r.attestationType) ∈ r.fields := by simp [fields]
  have platform : ("TEEPlatform", str r.teePlatform) ∈ r.fields := by simp [fields]
  have quote' : ("AttestationQuote", encodeSlice r.attestationQuote) ∈ r.fields := by simp [fields]
  have proof : ("ZKProof", encodeSlice r.zkProof) ∈ r.fields := by simp [fields]
  have time : ("ExecutionTimeMs", num r.executionTimeMs.val) ∈ r.fields := by simp [fields]
  have stamp : ("Timestamp", str r.timestamp.text) ∈ r.fields := by simp [fields]
  simp only [decode, encode, decodeRecord, decodeFields, field_str distinct address,
    field_bytes distinct output, field_str distinct kind, field_str distinct platform,
    r.read_slice quote', r.read_slice proof, field_num distinct time,
    field_time distinct stamp, r.read_blsSignature, r.read_blsPubKey, bind_eq_bind,
    Option.bind_some, Option.pure_def]

end

theorem SealCreationTx.distinct_fields (tx : SealCreationTx) :
    (tx.fields.map fun entry => foldName entry.1).Nodup := by
  simp only [fields, map_cons, map_nil]
  decide

theorem SealCreationTx.read_results (tx : SealCreationTx) :
    field tx.fields "validator_results" []
        (decodeList ValidatorResult.zero ValidatorResult.decode) = some tx.validatorResults := by
  have written : ("validator_results", arr (tx.validatorResults.map ValidatorResult.encode)) ∈
      tx.fields := by simp [fields]
  exact field_of_mem tx.distinct_fields written
    (decodeList_arr _ _ _ (by simp [ValidatorResult.encode]) ValidatorResult.decode_encode _)
    (by simp)

theorem SealCreationTx.decode_encode (tx : SealCreationTx) : decode tx.encode = some tx := by
  have distinct := tx.distinct_fields
  have kind : ("type", str tx.type) ∈ tx.fields := by simp [fields]
  have job : ("job_id", str tx.jobID) ∈ tx.fields := by simp [fields]
  have model : ("model_hash", encodeBytes tx.modelHash) ∈ tx.fields := by simp [fields]
  have input : ("input_hash", encodeBytes tx.inputHash) ∈ tx.fields := by simp [fields]
  have output : ("output_hash", encodeBytes tx.outputHash) ∈ tx.fields := by simp [fields]
  have count : ("validator_count", num tx.validatorCount.val) ∈ tx.fields := by simp [fields]
  have votes : ("total_votes", num tx.totalVotes.val) ∈ tx.fields := by simp [fields]
  have power : ("agreement_power", num tx.agreementPower.val) ∈ tx.fields := by simp [fields]
  have total : ("total_power", num tx.totalPower.val) ∈ tx.fields := by simp [fields]
  have height : ("block_height", num tx.blockHeight.val) ∈ tx.fields := by simp [fields]
  have stamp : ("timestamp", str tx.timestamp.text) ∈ tx.fields := by simp [fields]
  simp only [decode, encode, decodeRecord, decodeFields, field_str distinct kind,
    field_str distinct job, field_bytes distinct model, field_bytes distinct input,
    field_bytes distinct output, field_num distinct count, field_num distinct votes,
    field_num distinct power, field_num distinct total, field_num distinct height,
    tx.read_results, field_time distinct stamp, bind_eq_bind, bind_some,
    Option.pure_def]

theorem SealCreationTx.encode_injective : Function.Injective encode := by
  intro left right same
  have decoded := congrArg decode same
  simpa only [decode_encode, some.injEq] using decoded

namespace ConsensusHandler

def sealTransaction (ctx : ConsensusContext) (result : AggregatedResult) : SealCreationTx where
  type := sealTxType
  jobID := result.jobID
  modelHash := result.modelHash
  inputHash := result.inputHash
  outputHash := result.outputHash
  validatorCount := I64.ofInt result.agreementCount
  totalVotes := I64.ofInt result.totalVotes
  agreementPower := I64.ofInt result.agreementPower
  totalPower := I64.ofInt result.totalPower
  validatorResults := result.validatorResults
  blockHeight := ctx.blockHeight
  timestamp := ctx.blockTime

def createSealTransactions (ctx : ConsensusContext) (results : Map String AggregatedResult)
    (order : RangeOrder String) : List Json :=
  (order.order results.keys).filterMap fun jobID =>
    match results.lookup jobID with
    | some result =>
      if result.hasConsensus then some (sealTransaction ctx result).encode else none
    | none => none

end ConsensusHandler

inductive SealError where
  | unmarshal
  | invalidType (type : String)
  | missingJobID
  | invalidOutputHashLength
  | jobNotFound (jobID : String)
  | modelHashMismatch
  | inputHashMismatch
  | insufficientPower (got need : Int)
  | insufficientConsensus (got need : Int)
deriving DecidableEq

variable (ch : ConsensusHandler)

def ConsensusHandler.validateSealThreshold (tx : SealCreationTx) : Except SealError Unit :=
  let consensusThreshold := ch.getConsensusThreshold
  if tx.totalPower.val > 0 then
    let requiredPower := requiredThresholdCount tx.totalPower.val consensusThreshold
    if tx.agreementPower.val < requiredPower then
      .error (.insufficientPower tx.agreementPower.val requiredPower)
    else .ok ()
  else
    let requiredVotes := requiredThresholdCount tx.totalVotes.val consensusThreshold
    if tx.validatorCount.val < requiredVotes then
      .error (.insufficientConsensus tx.validatorCount.val requiredVotes)
    else .ok ()

def ConsensusHandler.validateSealTransaction (txBytes : Option Json) : Except SealError Unit :=
  match txBytes.bind SealCreationTx.decode with
  | none => .error .unmarshal
  | some tx =>
    if tx.type ≠ sealTxType then .error (.invalidType tx.type)
    else if tx.jobID = "" then .error .missingJobID
    else if tx.outputHash.length ≠ 32 then .error .invalidOutputHashLength
    else match ch.keeper.jobs.lookup tx.jobID with
      | none => .error (.jobNotFound tx.jobID)
      | some job =>
        if job.modelHash ≠ tx.modelHash then .error .modelHashMismatch
        else if job.inputHash ≠ tx.inputHash then .error .inputHashMismatch
        else ch.validateSealThreshold tx

/-- Enough power, or enough votes where no power is given. -/
def ConsensusHandler.MeetsThreshold (tx : SealCreationTx) : Prop :=
  if 0 < tx.totalPower.val then
    requiredThresholdCount tx.totalPower.val ch.getConsensusThreshold ≤ tx.agreementPower.val
  else requiredThresholdCount tx.totalVotes.val ch.getConsensusThreshold ≤ tx.validatorCount.val

theorem ConsensusHandler.validateSealThreshold_ok {ch : ConsensusHandler} {tx : SealCreationTx} :
    ch.validateSealThreshold tx = .ok () ↔ ch.MeetsThreshold tx := by
  unfold validateSealThreshold MeetsThreshold
  split <;> simp

theorem ConsensusHandler.validateSealTransaction_ok {ch : ConsensusHandler} {tx : SealCreationTx} :
    ch.validateSealTransaction (some tx.encode) = .ok () ↔
      tx.type = sealTxType ∧ tx.jobID ≠ "" ∧ tx.outputHash.length = 32 ∧
        ∃ job, ch.keeper.jobs.lookup tx.jobID = some job ∧ job.modelHash = tx.modelHash ∧
          job.inputHash = tx.inputHash ∧ ch.MeetsThreshold tx := by
  unfold validateSealTransaction
  rw [bind_some, SealCreationTx.decode_encode]
  dsimp only
  rw [ite_error_eq_ok, ite_error_eq_ok, ite_error_eq_ok]
  cases ch.keeper.jobs.lookup tx.jobID with
  | none => simp
  | some job =>
    dsimp only
    rw [ite_error_eq_ok, ite_error_eq_ok, validateSealThreshold_ok]
    simp

end Aethelred.Pouw
