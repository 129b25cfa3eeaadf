import Aethelred.Pouw.AttestationRegistry
import Aethelred.Go.Json

/- Vote extensions as the keeper reads them, and which of them it accepts. -/
namespace Aethelred.Pouw

open Go

structure TEEAttestationWire where
  platform : String
  measurement : Bytes

/-- A nested document that is parsed only when it is needed. -/
inductive RawAttestation where
  | absent
  | malformed
  | wire (attestation : TEEAttestationWire)

structure VerificationWire where
  jobID : String
  modelHash : Bytes
  inputHash : Bytes
  outputHash : Bytes
  attestationType : String
  teeAttestation : RawAttestation
  executionTimeMs : I64
  success : Bool

/-- The keeper's view of an extension; `none` stands for an absent raw field. -/
structure VoteExtensionWire where
  height : Int
  validatorAddress : Option Json
  verifications : List VerificationWire
  timestamp : Time
  signature : Option Json
  extensionHash : Option Json
  blsSignature : Bytes := []
  blsPubKey : Bytes := []

/-- The bytes of an extension, up to what parsing them yields. -/
inductive RawExtension where
  | empty
  | malformed
  | wire (extension : VoteExtensionWire)

def RawExtension.parse : RawExtension → Option VoteExtensionWire
  | .wire extension => some extension
  | _ => none

structure AbciValidator where
  address : Bytes
  power : Int
deriving DecidableEq

structure ExtendedVoteInfo where
  validator : AbciValidator
  voteExtension : RawExtension

structure ConsensusContext where
  blockHeight : I64
  blockTime : Time

structure ConsensusHandler where
  keeper : Keeper
  /-- An explicit threshold; zero means the parameters decide. -/
  consensusThreshold : Int := 0
  allowSimulatedInThisBuild : Bool := false

namespace ConsensusHandler

variable (ch : ConsensusHandler)

def getConsensusThreshold : Int :=
  if ch.consensusThreshold > 0 then ch.consensusThreshold
  else if ch.keeper.getParams.consensusThreshold ≥ 67 then ch.keeper.getParams.consensusThreshold
  else 67

theorem getConsensusThreshold_pos : 0 < ch.getConsensusThreshold := by
  unfold getConsensusThreshold
  grind

def simulatedVerificationEnabled : Bool :=
  ch.allowSimulatedInThisBuild && ch.keeper.getParams.allowSimulated

def productionVerificationMode : Bool := !ch.simulatedVerificationEnabled

end ConsensusHandler

/-- Neither absent nor `null`. -/
def rawPresent : Option Json → Bool
  | none => false
  | some .null => false
  | some _ => true

/-- The address as text: absent, `null` and other types give no name. -/
def extractValidatorAddress (ext : VoteExtensionWire) : String :=
  (ext.validatorAddress.bind Json.decodeString).getD ""

def validatorAddressBytes (ext : VoteExtensionWire) : Option Bytes :=
  ext.validatorAddress.bind Json.decodeBytes

def ConsensusHandler.acceptedExtension (ch : ConsensusHandler) (vote : ExtendedVoteInfo) :
    Option VoteExtensionWire :=
  match vote.voteExtension.parse with
  | none => none
  | some extension =>
    if ch.productionVerificationMode ∧
        !(rawPresent extension.signature && rawPresent extension.extensionHash) then none
    else if extractValidatorAddress extension = "" then none
    else if vote.validator.address = [] then some extension
    else match validatorAddressBytes extension with
      | none => none
      | some extensionAddrBytes =>
        if extensionAddrBytes = [] ∨ extensionAddrBytes ≠ vote.validator.address then none
        else some extension

/-- Parsed, signed where signatures are mandatory, named, and of the voting validator. -/
structure ConsensusHandler.Accepts (ch : ConsensusHandler) (vote : ExtendedVoteInfo)
    (extension : VoteExtensionWire) : Prop where
  parsed : vote.voteExtension.parse = some extension
  signed : ch.productionVerificationMode = true →
    rawPresent extension.signature = true ∧ rawPresent extension.extensionHash = true
  named : extractValidatorAddress extension ≠ ""
  own : vote.validator.address ≠ [] →
    validatorAddressBytes extension = some vote.validator.address

/-- Which extensions are counted. -/
theorem ConsensusHandler.acceptedExtension_eq_some {ch : ConsensusHandler}
    {vote : ExtendedVoteInfo} {extension : VoteExtensionWire} :
    ch.acceptedExtension vote = some extension ↔ ch.Accepts vote extension := by
  unfold ConsensusHandler.acceptedExtension
  constructor
  · intro accepted
    split at accepted
    · cases accepted
    · rename_i found parsed
      split at accepted
      · cases accepted
      · rename_i signed
        split at accepted
        · cases accepted
        · rename_i named
          have signatures : ch.productionVerificationMode = true →
              rawPresent found.signature = true ∧ rawPresent found.extensionHash = true := by
            simpa using signed
          split at accepted
          · rename_i anonymous
            cases accepted
            exact ⟨parsed, signatures, named, fun known => absurd anonymous known⟩
          · split at accepted
            · cases accepted
            · rename_i bytes decoded
              split at accepted
              · cases accepted
              · rename_i same
                cases accepted
                refine ⟨parsed, signatures, named, fun _ => ?_⟩
                rw [decoded, Option.some.injEq]
                exact not_not.mp (not_or.mp same).2
  · rintro ⟨parsed, signed, named, own⟩
    have signatures : ¬(ch.productionVerificationMode = true ∧
        (!(rawPresent extension.signature && rawPresent extension.extensionHash)) = true) := by
      simpa using signed
    simp only [parsed, signatures, named, ↓reduceIte]
    by_cases anonymous : vote.validator.address = []
    · rw [if_pos anonymous]
    · rw [if_neg anonymous, own anonymous]
      simp [anonymous]

inductive AttestationCheck where
  | counted
  | skipped
  | untrusted
deriving DecidableEq

def ConsensusHandler.checkAttestation (ch : ConsensusHandler) (validatorAddr : String)
    (v : VerificationWire) : AttestationCheck :=
  if v.attestationType = "tee" ∨ v.attestationType = "hybrid" then
    match v.teeAttestation with
    | .absent => .counted
    | .malformed => .skipped
    | .wire attestation =>
      if attestation.platform = "aws-nitro" ∨ attestation.platform = "intel-sgx" then
        match ch.keeper.validateTEEAttestationMeasurement validatorAddr attestation.platform
          attestation.measurement with
        | .ok _ => .counted
        | .error _ => .untrusted
      else .counted
  else .counted

/- Evidence of misbehaviour, read off the parsed extensions after a decision. -/

structure ValidatorResult where
  validatorAddress : String
  outputHash : Bytes
  attestationType : String
  teePlatform : String := ""
  attestationQuote : Bytes := []
  zkProof : Bytes := []
  executionTimeMs : I64
  timestamp : Time
  blsSignature : Bytes
  blsPubKey : Bytes

/-- What the votes say about one job. -/
structure AggregatedResult where
  jobID : String
  modelHash : Bytes
  inputHash : Bytes
  outputHash : Bytes := []
  validatorResults : List ValidatorResult := []
  totalVotes : Nat
  totalPower : Int
  agreementCount : Nat := 0
  agreementPower : Int := 0
  hasConsensus : Bool := false

inductive SlashingCondition where
  | invalidOutput
  | doubleSign
  | collusion
deriving DecidableEq

inductive Severity where
  | low
  | medium
  | high
  | critical
deriving DecidableEq

structure ConflictingOutput where
  outputHash : Bytes
  timestamp : Time
  height : Int

structure SlashingEvidenceRecord where
  validatorAddress : String
  condition : SlashingCondition
  jobID : String
  blockHeight : I64
  timestamp : Time
  expectedOutput : Bytes := []
  actualOutput : Bytes := []
  conflictingOutputs : List ConflictingOutput := []
  detectedBy : String := "consensus"
  severity : Severity

def successesFor (jobID : String) (ext : VoteExtensionWire) : List VerificationWire :=
  if extractValidatorAddress ext = "" then []
  else ext.verifications.filter fun v => v.jobID = jobID ∧ v.success

variable (ctx : ConsensusContext)

def detectInvalidOutputs (jobID : String) (consensusOutput : Bytes)
    (allVotes : List VoteExtensionWire) : List SlashingEvidenceRecord :=
  allVotes.flatMap fun ext =>
    ((successesFor jobID ext).filter fun v => v.outputHash ≠ consensusOutput).map fun v =>
      { validatorAddress := extractValidatorAddress ext
        condition := .invalidOutput
        jobID := jobID
        blockHeight := ctx.blockHeight
        timestamp := ctx.blockTime
        expectedOutput := consensusOutput
        actualOutput := v.outputHash
        severity := .high }

def validatorOutputs (jobID : String) (allVotes : List VoteExtensionWire) :
    Map String (List ConflictingOutput) :=
  (allVotes.flatMap fun ext => (successesFor jobID ext).map fun v => (ext, v)).foldl
    (fun outputs entry => outputs.update (extractValidatorAddress entry.1) [] fun reported =>
      reported ++ [⟨entry.2.outputHash, entry.1.timestamp, entry.1.height⟩]) ∅

def detectDoubleSigners (jobID : String)
    (allVotes : List VoteExtensionWire) (order : RangeOrder String) : List SlashingEvidenceRecord :=
  let reported := validatorOutputs jobID allVotes
  (order.order reported.keys).filterMap fun validatorAddr =>
    let outputs := reported.get validatorAddr []
    if outputs.length < 2 then none
    else if (outputs.map fun output => Hex.encodeToString output.outputHash).dedup.length < 2 then none
    else some
      { validatorAddress := validatorAddr
        condition := .doubleSign
        jobID := jobID
        blockHeight := ctx.blockHeight
        timestamp := ctx.blockTime
        conflictingOutputs := outputs
        severity := .critical }

def wrongClusters (jobID : String) (consensusOutput : Bytes) (allVotes : List VoteExtensionWire) :
    Map String (List String) :=
  (allVotes.flatMap fun ext => ((successesFor jobID ext).filter fun v =>
      Hex.encodeToString v.outputHash ≠ Hex.encodeToString consensusOutput).map fun v => (ext, v)).foldl
    (fun clusters entry => clusters.update (Hex.encodeToString entry.2.outputHash) [] fun members =>
      members ++ [extractValidatorAddress entry.1]) ∅

/-- `none` when the wrong output is too short for the sixteen digits that are logged. -/
def detectColludingValidators (jobID : String) (consensusOutput : Bytes)
    (allVotes : List VoteExtensionWire) (order : RangeOrder String) :
    Option (List SlashingEvidenceRecord) :=
  let clusters := wrongClusters jobID consensusOutput allVotes
  (order.order clusters.keys).foldlM (fun evidence outputHex =>
    let validators := clusters.get outputHex []
    if validators.length < 2 then some evidence
    else match Hex.decodeString outputHex with
      | none => some evidence
      | some outputHash =>
        if outputHex.length < 16 then none
        else some (evidence ++ validators.map fun validatorAddr =>
          { validatorAddress := validatorAddr
            condition := .collusion
            jobID := jobID
            blockHeight := ctx.blockHeight
            timestamp := ctx.blockTime
            expectedOutput := consensusOutput
            actualOutput := outputHash
            severity := .critical })) []

structure EvidenceOrders where
  jobs : RangeOrder String
  signers : String → RangeOrder String
  clusters : String → RangeOrder String

def EvidenceOrders.asGiven : EvidenceOrders :=
  ⟨.asGiven, fun _ => .asGiven, fun _ => .asGiven⟩

def collectEvidenceFromConsensus
    (aggregated : Map String AggregatedResult) (allVotes : List VoteExtensionWire)
    (orders : EvidenceOrders) : Option (List SlashingEvidenceRecord) :=
  (orders.jobs.order aggregated.keys).foldlM (fun evidence jobID =>
    match aggregated.lookup jobID with
    | none => some evidence
    | some result =>
      if !result.hasConsensus then some evidence
      else do
        let collusion ← detectColludingValidators ctx jobID result.outputHash allVotes
          (orders.clusters jobID)
        return evidence ++ detectInvalidOutputs ctx jobID result.outputHash allVotes ++
          detectDoubleSigners ctx jobID allVotes (orders.signers jobID) ++ collusion) []

def severityMultiplier : Severity → Nat
  | .low => 25
  | .medium => 50
  | .high => 100
  | .critical => 200

abbrev Balances := Bytes → String → Nat

def applySlashingPenalty (codec : AddressCodec) (denom : String) (base : Nat) (balances : Balances)
    (record : SlashingEvidenceRecord) : Balances :=
  let scaledAmount := severityMultiplier record.severity * base / 100
  match codec.accAddressFromBech32 record.validatorAddress with
  | none => balances
  | some account =>
    if balances account denom < scaledAmount then balances
    else fun other coin =>
      if other = account ∧ coin = denom then balances other coin - scaledAmount
      else balances other coin

/-- Coin amounts such as `10000uaethel`; the default stands in for an unreadable one. -/
def applySlashingPenalties (codec : AddressCodec) (parseCoinNormalized : String → Option (String × Nat))
    (params : Params) (balances : Balances) (records : List SlashingEvidenceRecord) : Balances :=
  let basePenalty := (parseCoinNormalized params.slashingPenalty).getD ("uaethel", 10000)
  records.foldl (applySlashingPenalty codec basePenalty.1 basePenalty.2) balances

end Aethelred.Pouw
