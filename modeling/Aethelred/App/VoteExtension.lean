import Aethelred.Go.Time
import Aethelred.Go.Hex
import Aethelred.Go.Int64
import Aethelred.Lib.Code

/- The vote extension of a validator and the bytes that its hash is taken of. Texts are byte
strings here, as they are in memory. -/
namespace Aethelred.App

open Go Bytes

structure TEEAttestationData where
  platform : Bytes
  enclaveID : Bytes
  measurement : Bytes
  quote : Bytes
  userData : Bytes
  certificateChain : List Bytes
  timestamp : Instant
  nonce : Bytes
  blockHeight : I64
  chainID : Bytes
deriving DecidableEq

structure ZKProofData where
  proofSystem : Bytes
  proof : Bytes
  publicInputs : Bytes
  verifyingKeyHash : Bytes
  circuitHash : Bytes
  proofSize : I64
deriving DecidableEq

structure ComputeVerification where
  jobID : Bytes
  modelHash : Bytes
  inputHash : Bytes
  outputHash : Bytes
  attestationType : Bytes
  teeAttestation : Option TEEAttestationData
  zkProof : Option ZKProofData
  executionTimeMs : I64
  success : Bool
  errorCode : Bytes
  errorMessage : Bytes
  nonce : Bytes
deriving DecidableEq

structure VoteExtension where
  version : Int32
  height : I64
  validatorAddress : Bytes
  verifications : List ComputeVerification
  timestamp : Instant
  nonce : Bytes
  signature : Bytes
  extensionHash : Bytes
deriving DecidableEq

/-- A byte string behind its length in 32 bits. -/
def lenBytes (b : Bytes) : Bytes := bigEndian 4 (b.length % 256 ^ 4) ++ b

def int64Bytes (v : Int) : Bytes := bigEndian 8 (v % 2 ^ 64).toNat

/-- The nanoseconds since the epoch, as far as they fit. -/
def unixNano (t : Instant) : Int := Int64.wrap t.unixNano

def TEEAttestationData.hashInput (tee : TEEAttestationData) : Bytes :=
  lenBytes tee.platform ++ lenBytes tee.enclaveID ++ lenBytes tee.measurement ++
    lenBytes tee.quote ++ lenBytes tee.userData ++ int64Bytes (unixNano tee.timestamp) ++
    lenBytes tee.nonce ++ int64Bytes tee.blockHeight.val ++ lenBytes tee.chainID ++
    bigEndian 4 (tee.certificateChain.length % 256 ^ 4) ++
    tee.certificateChain.flatMap lenBytes

variable (zk : ZKProofData)

def ZKProofData.hashInput : Bytes :=
  lenBytes zk.proofSystem ++ lenBytes zk.proof ++ lenBytes zk.publicInputs ++
    lenBytes zk.verifyingKeyHash ++ lenBytes zk.circuitHash ++ int64Bytes zk.proofSize.val

def ComputeVerification.hashInput (v : ComputeVerification) : Bytes :=
  lenBytes v.jobID ++ lenBytes v.modelHash ++ lenBytes v.inputHash ++ lenBytes v.outputHash ++
    lenBytes v.attestationType ++ int64Bytes v.executionTimeMs.val ++ [v.success.toUInt8] ++
    lenBytes v.errorCode ++ lenBytes v.errorMessage ++ lenBytes v.nonce ++
    Code.flagged TEEAttestationData.hashInput v.teeAttestation ++
    Code.flagged ZKProofData.hashInput v.zkProof

def VoteExtension.hashInput (ve : VoteExtension) : Bytes :=
  ofText "aethelred_vote_ext_v1:" ++ bigEndian 4 ve.version.toBitVec.toNat ++
    int64Bytes ve.height.val ++ lenBytes ve.validatorAddress ++
    int64Bytes (unixNano ve.timestamp) ++ lenBytes ve.nonce ++
    bigEndian 4 (ve.verifications.length % 256 ^ 4) ++
    ve.verifications.flatMap ComputeVerification.hashInput

def VoteExtension.computeHash (sha256 : Bytes → Bytes) (ve : VoteExtension) : Bytes :=
  sha256 ve.hashInput

/-- The extensions have the same contents, whatever their signature and hash. -/
structure VoteExtension.Agrees (ve ve' : VoteExtension) : Prop where
  version : ve.version = ve'.version
  height : ve.height = ve'.height
  validatorAddress : ve.validatorAddress = ve'.validatorAddress
  timestamp : ve.timestamp = ve'.timestamp
  nonce : ve.nonce = ve'.nonce
  verifications : ve.verifications = ve'.verifications

def TEEAttestationData.byteFields (tee : TEEAttestationData) : List Bytes :=
  [tee.platform, tee.enclaveID, tee.measurement, tee.quote, tee.userData, tee.nonce,
    tee.chainID] ++ tee.certificateChain

def ZKProofData.byteFields : List Bytes :=
  [zk.proofSystem, zk.proof, zk.publicInputs, zk.verifyingKeyHash, zk.circuitHash]

def ComputeVerification.byteFields (v : ComputeVerification) : List Bytes :=
  [v.jobID, v.modelHash, v.inputHash, v.outputHash, v.attestationType, v.errorCode,
    v.errorMessage, v.nonce]

/-- Byte strings with a length of 32 bits and times in 64 bits of nanoseconds. -/
structure TEEAttestationData.Representable (tee : TEEAttestationData) : Prop where
  bytes : ∀ field ∈ tee.byteFields, field.length < 2 ^ 32
  time : Int64.Fits tee.timestamp.unixNano

/-- Every length fits the four bytes it is written in. -/
def ZKProofData.Representable : Prop :=
  ∀ field ∈ zk.byteFields, field.length < 2 ^ 32

/-- Its byte fields, and those of its parts, have lengths of four bytes. -/
structure ComputeVerification.Representable (v : ComputeVerification) : Prop where
  bytes : ∀ field ∈ v.byteFields, field.length < 2 ^ 32
  tee : ∀ tee ∈ v.teeAttestation, tee.Representable
  zk : ∀ zk ∈ v.zkProof, zk.Representable

/-- Every length fits four bytes, and the time an `int64` of nanoseconds. -/
structure VoteExtension.Representable (ve : VoteExtension) : Prop where
  validatorAddress : ve.validatorAddress.length < 2 ^ 32
  nonce : ve.nonce.length < 2 ^ 32
  time : Int64.Fits ve.timestamp.unixNano
  verifications : ∀ v ∈ ve.verifications, v.Representable

/-- No certificate chain of the extension has more than `most` certificates. -/
def VoteExtension.ChainsWithin (most : Nat) (ve : VoteExtension) : Prop :=
  ∀ v ∈ ve.verifications, ∀ tee ∈ v.teeAttestation, tee.certificateChain.length ≤ most

/- The check of one verification, as lenient or as strict as the chain asks for. -/

inductive ValidationMode where
  | permissive
  | strict
deriving DecidableEq

inductive TEEAttestationError where
  | missingPlatform
  | simulatedPlatform
  | unknownPlatform (platform : Bytes)
  | missingMeasurement
  | missingQuote
  | quoteTooShort (size : Nat)
  | missingNonce
  | missingUserData
  | missingTimestamp
  | invalidQuoteSchema
deriving DecidableEq

inductive ZKProofError where
  | missingProofSystem
  | unknownProofSystem (system : Bytes)
  | missingProof
  | proofTooShort (size : Nat)
  | verifyingKeyHashLength
  | circuitHashLength
  | missingPublicInputs
deriving DecidableEq

inductive VerificationError where
  | missingJobID
  | jobIDTooLong (size : Nat)
  | missingNonce
  | nonceLength (size : Nat)
  | missingModelHash
  | modelHashLength
  | outputHashLength
  | executionTime
  | teeRequired
  | invalidTEE (reason : TEEAttestationError)
  | zkRequired
  | invalidZK (reason : ZKProofError)
  | hybridRequiresBoth
  | noAttestation
  | unknownAttestationType (type : Bytes)
  | missingBlockHeight
  | missingChainID
  | userDataBinding
  | userDataLength
  | userDataOutput
  | publicInputsBinding
deriving DecidableEq

def attestationTypeTEE : Bytes := ofText "tee"
def attestationTypeZKML : Bytes := ofText "zkml"
def attestationTypeHybrid : Bytes := ofText "hybrid"
def attestationTypeNone : Bytes := ofText "none"

def simulatedPlatforms : List Bytes :=
  [ofText "simulated", ofText "nitro-simulated", ofText "mock-tee"]

def isSimulatedTEEPlatform (platform : Bytes) : Bool := platform ∈ simulatedPlatforms

def validPlatforms : List Bytes :=
  [ofText "aws-nitro", ofText "intel-sgx", ofText "intel-tdx",
    ofText "amd-sev", ofText "arm-trustzone", ofText "nitro-simulated",
    ofText "mock-tee", ofText "simulated"]

def validSystems : List Bytes :=
  [ofText "ezkl", ofText "risc0", ofText "plonky2", ofText "halo2"]

def zeroInstant : Instant := ⟨-62135596800 * 1000000000⟩

/-- What the check takes from elsewhere: the hash and the form of a vendor's quote. -/
structure VerificationPlatform where
  sha256 : Bytes → Bytes
  validateTEEQuoteSchema : TEEAttestationData → Bool

variable (platform : VerificationPlatform)

def TEEAttestationData.validate (ta : TEEAttestationData) (mode : ValidationMode) :
    Except TEEAttestationError Unit :=
  if ta.platform.length = 0 then .error .missingPlatform
  else if mode = .strict ∧ isSimulatedTEEPlatform ta.platform then .error .simulatedPlatform
  else if ta.platform ∉ validPlatforms then .error (.unknownPlatform ta.platform)
  else if ta.measurement.length = 0 then .error .missingMeasurement
  else if ta.quote.length = 0 then .error .missingQuote
  else if ta.quote.length < 64 then .error (.quoteTooShort ta.quote.length)
  else if ta.nonce.length = 0 then .error .missingNonce
  else if ta.userData.length = 0 then .error .missingUserData
  else if ta.timestamp = zeroInstant then .error .missingTimestamp
  else if mode = .strict ∧ ¬platform.validateTEEQuoteSchema ta then .error .invalidQuoteSchema
  else .ok ()

def ZKProofData.validate (zp : ZKProofData) : Except ZKProofError Unit :=
  if zp.proofSystem.length = 0 then .error .missingProofSystem
  else if zp.proofSystem ∉ validSystems then .error (.unknownProofSystem zp.proofSystem)
  else if zp.proof.length = 0 then .error .missingProof
  else if zp.proof.length < 128 then .error (.proofTooShort zp.proof.length)
  else if zp.verifyingKeyHash.length ≠ 32 then .error .verifyingKeyHashLength
  else if zp.circuitHash.length > 0 ∧ zp.circuitHash.length ≠ 32 then .error .circuitHashLength
  else if zp.publicInputs.length = 0 then .error .missingPublicInputs
  else .ok ()

namespace ComputeVerification

variable (cv : ComputeVerification) (mode : ValidationMode)

def validateTEE (ta : TEEAttestationData) : Except VerificationError Unit :=
  (ta.validate platform mode).mapError .invalidTEE

def validateZK (zp : ZKProofData) : Except VerificationError Unit :=
  zp.validate.mapError .invalidZK

def validateAttestation : Except VerificationError Unit :=
  if cv.attestationType = attestationTypeTEE then
    match cv.teeAttestation with
    | none => .error .teeRequired
    | some ta => validateTEE platform mode ta
  else if cv.attestationType = attestationTypeZKML then
    match cv.zkProof with
    | none => .error .zkRequired
    | some zp => validateZK zp
  else if cv.attestationType = attestationTypeHybrid then
    match cv.teeAttestation, cv.zkProof with
    | some ta, some zp =>
      if mode = .strict then do
        validateTEE platform mode ta
        validateZK zp
      else .ok ()
    | _, _ => .error .hybridRequiresBoth
  else if cv.attestationType = attestationTypeNone then
    if cv.success then .error .noAttestation else .ok ()
  else .error (.unknownAttestationType cv.attestationType)

def bindTEE (ta : TEEAttestationData) : Except VerificationError Unit :=
  if mode = .strict ∧ ta.blockHeight.val ≤ 0 then .error .missingBlockHeight
  else if mode = .strict ∧ ta.chainID = [] then .error .missingChainID
  else if ta.blockHeight.val > 0 ∨ ta.chainID ≠ [] then
    if ta.userData ≠ platform.sha256 (cv.outputHash ++
        littleEndian 8 (ta.blockHeight.val % 2 ^ 64).toNat ++ ta.chainID) then
      .error .userDataBinding
    else .ok ()
  else if ta.userData.length ≠ cv.outputHash.length then .error .userDataLength
  else if ta.userData ≠ cv.outputHash then .error .userDataOutput
  else .ok ()

def validateBinding : Except VerificationError Unit :=
  if mode = .strict ∧ cv.success then
    if cv.outputHash.length ≠ 32 then .error .outputHashLength
    else do
      match cv.teeAttestation with
      | none => .ok ()
      | some ta => cv.bindTEE platform mode ta
      match cv.zkProof with
      | none => .ok ()
      | some zp =>
        if cv.outputHash <:+: zp.publicInputs then .ok () else .error .publicInputsBinding
  else .ok ()

def validate : Except VerificationError Unit :=
  if cv.jobID.length = 0 then .error .missingJobID
  else if cv.jobID.length > 256 then .error (.jobIDTooLong cv.jobID.length)
  else if cv.nonce.length = 0 then .error .missingNonce
  else if cv.nonce.length ≠ 32 then .error (.nonceLength cv.nonce.length)
  else if cv.modelHash.length = 0 then .error .missingModelHash
  else if cv.modelHash.length ≠ 32 then .error .modelHashLength
  else if cv.success ∧ cv.outputHash.length ≠ 32 then .error .outputHashLength
  else if cv.success ∧ cv.executionTimeMs.val ≤ 0 then .error .executionTime
  else do
    cv.validateAttestation platform mode
    cv.validateBinding platform mode

end ComputeVerification

end Aethelred.App
