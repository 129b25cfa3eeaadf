import Aethelred.Go.Hex
import Aethelred.Go.Int64
import Aethelred.Go.RangeOrder
import Aethelred.Lib.Bytes

/- The check of a TEE attestation by the vault keeper (`keeper.go`): freshness, nonce, enclave,
operator signature and platform evidence. Texts of errors end where the program appends the text of
an error of a library. -/
namespace Vault

open Go Attempt Hex

structure TEEAttestation where
  platform : UInt8
  timestamp : I64
  nonce : String
  enclaveHash : String
  signerHash : String
  payloadHash : String
  platformEvidence : String
  signature : String

structure EnclaveRegistration where
  enclaveHash : String
  signerHash : String
  applicationHash : String
  platform : UInt8
  active : Bool
  platformKeyX : String
  platformKeyY : String

structure OperatorRegistration where
  pubKeyHex : String
  enclaveID : String
  active : Bool

structure Registry where
  usedNonces : List String := []
  registeredEnclaves : Map String EnclaveRegistration := ∅
  registeredOperators : Map String OperatorRegistration := ∅

/-- The cryptography of the standard library and of `btcec`. -/
structure Crypto where
  sha256 : Go.Bytes → Go.Bytes
  /-- The compressed public key that a compact signature of a digest recovers to. -/
  recoverCompact : (compactSig digest : Go.Bytes) → Option Go.Bytes
  /-- `ecdsa.Verify` on the curve P-256. -/
  verifyP256 : (x y hash r s : Go.Bytes) → Bool

def MaxAttestationAgeSec : Int := 300

section Digest

variable (crypto : Crypto)

def attestationPreimage (att : TEEAttestation) : Go.Bytes :=
  "CruzibleTEEAttestation".toUTF8.toList ++ [att.platform] ++
    Bytes.bigEndian 8 (att.timestamp.val % 2 ^ 64).toNat ++
    decodePrefix att.nonce ++ decodePrefix att.enclaveHash ++
    decodePrefix att.signerHash ++ decodePrefix att.payloadHash

def computeAttestationDigest (att : TEEAttestation) : Go.Bytes :=
  crypto.sha256 (attestationPreimage att)

/-- The bytes of a text of exactly so many bytes in hexadecimal. -/
def decodeExactly (size : Nat) (text : String) : Option Go.Bytes :=
  (decodeString text).filter fun bytes => bytes.length = size

def enclaveIDOf (enclaveHashBytes : Go.Bytes) (platform : UInt8) : String :=
  encodeToString (crypto.sha256 (enclaveHashBytes ++ [platform]))

end Digest

section Evidence

/-- A platform's report: where its parts are and what the messages call them. -/
structure EvidenceLayout where
  name : String
  size : Nat
  enclaveField : String
  signerField : String
  dataField : String
  /-- Offsets of the attestation digest, of the hash of the hardware report and of the signature. -/
  dataAt : Nat
  rawAt : Nat
  sigAt : Nat
  /-- The bytes between the report data and the binding hash in the signed body. -/
  suffix : Go.Bytes
  /-- Whether the third measurement is compared with the application hash. -/
  application : Bool

/-- 32 bytes of the evidence. -/
def slot (evidence : Go.Bytes) (offset : Nat) : Go.Bytes := (evidence.drop offset).take 32

variable (crypto : Crypto) (layout : EvidenceLayout)

def verifyApplication (evidence : Go.Bytes) (enclave : EnclaveRegistration) : Except String Unit :=
  if layout.application = true ∧ enclave.applicationHash ≠ "" then
    match decodeExactly 32 enclave.applicationHash with
    | none => .error "invalid expected application hash (PCR2)"
    | some expectedApp =>
      if slot evidence 64 = expectedApp then .ok ()
      else .error "Nitro pcrHash2 (application hash) mismatch"
  else .ok ()

def verifyReport (evidence : Go.Bytes) (enclave : EnclaveRegistration) : Except String Unit := do
  let bindingHash := crypto.sha256 (slot evidence layout.rawAt ++ slot evidence 0 ++
    slot evidence 32)
  let reportHash := crypto.sha256 (evidence.take (layout.dataAt + 32) ++ layout.suffix ++
    bindingHash)
  match decodeExactly 32 enclave.platformKeyX, decodeExactly 32 enclave.platformKeyY with
  | none, _ => .error "invalid platform key X"
  | some _, none => .error "invalid platform key Y"
  | some x, some y =>
    if crypto.verifyP256 x y reportHash (slot evidence layout.sigAt)
        (slot evidence (layout.sigAt + 32)) then .ok ()
    else .error s!"{layout.name} P-256 signature verification failed"

/-- Evidence has the measurements of the enclave, the digest of the attestation, the hash of a
hardware report and the signature of the platform's key. -/
def verifyEvidence (evidence : Go.Bytes)
    (expectedEnclaveHash expectedSignerHash : String) (digest : Go.Bytes)
    (enclave : EnclaveRegistration) : Except String Unit := do
  if evidence.length < layout.size then
    .error s!"{layout.name} evidence too short: {evidence.length} bytes (need {layout.size})"
  else
    match decodeExactly 32 expectedEnclaveHash with
    | none => .error "invalid expected enclave hash"
    | some expectedEnclave =>
      if slot evidence 0 ≠ expectedEnclave then
        .error s!"{layout.name} {layout.enclaveField} mismatch"
      else
        match decodeExactly 32 expectedSignerHash with
        | none => .error "invalid expected signer hash"
        | some expectedSigner =>
          if slot evidence 32 ≠ expectedSigner then
            .error s!"{layout.name} {layout.signerField} mismatch"
          else do
            verifyApplication layout evidence enclave
            if slot evidence layout.dataAt ≠ digest then
              .error s!"{layout.name} {layout.dataField} does not match attestation digest"
            else if (slot evidence layout.rawAt).all (· == 0) then
              .error s!"{layout.name} rawReportHash is zero (no hardware attestation)"
            else verifyReport crypto layout evidence enclave

def sgxLayout : EvidenceLayout where
  name := "SGX"
  size := 256
  enclaveField := "mrenclave"
  signerField := "mrsigner"
  dataField := "reportData"
  dataAt := 64
  rawAt := 160
  sigAt := 192
  suffix := [0, 1, 0, 1]
  application := false

def nitroLayout : EvidenceLayout where
  name := "Nitro"
  size := 224
  enclaveField := "pcrHash0"
  signerField := "pcrHash1"
  dataField := "userData"
  dataAt := 96
  rawAt := 128
  sigAt := 160
  suffix := []
  application := true

def sevLayout : EvidenceLayout where
  name := "SEV"
  size := 224
  enclaveField := "measurement"
  signerField := "hostData"
  dataField := "reportData"
  dataAt := 64
  rawAt := 128
  sigAt := 160
  suffix := [0]
  application := false

def verifySgxEvidence := verifyEvidence crypto sgxLayout

def verifyNitroEvidence := verifyEvidence crypto nitroLayout

def verifySevEvidence := verifyEvidence crypto sevLayout

def verifyPlatformEvidence (att : TEEAttestation) (digest : Go.Bytes)
    (enclave : EnclaveRegistration) : Except String Unit :=
  if att.platformEvidence = "" then .error "missing platform evidence"
  else
    match decodeString att.platformEvidence with
    | none => .error "invalid platform evidence hex"
    | some evidenceBytes =>
      if att.platform = 0 then
        verifySgxEvidence crypto evidenceBytes att.enclaveHash att.signerHash digest enclave
      else if att.platform = 1 then
        verifyNitroEvidence crypto evidenceBytes att.enclaveHash att.signerHash digest enclave
      else if att.platform = 2 then
        verifySevEvidence crypto evidenceBytes att.enclaveHash att.signerHash digest enclave
      else .error s!"unsupported platform: {att.platform.toNat}"

end Evidence

section Verify

variable (crypto : Crypto)

/-- The key a signature of 65 bytes recovers to, with either recovery flag. -/
def recoverSigner (sigBytes digest : Go.Bytes) : Option Go.Bytes :=
  let last := sigBytes.getD 64 0
  let v := if last ≥ 27 then last - 27 else last
  (crypto.recoverCompact ((v + 27) :: sigBytes.take 64) digest).orElse fun _ =>
    crypto.recoverCompact ((v + 31) :: sigBytes.take 64) digest

def checkOperator (registry : Registry) (recoveredPubHex enclaveID : String) : Except String Unit :=
  match registry.registeredOperators.lookup recoveredPubHex with
  | none => .error s!"unregistered operator: recovered key {recoveredPubHex}"
  | some operator =>
    if operator.active = false then .error s!"operator revoked: {recoveredPubHex}"
    else if operator.enclaveID ≠ enclaveID then
      .error (s!"operator {recoveredPubHex} not authorized for enclave {enclaveID} " ++
        s!"(bound to {operator.enclaveID})")
    else .ok ()

def checkAttestation (registry : Registry) (att : TEEAttestation) : Except String Unit :=
  match decodeExactly 32 att.enclaveHash with
  | none => .error "invalid enclave_hash: must be 64 hex chars (32 bytes)"
  | some enclaveHashBytes =>
    let enclaveID := enclaveIDOf crypto enclaveHashBytes att.platform
    match registry.registeredEnclaves.lookup enclaveID with
    | none => .error s!"unregistered enclave: {att.enclaveHash}"
    | some enclave =>
      if enclave.active = false then .error s!"enclave revoked: {enclaveID}"
      else if att.signerHash ≠ enclave.signerHash then
        .error s!"signer_hash mismatch: got {att.signerHash}, want {enclave.signerHash}"
      else
        let digest := computeAttestationDigest crypto att
        match decodeExactly 65 att.signature with
        | none => .error "invalid signature: must be 130 hex chars (65 bytes, R‖S‖V)"
        | some sigBytes =>
          match recoverSigner crypto sigBytes digest with
          | none => .error "signature recovery failed"
          | some recovered => do
              checkOperator registry (encodeToString recovered) enclaveID
              (verifyPlatformEvidence crypto att digest enclave).mapError
                ("platform evidence verification failed: " ++ ·)

def verifyAttestation (blockTime : I64) (att : TEEAttestation) : Attempt Registry String Unit := do
  let age := Int64.wrap (blockTime.val - att.timestamp.val)
  ensure (¬(age < 0 ∨ age > MaxAttestationAgeSec))
    s!"attestation expired: age {age}s exceeds max {MaxAttestationAgeSec}s"
  let registry ← read
  ensure (att.nonce ∉ registry.usedNonces) s!"nonce already used: {att.nonce}"
  modify fun registry => { registry with usedNonces := att.nonce :: registry.usedNonces }
  ofExcept (checkAttestation crypto registry att)

end Verify

end Vault
