import Aethelred.Lib.Code

/- Hybrid signatures of `crates/core/src/crypto/hybrid.rs`: an ECDSA and a Dilithium signature
with their wire format, and the verifier's configuration. -/
namespace Core

open Bytes

/-- The members of `CryptoError` that signatures and public keys raise. -/
inductive CryptoError where
  | invalidSignatureLength (expected actual : Nat)
  | invalidPublicKeyLength (expected actual : Nat)
  | invalidKeyFormat (reason : String)
deriving DecidableEq

/-- The text `thiserror` gives an error. -/
def CryptoError.toString : CryptoError → String
  | .invalidSignatureLength expected actual =>
    s!"Invalid signature length: expected {expected}, got {actual}"
  | .invalidPublicKeyLength expected actual =>
    s!"Invalid public key length: expected {expected}, got {actual}"
  | .invalidKeyFormat reason => s!"Invalid key format: {reason}"

inductive DilithiumSecurityLevel where
  | level2
  | level3
  | level5
deriving DecidableEq

namespace DilithiumSecurityLevel

/-- The level `as u8`. -/
def toByte : DilithiumSecurityLevel → UInt8
  | .level2 => 2
  | .level3 => 3
  | .level5 => 5

def debug : DilithiumSecurityLevel → String
  | .level2 => "Level2"
  | .level3 => "Level3"
  | .level5 => "Level5"

def publicKeySize : DilithiumSecurityLevel → Nat
  | .level2 => 1312
  | .level3 => 1952
  | .level5 => 2592

def signatureSize : DilithiumSecurityLevel → Nat
  | .level2 => 2420
  | .level3 => 3309
  | .level5 => 4627

/-- The derived order is that of the discriminants. -/
instance : LT DilithiumSecurityLevel := ⟨fun level level' => level.toByte < level'.toByte⟩

instance (level level' : DilithiumSecurityLevel) : Decidable (level < level') :=
  inferInstanceAs (Decidable (level.toByte < level'.toByte))

theorem toByte_injective : Function.Injective toByte := by
  intro level level' same
  cases level <;> cases level' <;> first | rfl | cases same

theorem signatureSize_lt (level : DilithiumSecurityLevel) : level.signatureSize < 65536 := by
  cases level <;> decide

end DilithiumSecurityLevel

/-- What a verifier requires of a signature. -/
structure VerifierConfig where
  panicModeQc : Bool
  minDilithiumLevel : DilithiumSecurityLevel
  allowLegacyEcdsaOnly : Bool
  requireDualSigAlways : Bool
  maxSignatureAgeSecs : Option UInt64
  chainId : UInt64

namespace VerifierConfig

def default : VerifierConfig where
  panicModeQc := false
  minDilithiumLevel := .level3
  allowLegacyEcdsaOnly := false
  requireDualSigAlways := false
  maxSignatureAgeSecs := none
  chainId := 1

def devnet : VerifierConfig where
  panicModeQc := false
  minDilithiumLevel := .level2
  allowLegacyEcdsaOnly := false
  requireDualSigAlways := false
  maxSignatureAgeSecs := some 3600
  chainId := 9999

def testnet : VerifierConfig where
  panicModeQc := false
  minDilithiumLevel := .level3
  allowLegacyEcdsaOnly := false
  requireDualSigAlways := false
  maxSignatureAgeSecs := some 7200
  chainId := 2

def mainnet : VerifierConfig where
  panicModeQc := false
  minDilithiumLevel := .level3
  allowLegacyEcdsaOnly := false
  requireDualSigAlways := true
  maxSignatureAgeSecs := none
  chainId := 1

def enterPanicMode (config : VerifierConfig) : VerifierConfig :=
  { config with panicModeQc := true, allowLegacyEcdsaOnly := false }

end VerifierConfig

def hybridMarker : UInt8 := 0x03
def componentSeparator : UInt8 := 0xFF
def signatureVersionV1 : UInt8 := 0x01
def signatureVersionV2 : UInt8 := 0x02
def signatureVersion : UInt8 := signatureVersionV2

structure EcdsaPublicKey where
  bytes : List UInt8

structure DilithiumPublicKey where
  bytes : List UInt8
  level : DilithiumSecurityLevel

structure HybridPublicKey where
  classical : EcdsaPublicKey
  quantum : DilithiumPublicKey

structure HybridSignature where
  classical : List UInt8
  quantum : List UInt8
  level : DilithiumSecurityLevel
  timestamp : Option UInt64
  chainId : Option UInt64

/-- What the crate takes from the cryptographic libraries, and the one clock reading. -/
structure Platform where
  keccak256 : List UInt8 → List UInt8
  sha256 : List UInt8 → Fixed 32
  /-- `VerifyingKey::from_sec1_bytes`, by the text of its error. -/
  sec1Point : List UInt8 → Except String Unit
  /-- `verify_dilithium`, from the signature's level and bytes, the message hash and the key. -/
  verifyDilithium : DilithiumSecurityLevel → List UInt8 → List UInt8 → DilithiumPublicKey →
    Except String Bool
  /-- What `verify_ecdsa` does with a signature of 64 bytes, the message hash and the key. -/
  verifyingKey : List UInt8 → List UInt8 → List UInt8 → Except String Bool
  /-- Seconds since the epoch, unless the clock is set before it. -/
  now : Option UInt64

namespace HybridSignature

variable (platform : Platform)

def metadataBytes (word : UInt64) : List UInt8 := littleEndian 8 word.toNat

variable (signature : HybridSignature)

/-- `to_bytes`; `none` is the panic on a quantum signature whose length exceeds u16. -/
def toBytes : Option (List UInt8) :=
  if signature.quantum.length < 65536 then
    some ([signatureVersionV2, hybridMarker] ++ (signature.classical ++
      ([componentSeparator] ++ ([signature.level.toByte] ++
      ((littleEndian 2 signature.quantum.length ++ signature.quantum) ++
      (Code.flagged metadataBytes signature.timestamp ++
        Code.flagged metadataBytes signature.chainId))))))
  else
    none

variable (bytes : List UInt8)

def parseFlag (cursor : Nat) : Option (Option UInt64 × Nat) :=
  if bytes.length ≤ cursor then
    none
  else if byteAt bytes cursor = 0x00 then
    some (none, cursor + 1)
  else if byteAt bytes cursor = 0x01 then
    if bytes.length < cursor + 9 then
      none
    else
      some (some (UInt64.ofNat (ofLittleEndian (slice bytes (cursor + 1) 8))),
        cursor + 9)
  else
    none

def parseSignatureMetadata (offset : Nat) :
    Option (Option UInt64 × Option UInt64 × Nat) := do
  let (timestamp, cursor) ← parseFlag bytes offset
  let (chainId, cursor) ← parseFlag bytes cursor
  some (timestamp, chainId, cursor)

def parseLevelByte (levelByte : UInt8) : Except CryptoError DilithiumSecurityLevel :=
  if levelByte = 2 then .ok .level2
  else if levelByte = 3 then .ok .level3
  else if levelByte = 5 then .ok .level5
  else .error (.invalidKeyFormat s!"Invalid Dilithium level: {levelByte}")

def missingSeparator : CryptoError := .invalidKeyFormat "Missing component separator"

/-- The length of the quantum part fits the level and the bytes that are there. -/
def checkQuantumLength (level : DilithiumSecurityLevel) (quantumLen actual : Nat) :
    Except CryptoError Unit :=
  if quantumLen = 0 ∨ quantumLen > level.signatureSize then
    let name := level.debug
    let most := level.signatureSize
    .error (.invalidKeyFormat
      s!"Invalid Dilithium signature length {quantumLen} for level {name} (max {most})")
  else if actual < 70 + quantumLen + 2 then
    .error (.invalidSignatureLength (70 + quantumLen + 2) actual)
  else
    .ok ()

/-- The metadata, which must be the last bytes. -/
def parseLastMetadata (offset : Nat) : Except CryptoError (Option UInt64 × Option UInt64) :=
  match parseSignatureMetadata bytes offset with
  | none => .error (.invalidKeyFormat "Malformed hybrid signature metadata")
  | some (timestamp, chainId, consumed) =>
    if consumed ≠ bytes.length then
      .error (.invalidKeyFormat "Trailing bytes in hybrid signature")
    else
      .ok (timestamp, chainId)

def parseSignatureV2 : Except CryptoError HybridSignature :=
  if bytes.length < 72 then
    .error (.invalidSignatureLength 72 bytes.length)
  else if byteAt bytes 66 ≠ componentSeparator then
    .error missingSeparator
  else do
    let level ← parseLevelByte (byteAt bytes 67)
    let quantumLen := ofLittleEndian (slice bytes 68 2)
    checkQuantumLength level quantumLen bytes.length
    let (timestamp, chainId) ← parseLastMetadata bytes (70 + quantumLen)
    .ok { classical := slice bytes 2 64, quantum := slice bytes 70 quantumLen, level,
          timestamp, chainId }

def parseCandidate (level : DilithiumSecurityLevel) : Option HybridSignature :=
  let levelOffset := 67 + level.signatureSize
  if bytes.length ≤ levelOffset then
    none
  else if byteAt bytes levelOffset ≠ level.toByte then
    none
  else
    match parseSignatureMetadata bytes (levelOffset + 1) with
    | none => none
    | some (timestamp, chainId, consumed) =>
      if consumed ≠ bytes.length then
        none
      else
        some { classical := slice bytes 2 64,
               quantum := slice bytes 67 level.signatureSize, level, timestamp, chainId }

def parseSignatureV1 : Except CryptoError HybridSignature :=
  if bytes.length < 70 then
    .error (.invalidSignatureLength 70 bytes.length)
  else if byteAt bytes 66 ≠ componentSeparator then
    .error missingSeparator
  else
    match [DilithiumSecurityLevel.level2, .level3, .level5].findSome? (parseCandidate bytes) with
    | some signature => .ok signature
    | none =>
      .error (.invalidKeyFormat "Invalid hybrid signature encoding for all supported levels")

/-- A byte as `02x` writes it. -/
def hexByte (byte : UInt8) : String :=
  String.ofList [Nat.digitChar (byte.toNat / 16), Nat.digitChar (byte.toNat % 16)]

def fromBytes : Except CryptoError HybridSignature :=
  if bytes.length < 2 then
    .error (.invalidSignatureLength 2 bytes.length)
  else
    let version := byteAt bytes 0
    let marker := byteAt bytes 1
    if marker ≠ hybridMarker then
      let wanted := hexByte hybridMarker
      let found := hexByte marker
      .error (.invalidKeyFormat s!"Expected hybrid signature marker 0x{wanted}, got 0x{found}")
    else if version = signatureVersionV2 then
      parseSignatureV2 bytes
    else if version = signatureVersionV1 then
      parseSignatureV1 bytes
    else
      .error (.invalidKeyFormat s!"Unsupported signature version: {version}")

/-- Both components have the length their algorithm gives them. -/
def WellFormed : Prop :=
  signature.classical.length = 64 ∧ signature.quantum.length = signature.level.signatureSize

instance : Decidable signature.WellFormed :=
  inferInstanceAs (Decidable (_ ∧ _))

def validateFormat : Except String Unit :=
  let expected := signature.level.signatureSize
  let classicalLen := signature.classical.length
  let quantumLen := signature.quantum.length
  if classicalLen ≠ 64 then
    .error s!"Invalid ECDSA signature size: expected 64, got {classicalLen}"
  else if quantumLen ≠ expected then
    .error s!"Invalid Dilithium signature size: expected exactly {expected}, got {quantumLen}"
  else
    .ok ()

variable (config : VerifierConfig)

def checkLevel : Except String Unit :=
  let level := signature.level.debug
  let least := config.minDilithiumLevel.debug
  if signature.level < config.minDilithiumLevel then
    .error s!"Dilithium security level {level} below minimum {least}"
  else
    .ok ()

def checkAge : Except String Unit :=
  match config.maxSignatureAgeSecs, signature.timestamp with
  | some maxAge, some sigTimestamp =>
    match platform.now with
    | none => .error "System clock is before UNIX epoch - cannot verify signature age"
    | some now =>
      let age := now - sigTimestamp
      if now > sigTimestamp ∧ age > maxAge then
        .error s!"Signature expired: age {age} > max {maxAge}"
      else
        .ok ()
  | _, _ => .ok ()

def checkChainId : Except String Unit :=
  match signature.chainId with
  | none => .ok ()
  | some sigChainId =>
    let chainId := config.chainId
    if sigChainId ≠ config.chainId then
      .error s!"Chain ID mismatch: signature={sigChainId}, config={chainId}"
    else
      .ok ()

variable (msgHash : List UInt8)

def verifyEcdsa (pubkey : EcdsaPublicKey) : Except String Bool :=
  let classicalLen := signature.classical.length
  if classicalLen ≠ 64 then
    .error s!"Invalid ECDSA signature size: expected 64, got {classicalLen}"
  else
    platform.verifyingKey signature.classical msgHash pubkey.bytes

def checkQuantum (pubkey : DilithiumPublicKey) : Except String Unit := do
  let quantumValid ← platform.verifyDilithium signature.level signature.quantum msgHash pubkey
  if quantumValid then .ok () else .error "Invalid Post-Quantum Dilithium Signature"

def checkClassical (pubkey : EcdsaPublicKey) (config : VerifierConfig) : Except String Unit :=
  if config.panicModeQc then
    .ok ()
  else do
    let classicalValid ← signature.verifyEcdsa platform msgHash pubkey
    if classicalValid then .ok () else .error "Invalid Classical ECDSA Signature"

/-- The dilithium signature is always verified, the ECDSA one outside the panic mode. -/
def verify (message : List UInt8) (pubkey : HybridPublicKey)
    (config : VerifierConfig) : Except String Unit := do
  signature.validateFormat
  signature.checkLevel config
  signature.checkAge platform config
  signature.checkChainId config
  signature.checkQuantum platform (platform.keccak256 message) pubkey.quantum
  signature.checkClassical platform (platform.keccak256 message) pubkey.classical config

end HybridSignature

namespace EcdsaPublicKey

variable (platform : Platform)

def fromBytes (bytes : List UInt8) : Except CryptoError EcdsaPublicKey :=
  if bytes.length ≠ 33 ∧ bytes.length ≠ 65 then
    .error (.invalidPublicKeyLength 33 bytes.length)
  else
    match platform.sec1Point bytes with
    | .error reason => .error (.invalidKeyFormat reason)
    | .ok () => .ok { bytes }

end EcdsaPublicKey

namespace DilithiumPublicKey

def fromBytes (bytes : List UInt8) (level : DilithiumSecurityLevel) :
    Except CryptoError DilithiumPublicKey :=
  if bytes.length ≠ level.publicKeySize then
    .error (.invalidPublicKeyLength level.publicKeySize bytes.length)
  else
    .ok { bytes, level }

end DilithiumPublicKey

namespace HybridPublicKey

variable (platform : Platform)

def quantumFromBytes (bytes : List UInt8) : Except CryptoError DilithiumPublicKey := do
  let level ← HybridSignature.parseLevelByte (bytes.getLastD 0)
  let expectedLen := 36 + level.publicKeySize + 1
  if bytes.length ≠ expectedLen then
    .error (.invalidPublicKeyLength expectedLen bytes.length)
  else
    DilithiumPublicKey.fromBytes (slice bytes 36 level.publicKeySize) level

def fromBytes (bytes : List UInt8) : Except CryptoError HybridPublicKey :=
  if bytes.length < 36 then
    .error (.invalidPublicKeyLength 36 bytes.length)
  else if byteAt bytes 0 ≠ signatureVersion ∨ byteAt bytes 1 ≠ hybridMarker then
    .error (.invalidKeyFormat "Invalid hybrid key header")
  else do
    let classical ← EcdsaPublicKey.fromBytes platform (slice bytes 2 33)
    if byteAt bytes 35 ≠ componentSeparator then
      .error HybridSignature.missingSeparator
    else do
      let quantum ← quantumFromBytes bytes
      .ok { classical, quantum }

def toBytes (key : HybridPublicKey) : List UInt8 :=
  [signatureVersion, hybridMarker] ++ (key.classical.bytes ++ ([componentSeparator] ++
    (key.quantum.bytes ++ [key.quantum.level.toByte])))

end HybridPublicKey

def batchVerify (platform : Platform) (messages : List (List UInt8))
    (signatures : List HybridSignature) (publicKeys : List HybridPublicKey)
    (config : VerifierConfig) : Except CryptoError Bool :=
  if messages.length ≠ signatures.length ∨ signatures.length ≠ publicKeys.length then
    .error (.invalidSignatureLength messages.length signatures.length)
  else
    .ok (((messages.zip signatures).zip publicKeys).all fun entry =>
      (entry.1.2.verify platform entry.1.1 entry.2 config).toBool)

end Core
