import Aethelred.Core.Hybrid

/- Transactions of `crates/core/src/types/transaction.rs`: their payloads, the bytes that are
hashed and signed, and the two ways of the crate to verify what was signed. -/
namespace Core

open Bytes

inductive AddressType where
  | user
  | contract
  | validator
  | system
  | oracle
deriving DecidableEq

def AddressType.toByte : AddressType → UInt8
  | .user => 0x00
  | .contract => 0x01
  | .validator => 0x02
  | .system => 0x03
  | .oracle => 0x04

structure Address where
  addressType : AddressType
  bytes : Fixed 20
deriving DecidableEq

def Address.serialize (address : Address) : List UInt8 :=
  [address.addressType.toByte] ++ List.ofFn address.bytes

/-- The first 20 bytes of the hash of the key. -/
def Address.fromPublicKey (platform : Platform) (publicKey : HybridPublicKey) : Address where
  addressType := .user
  bytes := fun i => platform.sha256 publicKey.toBytes (i.castLE (by decide))

abbrev Hash256 := Fixed 32

inductive TransactionType where
  | transfer
  | computeJob
  | digitalSeal
  | stake
  | unstake
  | propose
  | vote
  | oracleUpdate
  | deploy
  | call
deriving DecidableEq

def TransactionType.toByte : TransactionType → UInt8
  | .transfer => 0x01
  | .computeJob => 0x02
  | .digitalSeal => 0x03
  | .stake => 0x04
  | .unstake => 0x05
  | .propose => 0x06
  | .vote => 0x07
  | .oracleUpdate => 0x08
  | .deploy => 0x09
  | .call => 0x0A

/-- A length cast to `width` bytes. -/
def lengthBytes (width length : Nat) : List UInt8 :=
  littleEndian width (length % 256 ^ width)

/-- A length cast to `width` bytes and then the bytes. -/
def lengthPrefixed (width : Nat) (bytes : List UInt8) : List UInt8 :=
  lengthBytes width bytes.length ++ bytes

structure TransferTx where
  recipient : Address
  amount : BitVec 128
  memo : Option (List UInt8)

def TransferTx.toBytes (tx : TransferTx) : List UInt8 :=
  tx.recipient.serialize ++ (littleEndian 16 tx.amount.toNat ++
    Code.flagged (lengthPrefixed 2) tx.memo)

inductive VerificationMethod where
  | teeOnly
  | zkmlOnly
  | hybrid
  | mpc
deriving DecidableEq

def VerificationMethod.toByte : VerificationMethod → UInt8
  | .teeOnly => 0x01
  | .zkmlOnly => 0x02
  | .hybrid => 0x03
  | .mpc => 0x04

inductive HardwareTier where
  | standard
  | gpu
  | tee
  | fpga
  | teeGpu
deriving DecidableEq

def HardwareTier.toByte : HardwareTier → UInt8
  | .standard => 0x00
  | .gpu => 0x01
  | .tee => 0x02
  | .fpga => 0x03
  | .teeGpu => 0x04

structure ComputeSLA where
  maxLatencyMs : UInt64
  minAttestations : UInt32
  hardwareTier : HardwareTier
  geoRestrictions : List String

def ComputeSLA.toBytes (sla : ComputeSLA) : List UInt8 :=
  littleEndian 8 sla.maxLatencyMs.toNat ++
    (littleEndian 4 sla.minAttestations.toNat ++ ([sla.hardwareTier.toByte] ++
    (lengthBytes 1 sla.geoRestrictions.length ++ sla.geoRestrictions.flatMap ofText)))

def ComputeSLA.default : ComputeSLA where
  maxLatencyMs := 30000
  minAttestations := 2
  hardwareTier := .standard
  geoRestrictions := []

inductive ComplianceFramework where
  | gdpr
  | hipaa
  | pciDss
  | sox
  | ccpa
deriving DecidableEq

def ComplianceFramework.toByte : ComplianceFramework → UInt8
  | .gdpr => 0x01
  | .hipaa => 0x02
  | .pciDss => 0x03
  | .sox => 0x04
  | .ccpa => 0x05

structure ComplianceRequirements where
  frameworks : List ComplianceFramework
  dataResidency : Option String
  auditRequired : Bool

def ComplianceRequirements.toBytes (compliance : ComplianceRequirements) : List UInt8 :=
  lengthBytes 1 compliance.frameworks.length ++
    (compliance.frameworks.flatMap (fun framework => [framework.toByte]) ++
    (Code.flagged (fun residency => lengthPrefixed 1 (ofText residency))
      compliance.dataResidency ++ [compliance.auditRequired.toUInt8]))

def ComplianceRequirements.default : ComplianceRequirements where
  frameworks := []
  dataResidency := none
  auditRequired := false

structure ComputeJobTx where
  modelHash : Hash256
  inputHash : Hash256
  encryptedInputRef : Option (List UInt8)
  verificationMethod : VerificationMethod
  maxFee : BitVec 128
  sla : ComputeSLA
  compliance : ComplianceRequirements

def ComputeJobTx.toBytes (tx : ComputeJobTx) : List UInt8 :=
  List.ofFn tx.modelHash ++ (List.ofFn tx.inputHash ++ ([tx.verificationMethod.toByte] ++
    (littleEndian 16 tx.maxFee.toNat ++ (tx.sla.toBytes ++ (tx.compliance.toBytes ++
    Code.flagged (lengthPrefixed 4) tx.encryptedInputRef)))))

structure ValidatorAttestation where
  validator : Address
  teeAttestation : List UInt8
  signature : HybridSignature
  timestamp : UInt64

/-- `none` where the signature's `to_bytes` panics. -/
def ValidatorAttestation.toBytes (attestation : ValidatorAttestation) : Option (List UInt8) := do
  let signature ← attestation.signature.toBytes
  some (attestation.validator.serialize ++ (lengthPrefixed 4 attestation.teeAttestation ++
    (signature ++ littleEndian 8 attestation.timestamp.toNat)))

structure SealTx where
  jobId : Hash256
  outputHash : Hash256
  attestations : List ValidatorAttestation
  zkmlProof : Option (List UInt8)

def SealTx.toBytes (tx : SealTx) : Option (List UInt8) := do
  let attestations ← Code.concatM ValidatorAttestation.toBytes tx.attestations
  some (List.ofFn tx.jobId ++ (List.ofFn tx.outputHash ++
    (lengthBytes 1 tx.attestations.length ++ (attestations ++
    Code.flagged (lengthPrefixed 4) tx.zkmlProof))))

inductive TransactionPayload where
  | transfer (tx : TransferTx)
  | computeJob (tx : ComputeJobTx)
  | digitalSeal (tx : SealTx)
  | raw (data : List UInt8)

def TransactionPayload.toBytes : TransactionPayload → Option (List UInt8)
  | .transfer tx => some tx.toBytes
  | .computeJob tx => some tx.toBytes
  | .digitalSeal tx => tx.toBytes
  | .raw data => some data

structure Transaction where
  version : UInt8
  txType : TransactionType
  sender : Address
  nonce : UInt64
  gasPrice : UInt64
  gasLimit : UInt64
  chainId : UInt64
  expiry : UInt64
  payload : TransactionPayload

namespace Transaction

variable (tx : Transaction)

def payloadBytes : Option (List UInt8) := tx.payload.toBytes

def headerBytes : List UInt8 :=
  [tx.version] ++ ([tx.txType.toByte] ++ (tx.sender.serialize ++
    (littleEndian 8 tx.nonce.toNat ++ (littleEndian 8 tx.gasPrice.toNat ++
    (littleEndian 8 tx.gasLimit.toNat ++ (littleEndian 8 tx.chainId.toNat ++
    littleEndian 8 tx.expiry.toNat))))))

def toSigningBytes : Option (List UInt8) := do
  let payload ← tx.payloadBytes
  some (tx.headerBytes ++ payload)

end Transaction

variable (platform : Platform)

/-- The hash of transaction bytes behind the domain separator. -/
def transactionHash (bytes : List UInt8) : Hash256 :=
  platform.sha256 (ofText "aethelred:transaction:v1:" ++ bytes)

def Transaction.hash (tx : Transaction) : Option Hash256 := do
  let bytes ← tx.toSigningBytes
  some (transactionHash platform bytes)

inductive TransactionError where
  | cryptoError (text : String)
deriving DecidableEq

abbrev QuantumThreatLevel := UInt8

def quantumOnly (level : QuantumThreatLevel) : Bool := 5 ≤ level

def verifierConfigFor (threatLevel : QuantumThreatLevel) (chainId : UInt64) : VerifierConfig :=
  let config := { VerifierConfig.default with chainId }
  if quantumOnly threatLevel then config.enterPanicMode else config

/-- A transaction with its hybrid signature and key. -/
structure SignedTransaction where
  tx : Transaction
  signature : HybridSignature
  publicKey : HybridPublicKey

namespace SignedTransaction

variable (platform : Platform)

/-- `none` where the hash of the transaction panics. -/
def verifySignature (signed : SignedTransaction) (threatLevel : QuantumThreatLevel) :
    Option (Except TransactionError Bool) :=
  if Address.fromPublicKey platform signed.publicKey ≠ signed.tx.sender then
    some (.ok false)
  else do
    let hash ← signed.tx.hash platform
    let config := verifierConfigFor threatLevel signed.tx.chainId
    some (.ok (signed.signature.verify platform (List.ofFn hash) signed.publicKey config).toBool)

def toBytes (signed : SignedTransaction) : Option (List UInt8) := do
  let txBytes ← signed.tx.toSigningBytes
  let sigBytes ← signed.signature.toBytes
  some (lengthPrefixed 4 txBytes ++ (lengthPrefixed 4 sigBytes ++
    lengthPrefixed 4 signed.publicKey.toBytes))

end SignedTransaction

/-- `TransactionBatch::verify_all`, on the transactions of the batch in order. -/
def verifyAll (transactions : List SignedTransaction)
    (threatLevel : QuantumThreatLevel) : Option (Except TransactionError Bool) := do
  let hashes ← transactions.mapM fun signed => signed.tx.hash platform
  let chainId := (transactions.head?.map (·.tx.chainId)).getD 1
  let config := verifierConfigFor threatLevel chainId
  some ((batchVerify platform (hashes.map List.ofFn) (transactions.map (·.signature))
    (transactions.map (·.publicKey)) config).mapError fun error => .cryptoError error.toString)

end Core
