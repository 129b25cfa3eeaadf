import Aethelred.Vault.Attestation

/- The attestation relays of the vault keeper (`keeper.go`): registration, time-locked rotation of
the key, revocation and liveness challenges, and the vendor root keys they write. -/
namespace Vault

open Go Attempt

/-- A block time in seconds, within the years 1 to 9999 that a timestamp of a header can have. -/
structure BlockTime where
  unix : Int
  lower : -62135596800 ≤ unix
  upper : unix ≤ 253402300799

/-- 48 hours. -/
def RelayRotationDelaySec : Int := 48 * 60 * 60

def RelayChallengeWindowSec : Int := 60 * 60

/-- The coordinates of a P-256 key in hexadecimal. -/
structure RootKey where
  x : String
  y : String
  deriving DecidableEq

structure AttestationRelay where
  publicKeyX : String
  publicKeyY : String
  registeredAt : Int
  lastRotatedAt : Int
  attestationCount : UInt64 := 0
  active : Bool
  pendingKeyX : String := ""
  pendingKeyY : String := ""
  rotationUnlocksAt : Int := 0
  activeChallenge : String := ""
  challengeDeadline : Int := 0

namespace AttestationRelay

variable (relay : AttestationRelay)

def publicKey : RootKey := ⟨relay.publicKeyX, relay.publicKeyY⟩

def pendingKey : RootKey := ⟨relay.pendingKeyX, relay.pendingKeyY⟩

def withoutRotation : AttestationRelay :=
  { relay with
    pendingKeyX := ""
    pendingKeyY := ""
    rotationUnlocksAt := 0 }

def withoutChallenge : AttestationRelay :=
  { relay with
    activeChallenge := ""
    challengeDeadline := 0 }

end AttestationRelay

inductive RelayError
  | Unauthorized (caller authority : String)
  | RelayAlreadyRegistered
  | RelayNotRegistered
  | RelayNotActive
  | NoRotationPending
  | RotationTimelockActive
  | NoPendingChallenge
  | ChallengeAlreadyPending
  | ChallengeExpired
  | ChallengeResponseInvalid
  | DirectOverrideWhileRelayActive
  | other (text : String)
  deriving DecidableEq

structure RelayStore where
  authority : String
  attestationRelays : Map UInt8 AttestationRelay := ∅
  vendorRootKeys : Map UInt8 RootKey := ∅

namespace RelayStore

abbrev Call := Attempt RelayStore RelayError

/-- The cryptography, with the curve check of `crypto/elliptic`. -/
structure P256 extends Crypto where
  isOnCurve : (x y : Go.Bytes) → Bool

variable (p256 : P256) (caller : String)

def requireAuthority : Call Unit := do
  let store ← read
  ensure (caller = store.authority) (.Unauthorized caller store.authority)

variable (platform : UInt8)

/-- A relay that was registered at time 0 does not count as registered. -/
def getAttestationRelay : Call AttestationRelay := do
  let store ← read
  let relay ← okOr (store.attestationRelays.lookup platform) .RelayNotRegistered
  ensure (relay.registeredAt ≠ 0) .RelayNotRegistered
  return relay

def setAttestationRelay (relay : AttestationRelay) : Call Unit :=
  modify fun store => { store with
    attestationRelays := store.attestationRelays.insert platform relay }

/-- The platform has an active relay. -/
def IsRelayActive (store : RelayStore) (platform : UInt8) : Prop :=
  ∃ relay, store.attestationRelays.lookup platform = some relay ∧ relay.registeredAt ≠ 0 ∧
    relay.active = true

def relayActive (store : RelayStore) (platform : UInt8) : Bool :=
  (store.attestationRelays.lookup platform).any fun relay =>
    relay.registeredAt ≠ 0 && relay.active

/-- Coordinates of 32 bytes on the curve, or why not. -/
def checkKey (name xHex yHex : String) : Except RelayError Unit :=
  match decodeExactly 32 xHex with
  | none => .error (.other s!"invalid {name} X coordinate")
  | some xBytes =>
    match decodeExactly 32 yHex with
    | none => .error (.other s!"invalid {name} Y coordinate")
    | some yBytes =>
      if p256.isOnCurve xBytes yBytes then .ok ()
      else .error (.other s!"{name} is not on the P-256 curve")

variable (xHex yHex : String)

def setVendorRootKeyInternal : Call Unit := do
  ofExcept (checkKey p256 "vendor root key" xHex yHex)
  modify fun store => { store with
    vendorRootKeys := store.vendorRootKeys.insert platform ⟨xHex, yHex⟩ }

def registerVendorRootKey : Call Unit := do
  requireAuthority caller
  let store ← read
  ensure (store.relayActive platform = false) .DirectOverrideWhileRelayActive
  setVendorRootKeyInternal p256 platform xHex yHex

def registerAttestationRelay (blockTime : BlockTime) : Call Unit := do
  requireAuthority caller
  let store ← read
  ensure (store.relayActive platform = false) .RelayAlreadyRegistered
  ofExcept (checkKey p256 "relay public key" xHex yHex)
  setAttestationRelay platform
    { publicKeyX := xHex
      publicKeyY := yHex
      registeredAt := blockTime.unix
      lastRotatedAt := blockTime.unix
      active := true }
  setVendorRootKeyInternal p256 platform xHex yHex

def initiateRelayRotation (newXHex newYHex : String) (blockTime : BlockTime) : Call Unit := do
  requireAuthority caller
  let relay ← getAttestationRelay platform
  ensure (relay.active = true) .RelayNotActive
  ofExcept (checkKey p256 "new relay key" newXHex newYHex)
  setAttestationRelay platform { relay with
    pendingKeyX := newXHex
    pendingKeyY := newYHex
    rotationUnlocksAt := Int64.wrap (blockTime.unix + RelayRotationDelaySec) }

def finalizeRelayRotation (blockTime : BlockTime) :
    Call Unit := do
  requireAuthority caller
  let relay ← getAttestationRelay platform
  ensure (¬(relay.pendingKeyX = "" ∧ relay.pendingKeyY = "")) .NoRotationPending
  ensure (¬blockTime.unix < relay.rotationUnlocksAt) .RotationTimelockActive
  setAttestationRelay platform { relay.withoutRotation with
    publicKeyX := relay.pendingKeyX
    publicKeyY := relay.pendingKeyY
    lastRotatedAt := blockTime.unix }
  setVendorRootKeyInternal p256 platform relay.pendingKeyX relay.pendingKeyY

def cancelRelayRotation : Call Unit := do
  requireAuthority caller
  let relay ← getAttestationRelay platform
  ensure (¬(relay.pendingKeyX = "" ∧ relay.pendingKeyY = "")) .NoRotationPending
  setAttestationRelay platform relay.withoutRotation

/-- The key that stands for none. -/
def zeroKey : RootKey where
  x := "0000000000000000000000000000000000000000000000000000000000000000"
  y := "0000000000000000000000000000000000000000000000000000000000000000"

def revokeRelay : Call Unit := do
  requireAuthority caller
  let relay ← getAttestationRelay platform
  setAttestationRelay platform { relay.withoutRotation.withoutChallenge with active := false }
  modify fun store => { store with
    vendorRootKeys := store.vendorRootKeys.insert platform zeroKey }

def challengeRelay (challengeHex : String) (blockTime : BlockTime) : Call Unit := do
  requireAuthority caller
  let relay ← getAttestationRelay platform
  ensure (relay.active = true) .RelayNotActive
  ensure ((decodeExactly 32 challengeHex).isSome = true)
    (.other "invalid challenge nonce: must be 64 hex chars (32 bytes)")
  ensure (¬(relay.activeChallenge ≠ "" ∧ relay.challengeDeadline ≥ blockTime.unix))
    .ChallengeAlreadyPending
  setAttestationRelay platform { relay with
    activeChallenge := challengeHex
    challengeDeadline := Int64.wrap (blockTime.unix + RelayChallengeWindowSec) }

def checkResponse (relay : AttestationRelay) (sigRHex sigSHex : String) : Except RelayError Unit :=
  match Hex.decodeString relay.activeChallenge with
  | none => .error (.other "corrupt active challenge data")
  | some challengeBytes =>
    match decodeExactly 32 sigRHex with
    | none => .error (.other "invalid challenge response signature R")
    | some r =>
      match decodeExactly 32 sigSHex with
      | none => .error (.other "invalid challenge response signature S")
      | some s =>
        if p256.verifyP256 (Hex.decodePrefix relay.publicKeyX) (Hex.decodePrefix relay.publicKeyY)
            (p256.sha256 challengeBytes) r s then .ok ()
        else .error .ChallengeResponseInvalid

def respondRelayChallenge (sigRHex sigSHex : String) (blockTime : BlockTime) :
    Call Unit := do
  let relay ← getAttestationRelay platform
  ensure (relay.activeChallenge ≠ "") .NoPendingChallenge
  if blockTime.unix > relay.challengeDeadline then
    setAttestationRelay platform relay.withoutChallenge
    fail .ChallengeExpired
  else
    ofExcept (checkResponse p256 relay sigRHex sigSHex)
    setAttestationRelay platform relay.withoutChallenge

def countAttestation : Call Unit := do
  let store ← read
  match store.attestationRelays.lookup platform with
  | some relay =>
    if relay.active then
      setAttestationRelay platform { relay with attestationCount := relay.attestationCount + 1 }
    else pure ()
  | none => pure ()

end RelayStore

end Vault
