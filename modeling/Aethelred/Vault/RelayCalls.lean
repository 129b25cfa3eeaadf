import Aethelred.Vault.Relay

/- What each call on the attestation relays can do. -/
namespace Vault.RelayStore

open Go Attempt

variable (p256 : P256)

/-- The messages about vendor keys and relays. -/
inductive RelayCall
  | registerVendorRootKey (caller : String) (platform : UInt8) (xHex yHex : String)
  | registerAttestationRelay (caller : String) (platform : UInt8) (xHex yHex : String)
      (blockTime : BlockTime)
  | initiateRelayRotation (caller : String) (platform : UInt8) (newXHex newYHex : String)
      (blockTime : BlockTime)
  | finalizeRelayRotation (caller : String) (platform : UInt8) (blockTime : BlockTime)
  | cancelRelayRotation (caller : String) (platform : UInt8)
  | revokeRelay (caller : String) (platform : UInt8)
  | challengeRelay (caller : String) (platform : UInt8) (challengeHex : String)
      (blockTime : BlockTime)
  | respondRelayChallenge (platform : UInt8) (sigRHex sigSHex : String) (blockTime : BlockTime)
  | countAttestation (platform : UInt8)

def execute : RelayCall → Call Unit
  | .registerVendorRootKey caller platform xHex yHex =>
    registerVendorRootKey p256 caller platform xHex yHex
  | .registerAttestationRelay caller platform xHex yHex blockTime =>
    registerAttestationRelay p256 caller platform xHex yHex blockTime
  | .initiateRelayRotation caller platform newXHex newYHex blockTime =>
    initiateRelayRotation p256 caller platform newXHex newYHex blockTime
  | .finalizeRelayRotation caller platform blockTime =>
    finalizeRelayRotation p256 caller platform blockTime
  | .cancelRelayRotation caller platform => cancelRelayRotation caller platform
  | .revokeRelay caller platform => revokeRelay caller platform
  | .challengeRelay caller platform challengeHex blockTime =>
    challengeRelay caller platform challengeHex blockTime
  | .respondRelayChallenge platform sigRHex sigSHex blockTime =>
    respondRelayChallenge p256 platform sigRHex sigSHex blockTime
  | .countAttestation platform => countAttestation platform

def step (store : RelayStore) (call : RelayCall) : RelayStore := (execute p256 call store).2

/-- The call is accepted. -/
def Succeeds (store : RelayStore) (call : RelayCall) : Prop :=
  (execute p256 call store).1 = .ok ()

section Reads

variable (store : RelayStore) (platform : UInt8)

def registered : Option AttestationRelay :=
  (store.attestationRelays.lookup platform).filter fun relay => relay.registeredAt ≠ 0

def putRelay (relay : AttestationRelay) : RelayStore :=
  { store with attestationRelays := store.attestationRelays.insert platform relay }

def putKey (key : RootKey) : RelayStore :=
  { store with vendorRootKeys := store.vendorRootKeys.insert platform key }

variable {store : RelayStore} {platform other : UInt8} {relay : AttestationRelay} {key : RootKey}
  {β : Type}

theorem registered_putRelay :
    (store.putRelay platform relay).registered other =
      if other = platform then (some relay).filter fun relay => relay.registeredAt ≠ 0
      else store.registered other := by
  unfold registered putRelay
  dsimp only
  rw [Map.lookup_insert_eq]
  split <;> rfl

@[simp] theorem registered_putKey :
    (store.putKey platform key).registered other = store.registered other := rfl

theorem lookup_putKey :
    (store.putKey platform key).vendorRootKeys.lookup other =
      if other = platform then some key else store.vendorRootKeys.lookup other :=
  Map.lookup_insert_eq _ _ _ _

@[simp] theorem vendorRootKeys_putRelay :
    (store.putRelay platform relay).vendorRootKeys = store.vendorRootKeys := rfl

theorem lookup_of_registered (found : store.registered platform = some relay) :
    store.attestationRelays.lookup platform = some relay ∧ relay.registeredAt ≠ 0 := by
  obtain ⟨present, there⟩ := Option.filter_eq_some_iff.mp found
  exact ⟨present, of_decide_eq_true there⟩

theorem isRelayActive_iff :
    store.IsRelayActive platform ↔
      ∃ relay, store.registered platform = some relay ∧ relay.active = true := by
  constructor
  · rintro ⟨relay, present, there, active⟩
    refine ⟨relay, ?_, active⟩
    rw [registered, present]
    exact if_pos (decide_eq_true there)
  · rintro ⟨relay, found, active⟩
    obtain ⟨present, there⟩ := lookup_of_registered found
    exact ⟨relay, present, there, active⟩

theorem relayActive_eq_false :
    store.relayActive platform = false ↔
      ∀ relay, store.registered platform = some relay → relay.active = false := by
  unfold relayActive registered
  cases store.attestationRelays.lookup platform with
  | none => simp
  | some relay =>
    by_cases there : relay.registeredAt = 0 <;> simp [there]

theorem isRelayActive_of_relayActive (active : store.relayActive platform = true) :
    store.IsRelayActive platform := by
  by_contra inactive
  have none : store.relayActive platform = false := by
    refine relayActive_eq_false.mpr fun relay found => ?_
    exact Bool.eq_false_iff.mpr fun on => inactive (isRelayActive_iff.mpr ⟨relay, found, on⟩)
  rw [none] at active
  cases active

variable {rest : Unit → Call β}

theorem requireAuthority_bind {caller : String} :
    (requireAuthority caller >>= rest) store =
      if caller = store.authority then rest () store
      else (.error (.Unauthorized caller store.authority), store) := by
  rw [bind_apply, requireAuthority, read_bind, ensure]
  by_cases allowed : caller = store.authority
  · rw [if_pos allowed, if_pos allowed]
    rfl
  · rw [if_neg allowed, if_neg allowed]
    rfl

theorem getAttestationRelay_bind {rest : AttestationRelay → Call β} :
    (getAttestationRelay platform >>= rest) store =
      match store.registered platform with
      | some relay => rest relay store
      | none => (.error .RelayNotRegistered, store) := by
  rw [bind_apply, getAttestationRelay, read_bind, okOr_bind, registered]
  cases store.attestationRelays.lookup platform with
  | none => rfl
  | some relay =>
    dsimp only
    rw [ensure_bind, Option.filter_some]
    by_cases there : relay.registeredAt = 0
    · simp only [there, ne_eq, not_true_eq_false, decide_false, reduceCtorEq, ↓reduceIte]
    · simp only [there, ne_eq, not_false_eq_true, decide_true, ↓reduceIte]
      rfl

theorem ofExcept_bind {checked : Except RelayError Unit} :
    (ofExcept checked >>= rest) store =
      match checked with
      | .ok _ => rest () store
      | .error reason => (.error reason, store) := by
  cases checked <;> rfl

theorem setAttestationRelay_bind :
    (setAttestationRelay platform relay >>= rest) store =
      rest () (store.putRelay platform relay) := rfl

theorem checkKey_ok {name other xHex yHex : String} (fine : checkKey p256 name xHex yHex = .ok ()) :
    checkKey p256 other xHex yHex = .ok () := by
  unfold checkKey at fine ⊢
  split at fine
  · cases fine
  · split at fine
    · cases fine
    · split at fine
      · rename_i onCurve
        exact if_pos onCurve
      · cases fine

theorem setVendorRootKeyInternal_of_ok {xHex yHex : String}
    (fine : checkKey p256 "vendor root key" xHex yHex = .ok ()) :
    setVendorRootKeyInternal p256 platform xHex yHex store =
      (.ok (), store.putKey platform ⟨xHex, yHex⟩) := by
  rw [setVendorRootKeyInternal, ofExcept_bind, fine]
  rfl

end Reads

section Changes

/-- The calls that set, drop or use up a rotation of a platform. -/
def Resets (platform : UInt8) : RelayCall → Prop
  | .registerAttestationRelay _ other _ _ _ => other = platform
  | .initiateRelayRotation _ other _ _ _ => other = platform
  | .finalizeRelayRotation _ other _ => other = platform
  | .cancelRelayRotation _ other => other = platform
  | .revokeRelay _ other => other = platform
  | _ => False

/-- A relay that differs at most in its challenge and its count. -/
structure SameKeys (before after : AttestationRelay) : Prop where
  publicKey : after.publicKey = before.publicKey
  pendingKey : after.pendingKey = before.pendingKey
  unlocks : after.rotationUnlocksAt = before.rotationUnlocksAt
  registeredAt : after.registeredAt = before.registeredAt
  active : after.active = before.active

def registration (xHex yHex : String) (blockTime : BlockTime) : AttestationRelay where
  publicKeyX := xHex
  publicKeyY := yHex
  registeredAt := blockTime.unix
  lastRotatedAt := blockTime.unix
  active := true

def rotated (relay : AttestationRelay) (blockTime : BlockTime) : AttestationRelay :=
  { relay.withoutRotation with
    publicKeyX := relay.pendingKeyX
    publicKeyY := relay.pendingKeyY
    lastRotatedAt := blockTime.unix }

def initiated (relay : AttestationRelay) (newXHex newYHex : String) (blockTime : BlockTime) :
    AttestationRelay :=
  { relay with
    pendingKeyX := newXHex
    pendingKeyY := newYHex
    rotationUnlocksAt := Int64.wrap (blockTime.unix + RelayRotationDelaySec) }

inductive Change (store : RelayStore) : RelayCall → RelayStore → Prop
  | same {call : RelayCall} (failed : ∀ platform, Resets platform call → ¬Succeeds p256 store call) :
      Change store call store
  | direct {caller : String} {platform : UInt8} {xHex yHex : String}
      (free : store.relayActive platform = false) :
      Change store (.registerVendorRootKey caller platform xHex yHex)
        (store.putKey platform ⟨xHex, yHex⟩)
  | register {caller : String} {platform : UInt8} {xHex yHex : String} {blockTime : BlockTime}
      (free : store.relayActive platform = false) :
      Change store (.registerAttestationRelay caller platform xHex yHex blockTime)
        ((store.putRelay platform (registration xHex yHex blockTime)).putKey platform
          ⟨xHex, yHex⟩)
  | initiate {caller : String} {platform : UInt8} {newXHex newYHex : String}
      {blockTime : BlockTime} {relay : AttestationRelay}
      (found : store.registered platform = some relay) (active : relay.active = true)
      (fine : checkKey p256 "vendor root key" newXHex newYHex = .ok ())
      (succeeds : Succeeds p256 store
        (.initiateRelayRotation caller platform newXHex newYHex blockTime)) :
      Change store (.initiateRelayRotation caller platform newXHex newYHex blockTime)
        (store.putRelay platform (initiated relay newXHex newYHex blockTime))
  | finalize {caller : String} {platform : UInt8} {blockTime : BlockTime}
      {relay : AttestationRelay} (found : store.registered platform = some relay)
      (pending : relay.pendingKey ≠ ⟨"", ""⟩) (unlocked : relay.rotationUnlocksAt ≤ blockTime.unix)
      (fine : checkKey p256 "vendor root key" relay.pendingKeyX relay.pendingKeyY = .ok ()) :
      Change store (.finalizeRelayRotation caller platform blockTime)
        ((store.putRelay platform (rotated relay blockTime)).putKey platform relay.pendingKey)
  /-- The pending key is not one; the root key stays. -/
  | spoilt {caller : String} {platform : UInt8} {blockTime : BlockTime}
      {relay : AttestationRelay} (found : store.registered platform = some relay)
      (pending : relay.pendingKey ≠ ⟨"", ""⟩)
      (wrong : checkKey p256 "vendor root key" relay.pendingKeyX relay.pendingKeyY ≠ .ok ()) :
      Change store (.finalizeRelayRotation caller platform blockTime)
        (store.putRelay platform (rotated relay blockTime))
  | cancel {caller : String} {platform : UInt8} {relay : AttestationRelay}
      (found : store.registered platform = some relay) :
      Change store (.cancelRelayRotation caller platform)
        (store.putRelay platform relay.withoutRotation)
  | revoke {caller : String} {platform : UInt8} {relay : AttestationRelay}
      (found : store.registered platform = some relay) :
      Change store (.revokeRelay caller platform)
        ((store.putRelay platform
          { relay.withoutRotation.withoutChallenge with active := false }).putKey platform zeroKey)
  | touch {call : RelayCall} {platform : UInt8} {relay after : AttestationRelay}
      (other : ∀ platform, ¬Resets platform call)
      (present : store.attestationRelays.lookup platform = some relay)
      (keys : SameKeys relay after) :
      Change store call (store.putRelay platform after)

variable {p256} {store : RelayStore} {call : RelayCall}

/-- What a call leaves, where it ends so. -/
def Comes (p256 : P256) (store : RelayStore) (call : RelayCall)
    (outcome : Except RelayError Unit × RelayStore) : Prop :=
  execute p256 call store = outcome → Change p256 store call outcome.2

section Rules

variable {rest : Unit → Call Unit} {reason : RelayError}

theorem comes_error : Comes p256 store call (.error reason, store) := by
  intro failed
  refine .same fun _ _ succeeds => ?_
  rw [Succeeds, failed] at succeeds
  cases succeeds

theorem comes_of {outcome : Except RelayError Unit × RelayStore}
    (change : Change p256 store call outcome.2) : Comes p256 store call outcome :=
  fun _ => change

theorem comes_authority {caller : String}
    (next : caller = store.authority → Comes p256 store call (rest () store)) :
    Comes p256 store call ((requireAuthority caller >>= rest) store) := by
  rw [requireAuthority_bind]
  split
  · rename_i allowed
    exact next allowed
  · exact comes_error

theorem comes_ensure {condition : Prop} [Decidable condition]
    (next : condition → Comes p256 store call (rest () store)) :
    Comes p256 store call ((ensure condition reason >>= rest) store) := by
  rw [ensure_bind]
  split
  · rename_i holds
    exact next holds
  · exact comes_error

theorem comes_ofExcept {checked : Except RelayError Unit}
    (next : checked = .ok () → Comes p256 store call (rest () store)) :
    Comes p256 store call ((ofExcept checked >>= rest) store) := by
  cases checked with
  | error reason => exact comes_error
  | ok _ => exact next rfl

theorem comes_relay {platform : UInt8} {rest : AttestationRelay → Call Unit}
    (next : ∀ relay, store.registered platform = some relay →
      Comes p256 store call (rest relay store)) :
    Comes p256 store call ((getAttestationRelay platform >>= rest) store) := by
  rw [getAttestationRelay_bind]
  cases found : store.registered platform with
  | none => exact comes_error
  | some relay => exact next relay found

end Rules

variable {caller : String} {platform : UInt8} {xHex yHex : String} {blockTime : BlockTime}

theorem comes_registerVendorRootKey :
    Comes p256 store (.registerVendorRootKey caller platform xHex yHex)
      (registerVendorRootKey p256 caller platform xHex yHex store) := by
  refine comes_authority fun _ => comes_ensure fun free => comes_ofExcept fun _ => ?_
  exact comes_of (.direct free)

theorem comes_registerAttestationRelay :
    Comes p256 store (.registerAttestationRelay caller platform xHex yHex blockTime)
      (registerAttestationRelay p256 caller platform xHex yHex blockTime store) := by
  refine comes_authority fun _ => comes_ensure fun free => comes_ofExcept fun checked => ?_
  rw [setAttestationRelay_bind, setVendorRootKeyInternal_of_ok p256 (checkKey_ok p256 checked)]
  exact comes_of (.register free)

theorem comes_initiateRelayRotation :
    Comes p256 store (.initiateRelayRotation caller platform xHex yHex blockTime)
      (initiateRelayRotation p256 caller platform xHex yHex blockTime store) := by
  refine comes_authority fun _ => comes_relay fun relay found => comes_ensure fun active =>
    comes_ofExcept fun checked => ?_
  intro ran
  exact .initiate found active (checkKey_ok p256 checked) (congrArg Prod.fst ran)

theorem comes_finalizeRelayRotation :
    Comes p256 store (.finalizeRelayRotation caller platform blockTime)
      (finalizeRelayRotation p256 caller platform blockTime store) := by
  refine comes_authority fun _ => comes_relay fun relay found => comes_ensure fun some =>
    comes_ensure fun unlocked => ?_
  have pending : relay.pendingKey ≠ ⟨"", ""⟩ := by
    intro none
    exact some (RootKey.mk.inj none)
  rw [setAttestationRelay_bind]
  cases checked : checkKey p256 "vendor root key" relay.pendingKeyX relay.pendingKeyY with
  | error reason =>
    rw [setVendorRootKeyInternal, ofExcept_bind, checked]
    refine comes_of (.spoilt found pending ?_)
    rw [checked]
    exact nofun
  | ok _ =>
    rw [setVendorRootKeyInternal_of_ok p256 checked]
    exact comes_of (.finalize found pending (Int.not_lt.mp unlocked) checked)

theorem comes_cancelRelayRotation :
    Comes p256 store (.cancelRelayRotation caller platform)
      (cancelRelayRotation caller platform store) := by
  refine comes_authority fun _ => comes_relay fun relay found => comes_ensure fun _ => ?_
  exact comes_of (.cancel found)

theorem comes_revokeRelay :
    Comes p256 store (.revokeRelay caller platform) (revokeRelay caller platform store) := by
  refine comes_authority fun _ => comes_relay fun relay found => ?_
  exact comes_of (.revoke found)

theorem comes_challengeRelay {challengeHex : String} :
    Comes p256 store (.challengeRelay caller platform challengeHex blockTime)
      (challengeRelay caller platform challengeHex blockTime store) := by
  refine comes_authority fun _ => comes_relay fun relay found => comes_ensure fun _ =>
    comes_ensure fun _ => comes_ensure fun _ => ?_
  exact comes_of (.touch (fun _ resets => resets) (lookup_of_registered found).1
    ⟨rfl, rfl, rfl, rfl, rfl⟩)

theorem comes_respondRelayChallenge {sigRHex sigSHex : String} :
    Comes p256 store (.respondRelayChallenge platform sigRHex sigSHex blockTime)
      (respondRelayChallenge p256 platform sigRHex sigSHex blockTime store) := by
  refine comes_relay fun relay found => comes_ensure fun _ => ?_
  have cleared : Change p256 store (.respondRelayChallenge platform sigRHex sigSHex blockTime)
      (store.putRelay platform relay.withoutChallenge) :=
    .touch (fun _ resets => resets) (lookup_of_registered found).1 ⟨rfl, rfl, rfl, rfl, rfl⟩
  split
  · exact comes_of cleared
  · exact comes_ofExcept fun _ => comes_of cleared

theorem comes_countAttestation :
    Comes p256 store (.countAttestation platform) (countAttestation platform store) := by
  rw [countAttestation, read_bind]
  cases present : store.attestationRelays.lookup platform with
  | none => exact comes_of (.same fun _ resets => resets.elim)
  | some relay =>
    dsimp only
    split
    · exact comes_of (.touch (fun _ resets => resets) present ⟨rfl, rfl, rfl, rfl, rfl⟩)
    · exact comes_of (.same fun _ resets => resets.elim)

variable (p256) in
theorem change_step (store : RelayStore) (call : RelayCall) :
    Change p256 store call (step p256 store call) := by
  suffices Comes p256 store call (execute p256 call store) from this rfl
  cases call with
  | registerVendorRootKey => exact comes_registerVendorRootKey
  | registerAttestationRelay => exact comes_registerAttestationRelay
  | initiateRelayRotation => exact comes_initiateRelayRotation
  | finalizeRelayRotation => exact comes_finalizeRelayRotation
  | cancelRelayRotation => exact comes_cancelRelayRotation
  | revokeRelay => exact comes_revokeRelay
  | challengeRelay => exact comes_challengeRelay
  | respondRelayChallenge => exact comes_respondRelayChallenge
  | countAttestation => exact comes_countAttestation

end Changes

end Vault.RelayStore
