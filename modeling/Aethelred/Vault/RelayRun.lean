import Aethelred.Lib.Run
import Aethelred.Vault.RelayCalls

/- Runs of the calls on attestation relays: the root key of a platform is the key of its active
relay, and changes only to the key of a rotation that has waited out the time lock. -/
namespace Vault.RelayStore

open Go Attempt

variable (p256 : P256)

section Laws

def noKey : RootKey := ⟨"", ""⟩

/-- The root key is that of the active relay, and a pending key is a key of an active relay. -/
structure Sound (store : RelayStore) : Prop where
  synced : ∀ platform relay, store.registered platform = some relay → relay.active = true →
    store.vendorRootKeys.lookup platform = some relay.publicKey
  pending : ∀ platform relay, store.registered platform = some relay → relay.pendingKey ≠ noKey →
    relay.active = true ∧
      checkKey p256 "vendor root key" relay.pendingKeyX relay.pendingKeyY = .ok ()

/-- A rotation to the key is pending and unlocks at this time. -/
def Rotates (store : RelayStore) (platform : UInt8) (key : RootKey) (unlocks : Int) : Prop :=
  key ≠ noKey ∧ ∃ relay, store.registered platform = some relay ∧ relay.pendingKey = key ∧
    relay.rotationUnlocksAt = unlocks

variable {p256} {store after : RelayStore} {call : RelayCall} {platform other : UInt8}
  {relay found : AttestationRelay} {key : RootKey} {unlocks : Int}

theorem registered_putRelay_cases
    (present : (store.putRelay platform relay).registered other = some found) :
    other = platform ∧ found = relay ∧ relay.registeredAt ≠ 0 ∨
    other ≠ platform ∧ store.registered other = some found := by
  rw [registered_putRelay] at present
  split at present
  · rename_i same
    obtain ⟨there, since⟩ := Option.filter_eq_some_iff.mp present
    cases there
    exact .inl ⟨same, rfl, of_decide_eq_true since⟩
  · rename_i differ
    exact .inr ⟨differ, present⟩

theorem Sound.putRelay (sound : store.Sound p256) (platform : UInt8) (relay : AttestationRelay)
    (synced : relay.registeredAt ≠ 0 → relay.active = true →
      after.vendorRootKeys.lookup platform = some relay.publicKey)
    (pending : relay.registeredAt ≠ 0 → relay.pendingKey ≠ noKey → relay.active = true ∧
      checkKey p256 "vendor root key" relay.pendingKeyX relay.pendingKeyY = .ok ())
    (relays : ∀ other, after.registered other = (store.putRelay platform relay).registered other)
    (keys : ∀ other, other ≠ platform →
      after.vendorRootKeys.lookup other = store.vendorRootKeys.lookup other) :
    after.Sound p256 where
  synced other found present active := by
    rw [relays] at present
    obtain ⟨rfl, rfl, since⟩ | ⟨differ, present⟩ := registered_putRelay_cases present
    · exact synced since active
    · rw [keys other differ]
      exact sound.synced other found present active
  pending other found present := by
    rw [relays] at present
    obtain ⟨rfl, rfl, since⟩ | ⟨differ, present⟩ := registered_putRelay_cases present
    · exact pending since
    · exact sound.pending other found present

/-- Every call keeps keys and rotations in order. -/
theorem Sound.change (sound : store.Sound p256) (change : Change p256 store call after) :
    after.Sound p256 := by
  cases change with
  | same => exact sound
  | @direct caller platform xHex yHex free =>
    refine ⟨fun other found present active => ?_, sound.pending⟩
    rw [lookup_putKey]
    split
    · rename_i same
      subst same
      rw [relayActive_eq_false.mp free found present] at active
      cases active
    · exact sound.synced other found present active
  | @register caller platform xHex yHex blockTime free =>
    refine sound.putRelay platform (registration xHex yHex blockTime) (fun _ _ => ?_)
      (fun _ some => absurd rfl some) (fun _ => rfl) fun other differ => ?_
    · rw [lookup_putKey, if_pos rfl]
      rfl
    · rw [lookup_putKey, if_neg differ]
      rfl
  | @initiate caller platform newXHex newYHex blockTime relay found active fine succeeds =>
    exact sound.putRelay platform (initiated relay newXHex newYHex blockTime)
      (fun _ _ => sound.synced platform relay found active) (fun _ _ => ⟨active, fine⟩)
      (fun _ => rfl) fun _ _ => rfl
  | @finalize caller platform blockTime relay found pending unlocked fine =>
    refine sound.putRelay platform (rotated relay blockTime) (fun _ _ => ?_)
      (fun _ some => absurd rfl some) (fun _ => rfl) fun other differ => ?_
    · rw [lookup_putKey, if_pos rfl]
      rfl
    · rw [lookup_putKey, if_neg differ]
      rfl
  | @spoilt caller platform blockTime relay found pending wrong =>
    exact absurd (sound.pending platform relay found pending).2 wrong
  | @cancel caller platform relay found =>
    exact sound.putRelay platform relay.withoutRotation
      (fun _ => sound.synced platform relay found) (fun _ some => absurd rfl some) (fun _ => rfl)
      fun _ _ => rfl
  | @revoke caller platform relay found =>
    refine sound.putRelay platform
      { relay.withoutRotation.withoutChallenge with active := false }
      (fun _ active => nomatch active) (fun _ some => absurd rfl some) (fun _ => rfl)
      fun other differ => ?_
    rw [lookup_putKey, if_neg differ]
    rfl
  | @touch _ platform relay touched others present keys =>
    have there : touched.registeredAt ≠ 0 → store.registered platform = some relay := by
      intro since
      rw [keys.registeredAt] at since
      rw [registered, present]
      exact if_pos (decide_eq_true since)
    refine sound.putRelay platform touched (fun since active => ?_) (fun since some => ?_)
      (fun _ => rfl) fun _ _ => rfl
    · rw [keys.active] at active
      rw [keys.publicKey]
      exact sound.synced platform relay (there since) active
    · rw [keys.pendingKey] at some
      obtain ⟨xs, ys⟩ := RootKey.mk.inj keys.pendingKey
      rw [keys.active, xs, ys]
      exact sound.pending platform relay (there since) some

theorem wrap_rotation (blockTime : BlockTime) :
    Int64.wrap (blockTime.unix + RelayRotationDelaySec) = blockTime.unix + RelayRotationDelaySec := by
  have lower := blockTime.lower
  have upper := blockTime.upper
  refine Int64.wrap_of_fits ?_
  unfold Int64.Fits RelayRotationDelaySec
  omega

theorem Rotates.elsewhere (rotates : Rotates after other key unlocks)
    (relays : ∀ other, after.registered other = (store.putRelay platform relay).registered other)
    (cleared : relay.pendingKey = noKey) :
    Rotates store other key unlocks ∧ ∀ p : Prop, platform = other → p := by
  obtain ⟨some, found, present, pending, time⟩ := rotates
  rw [relays] at present
  obtain ⟨-, rfl, -⟩ | ⟨differ, present⟩ := registered_putRelay_cases present
  · exact absurd (pending.symm.trans cleared) some
  · exact ⟨⟨some, found, present, pending, time⟩, fun _ same => absurd same.symm differ⟩

/-- A pending rotation was pending before, or has just been initiated. -/
theorem Rotates.change (rotates : Rotates after other key unlocks)
    (change : Change p256 store call after) :
    Rotates store other key unlocks ∧ (Resets other call → ¬Succeeds p256 store call) ∨
    ∃ caller newXHex newYHex blockTime,
      call = .initiateRelayRotation caller other newXHex newYHex blockTime ∧
      Succeeds p256 store call ∧ key = ⟨newXHex, newYHex⟩ ∧
      unlocks = blockTime.unix + RelayRotationDelaySec := by
  cases change with
  | same failed => exact .inl ⟨rotates, failed other⟩
  | direct => exact .inl ⟨rotates, fun resets => resets.elim⟩
  | register => exact .inl ((rotates.elsewhere (fun _ => rfl) rfl).imp_right (· _))
  | @initiate caller platform newXHex newYHex blockTime relay found active fine succeeds =>
    obtain ⟨some, written, present, pending, time⟩ := rotates
    obtain ⟨rfl, rfl, -⟩ | ⟨differ, present⟩ := registered_putRelay_cases present
    · exact .inr ⟨caller, newXHex, newYHex, blockTime, rfl, succeeds, pending.symm,
        time.symm.trans (wrap_rotation blockTime)⟩
    · exact .inl ⟨⟨some, written, present, pending, time⟩, fun same => absurd same.symm differ⟩
  | finalize => exact .inl ((rotates.elsewhere (fun _ => rfl) rfl).imp_right (· _))
  | spoilt => exact .inl ((rotates.elsewhere (fun _ => rfl) rfl).imp_right (· _))
  | cancel => exact .inl ((rotates.elsewhere (fun _ => rfl) rfl).imp_right (· _))
  | revoke => exact .inl ((rotates.elsewhere (fun _ => rfl) rfl).imp_right (· _))
  | @touch _ platform relay touched others present keys =>
    refine .inl ⟨?_, fun resets => absurd resets (others other)⟩
    obtain ⟨some, written, there, pending, time⟩ := rotates
    obtain ⟨rfl, rfl, since⟩ | ⟨-, there⟩ := registered_putRelay_cases there
    · refine ⟨some, relay, ?_, keys.pendingKey.symm.trans pending, keys.unlocks.symm.trans time⟩
      rw [keys.registeredAt] at since
      rw [registered, present]
      exact if_pos (decide_eq_true since)
    · exact ⟨some, written, there, pending, time⟩

/-- An active relay's key changes by its own finalization only. -/
theorem key_of_change (change : Change p256 store call after) (active : store.IsRelayActive other)
    (stays : after.IsRelayActive other)
    (differ : after.vendorRootKeys.lookup other ≠ store.vendorRootKeys.lookup other) :
    ∃ caller blockTime key unlocks, call = .finalizeRelayRotation caller other blockTime ∧
      after.vendorRootKeys.lookup other = some key ∧ Rotates store other key unlocks ∧
      unlocks ≤ blockTime.unix := by
  obtain ⟨current, present, on⟩ := isRelayActive_iff.mp active
  have busy : ∀ {platform}, store.relayActive platform = false → platform ≠ other := by
    rintro _ free rfl
    rw [relayActive_eq_false.mp free current present] at on
    cases on
  cases change with
  | same => exact absurd rfl differ
  | direct free => rw [lookup_putKey, if_neg (busy free).symm] at differ; exact absurd rfl differ
  | register free => rw [lookup_putKey, if_neg (busy free).symm] at differ; exact absurd rfl differ
  | initiate => exact absurd rfl differ
  | @finalize caller platform blockTime relay found pending unlocked fine =>
    by_cases same : other = platform
    · subst same
      refine ⟨caller, blockTime, relay.pendingKey, relay.rotationUnlocksAt, rfl, ?_,
        ⟨pending, relay, found, rfl, rfl⟩, unlocked⟩
      rw [lookup_putKey, if_pos rfl]
    · rw [lookup_putKey, if_neg same] at differ
      exact absurd rfl differ
  | spoilt => exact absurd rfl differ
  | cancel => exact absurd rfl differ
  | @revoke caller platform relay found =>
    by_cases same : other = platform
    · subst same
      obtain ⟨revoked, there, still⟩ := isRelayActive_iff.mp stays
      obtain ⟨-, rfl, -⟩ | ⟨impossible, -⟩ := registered_putRelay_cases there
      · cases still
      · exact absurd rfl impossible
    · rw [lookup_putKey, if_neg same] at differ
      exact absurd rfl differ
  | touch => exact absurd rfl differ

end Laws

section Runs

variable (authority : String)

def run (calls : List RelayCall) : RelayStore := Run.exec (step p256) { authority } calls

/-- The most recent of the calls that touches the rotation of the platform initiated it, to this key
and at this time: every later call that would replace, cancel or use it up has failed. -/
def Outstanding (calls : List RelayCall) (platform : UInt8) (key : RootKey)
    (initiatedAt : BlockTime) : Prop :=
  ∃ before caller newXHex newYHex after,
    calls = before ++
      .initiateRelayRotation caller platform newXHex newYHex initiatedAt :: after ∧
    key = ⟨newXHex, newYHex⟩ ∧
    Succeeds p256 (run p256 authority before)
      (.initiateRelayRotation caller platform newXHex newYHex initiatedAt) ∧
    Run.Along (step p256) (fun store call => Resets platform call → ¬Succeeds p256 store call)
      (run p256 authority
        (before ++ [.initiateRelayRotation caller platform newXHex newYHex initiatedAt])) after

variable {p256 authority} {calls : List RelayCall}

theorem run_concat (calls : List RelayCall) (call : RelayCall) :
    run p256 authority (calls ++ [call]) = step p256 (run p256 authority calls) call :=
  Run.exec_concat _ _ _

theorem Outstanding.concat {platform : UInt8} {key : RootKey} {initiatedAt : BlockTime}
    {call : RelayCall} (outstanding : Outstanding p256 authority calls platform key initiatedAt)
    (kept : Resets platform call → ¬Succeeds p256 (run p256 authority calls) call) :
    Outstanding p256 authority (calls ++ [call]) platform key initiatedAt := by
  obtain ⟨before, caller, newXHex, newYHex, after, rfl, named, succeeds, undisturbed⟩ := outstanding
  refine ⟨before, caller, newXHex, newYHex, after ++ [call], by simp, named, succeeds, ?_⟩
  refine (Run.along_append _ _ _).mpr ⟨undisturbed, ?_, trivial⟩
  intro resets
  have there : Run.exec (step p256) (run p256 authority
      (before ++ [.initiateRelayRotation caller platform newXHex newYHex initiatedAt])) after =
      run p256 authority
        (before ++ .initiateRelayRotation caller platform newXHex newYHex initiatedAt :: after) := by
    rw [run, run, ← Run.exec_append, List.append_assoc]
    rfl
  rw [there]
  exact kept resets

variable (p256 authority) in
/-- Every run is sound, and its rotations were initiated. -/
theorem sound_run (calls : List RelayCall) :
    (run p256 authority calls).Sound p256 ∧
    ∀ platform key unlocks, Rotates (run p256 authority calls) platform key unlocks →
      ∃ initiatedAt, Outstanding p256 authority calls platform key initiatedAt ∧
        unlocks = initiatedAt.unix + RelayRotationDelaySec := by
  induction calls using List.reverseRecOn with
  | nil =>
    have none : ∀ platform relay,
        (run p256 authority []).registered platform ≠ some relay := nofun
    refine ⟨⟨fun platform relay found => absurd found (none platform relay),
      fun platform relay found => absurd found (none platform relay)⟩, ?_⟩
    rintro platform key unlocks ⟨-, relay, found, -⟩
    exact absurd found (none platform relay)
  | append_singleton calls call ih =>
    obtain ⟨sound, pending⟩ := ih
    have change := change_step p256 (run p256 authority calls) call
    rw [run_concat]
    refine ⟨sound.change change, fun platform key unlocks rotates => ?_⟩
    obtain ⟨earlier, kept⟩ | ⟨caller, newXHex, newYHex, blockTime, rfl, succeeds, named, time⟩ :=
      rotates.change change
    · obtain ⟨initiatedAt, outstanding, time⟩ := pending platform key unlocks earlier
      exact ⟨initiatedAt, outstanding.concat kept, time⟩
    · exact ⟨blockTime, ⟨calls, caller, newXHex, newYHex, [], rfl, named, succeeds, trivial⟩,
        time⟩

variable (p256 authority) in
/-- While a relay is active its key is the root key of the platform, and the root key changes only
in a finalisation, to the key of the outstanding initiation, after the time lock. -/
theorem relay_lifecycle (calls : List RelayCall) :
    (∀ platform relay, (run p256 authority calls).attestationRelays.lookup platform = some relay →
      (run p256 authority calls).IsRelayActive platform →
      (run p256 authority calls).vendorRootKeys.lookup platform = some relay.publicKey) ∧
    ∀ call platform, (run p256 authority calls).IsRelayActive platform →
      (run p256 authority (calls ++ [call])).IsRelayActive platform →
      (run p256 authority (calls ++ [call])).vendorRootKeys.lookup platform ≠
        (run p256 authority calls).vendorRootKeys.lookup platform →
      ∃ caller blockTime key initiatedAt, call = .finalizeRelayRotation caller platform blockTime ∧
        (run p256 authority (calls ++ [call])).vendorRootKeys.lookup platform = some key ∧
        Outstanding p256 authority calls platform key initiatedAt ∧
        initiatedAt.unix ≤ blockTime.unix - RelayRotationDelaySec := by
  obtain ⟨sound, pending⟩ := sound_run p256 authority calls
  constructor
  · intro platform relay present active
    obtain ⟨found, there, on⟩ := isRelayActive_iff.mp active
    obtain ⟨same, _⟩ := lookup_of_registered there
    cases present.symm.trans same
    exact sound.synced platform relay there on
  · intro call platform active stays differ
    rw [run_concat] at stays differ ⊢
    obtain ⟨caller, blockTime, key, unlocks, rfl, changed, rotates, unlocked⟩ :=
      key_of_change (change_step p256 (run p256 authority calls) call) active stays differ
    obtain ⟨initiatedAt, outstanding, time⟩ := pending platform key unlocks rotates
    exact ⟨caller, blockTime, key, initiatedAt, rfl, changed, outstanding, by omega⟩

/-- The base point of P-256. -/
def baseKey : RootKey where
  x := "6b17d1f2e12c4247f8bce6e563a440f277037d812deb33a0f4a13945d898c296"
  y := "4fe342e2fe1a7f9b8ee7eb4a7c0f9e162bce33576b315ececbb6406837bf51f5"

def rotatedKey : RootKey where
  x := "ce389b44538bcb5b96c250f4347d36af339bb8e44e01e9b772c01423c1d9a2ac"
  y := "d60b6a5175612981fc02c44f461fd6ccf18345dfc70ea03f7c7c18f7b0afcb50"

def sampleP256 : P256 where
  sha256 _ := []
  recoverCompact _ _ := none
  verifyP256 _ _ _ _ _ := false
  isOnCurve x y :=
    x = Hex.decodePrefix baseKey.x ∧ y = Hex.decodePrefix baseKey.y ∨
    x = Hex.decodePrefix rotatedKey.x ∧ y = Hex.decodePrefix rotatedKey.y

/-- A relay is registered, and the rotation of its key initiated 1000 seconds later. -/
def sampleRotation : List RelayCall :=
  [.registerAttestationRelay "gov" 0 baseKey.x baseKey.y ⟨1000000, by decide, by decide⟩,
    .initiateRelayRotation "gov" 0 rotatedKey.x rotatedKey.y ⟨1001000, by decide, by decide⟩]

def sampleFinalization : RelayCall :=
  .finalizeRelayRotation "gov" 0 ⟨1173800, by decide, by decide⟩

theorem relay_lifecycle_sample :
    (run sampleP256 "gov" sampleRotation).vendorRootKeys.lookup 0 = some baseKey ∧
    (run sampleP256 "gov" (sampleRotation ++ [sampleFinalization])).vendorRootKeys.lookup 0 =
      some rotatedKey ∧
    ∃ key initiatedAt, Outstanding sampleP256 "gov" sampleRotation 0 key initiatedAt := by
  have before : (run sampleP256 "gov" sampleRotation).vendorRootKeys.lookup 0 = some baseKey ∧
      (run sampleP256 "gov" sampleRotation).relayActive 0 = true := by decide +kernel
  have after : (run sampleP256 "gov" (sampleRotation ++ [sampleFinalization])).vendorRootKeys.lookup
      0 = some rotatedKey ∧
      (run sampleP256 "gov" (sampleRotation ++ [sampleFinalization])).relayActive 0 = true := by
    decide +kernel
  have differ : some rotatedKey ≠ some baseKey := by decide +kernel
  rw [← after.1, ← before.1] at differ
  obtain ⟨_, _, key, initiatedAt, _, _, outstanding, _⟩ :=
    (relay_lifecycle sampleP256 "gov" sampleRotation).2 sampleFinalization 0
      (isRelayActive_of_relayActive before.2) (isRelayActive_of_relayActive after.2) differ
  exact ⟨before.1, after.1, key, initiatedAt, outstanding⟩

end Runs

end Vault.RelayStore
