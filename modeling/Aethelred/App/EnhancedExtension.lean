import Aethelred.App.ExtensionHash
import Aethelred.Go.Reader

/- The vote extension together with the signature of the application, as it is sent. -/
namespace Aethelred.App

open Go Reader Except Bytes List

structure VoteExtensionSignature where
  signature : Bytes
  publicKey : Bytes
  keyID : Bytes
  version : UInt8
  timestamp : Instant
deriving DecidableEq

structure EnhancedVoteExtension where
  voteExtension : VoteExtension
  appSignature : Option VoteExtensionSignature
  height : I64
  round : Int32
deriving DecidableEq

/-- A field behind its length in 16 bits. -/
def fieldBytes (b : Bytes) : Bytes := bigEndian 2 (b.length % 2 ^ 16) ++ b

def marshalSignature : Option VoteExtensionSignature → Bytes
  | none => [0]
  | some sig => [sig.version] ++ fieldBytes sig.signature ++ fieldBytes sig.publicKey ++
      fieldBytes sig.keyID ++ int64Bytes (unixNano sig.timestamp)

def unmarshalSignature (data : Bytes) : Except ReadError (Option VoteExtensionSignature) :=
  if data.length = 0 ∨ data = [0] then .ok none
  else do
    let (version, reader) ← readByte data
    let (signature, reader) ← readField reader
    let (publicKey, reader) ← readField reader
    let (keyID, reader) ← readField reader
    let (tsNano, _) ← readUint 8 reader
    return some { signature, publicKey, keyID, version, timestamp := ⟨Int64.wrap tsNano⟩ }

/-- The encoding of the extension itself, and the hash it carries. -/
structure BaseCodec where
  sha256 : Bytes → Bytes
  marshal : VoteExtension → Except String Bytes
  unmarshal : Bytes → Except String VoteExtension

/-- What is encoded is decoded to itself, and never from nothing. -/
structure BaseCodec.Lawful (codec : BaseCodec) : Prop where
  inverse : ∀ ve bytes, codec.marshal ve = .ok bytes → codec.unmarshal bytes = .ok ve
  nonempty : ∀ ve bytes, codec.marshal ve = .ok bytes → bytes ≠ []

inductive EnhancedError where
  | marshalBase (reason : String)
  | componentTooLarge (baseLen sigLen : Nat)
  | exceedsUint32
  | sizeOverflow
  | dataTooShort
  | baseTooLarge (size : Nat)
  | dataTooShortForBase
  | signatureTooLarge (size : Nat)
  | dataTooShortForSignature
  | emptyBase
  | unmarshalBase (reason : String)
  | unmarshalSignature (reason : ReadError)
deriving DecidableEq

def maxVoteExtensionSize : Nat := 16 * 1024 * 1024

def checkedEnhancedVoteExtensionSize (baseLen sigLen : Nat) : Except EnhancedError Nat :=
  if baseLen > maxVoteExtensionSize ∨ sigLen > maxVoteExtensionSize then
    .error (.componentTooLarge baseLen sigLen)
  else if baseLen > 2 ^ 32 - 1 ∨ sigLen > 2 ^ 32 - 1 then .error .exceedsUint32
  else if baseLen > 2 ^ 63 - 1 - 8 ∨ sigLen > 2 ^ 63 - 1 - 8 - baseLen then .error .sizeOverflow
  else .ok (8 + baseLen + sigLen)

/-- Two sections, each behind its length in 32 bits. -/
def frame (baseBytes sigBytes : Bytes) : Bytes :=
  bigEndian 4 (baseBytes.length % 2 ^ 32) ++ baseBytes ++
    bigEndian 4 (sigBytes.length % 2 ^ 32) ++ sigBytes

variable (codec : BaseCodec)

def VoteExtension.marshal (ve : VoteExtension) : Except String Bytes :=
  codec.marshal { ve with extensionHash := ve.computeHash codec.sha256 }

def unmarshalVoteExtension (data : Bytes) : Except EnhancedError VoteExtension :=
  if data.length = 0 then .error .emptyBase
  else (codec.unmarshal data).mapError .unmarshalBase

def EnhancedVoteExtension.marshalWithSignature (e : EnhancedVoteExtension) :
    Except EnhancedError Bytes := do
  let baseBytes ← (e.voteExtension.marshal codec).mapError .marshalBase
  let sigBytes := marshalSignature e.appSignature
  let _ ← checkedEnhancedVoteExtensionSize baseBytes.length sigBytes.length
  return frame baseBytes sigBytes

/-- The length that the first four bytes give. -/
def baseLen (data : Bytes) : Nat := ofBigEndian (slice data 0 4)

def baseSection (data : Bytes) : Bytes := slice data 4 (baseLen data)

/-- The length that the four bytes behind the base give. -/
def sigLen (data : Bytes) : Nat := ofBigEndian (slice data (4 + baseLen data) 4)

def sigSection (data : Bytes) : Bytes := slice data (8 + baseLen data) (sigLen data)

def unmarshalEnhancedVoteExtension (data : Bytes) : Except EnhancedError EnhancedVoteExtension :=
  if data.length < 8 then .error .dataTooShort
  else if baseLen data > maxVoteExtensionSize then .error (.baseTooLarge (baseLen data))
  else if data.length < 4 + baseLen data + 4 then .error .dataTooShortForBase
  else if sigLen data > maxVoteExtensionSize then .error (.signatureTooLarge (sigLen data))
  else if data.length < 4 + baseLen data + 4 + sigLen data then .error .dataTooShortForSignature
  else do
    let baseExt ← unmarshalVoteExtension codec (baseSection data)
    let sig ← (unmarshalSignature (sigSection data)).mapError .unmarshalSignature
    return { voteExtension := baseExt, appSignature := sig, height := ⟨0, .zero⟩, round := 0 }

/-- A signature whose fields are not cut when they are written. -/
structure VoteExtensionSignature.Representable (sig : VoteExtensionSignature) : Prop where
  signature : sig.signature.length < 2 ^ 16
  publicKey : sig.publicKey.length < 2 ^ 16
  keyID : sig.keyID.length < 2 ^ 16
  time : Int64.Fits sig.timestamp.unixNano

section Signature

variable {sig : VoteExtensionSignature} {data trailing : Bytes}

theorem int64Bytes_wrap {number : Nat} (small : number < 256 ^ 8) :
    int64Bytes (Int64.wrap number) = bigEndian 8 number := by
  have value : (Int64.wrap number % 2 ^ 64).toNat = number := by
    unfold Int64.wrap
    omega
  rw [int64Bytes, value]

theorem length_int64Bytes (v : Int) : (int64Bytes v).length = 8 := length_bigEndian 8 _

theorem length_marshalSignature_some :
    (marshalSignature (some sig)).length =
      15 + sig.signature.length + sig.publicKey.length + sig.keyID.length := by
  simp only [marshalSignature, fieldBytes, length_append, length_bigEndian,
    length_int64Bytes, length_cons, length_nil]
  omega

theorem unmarshalSignature_eq_none :
    unmarshalSignature data = .ok none ↔ data = [] ∨ data = [0] := by
  unfold unmarshalSignature
  rw [← length_eq_zero_iff]
  by_cases absent : data.length = 0 ∨ data = [0]
  · simp only [absent, ↓reduceIte]
  · rw [if_neg absent]
    simp only [absent, iff_false, bind_eq_ok, pure_eq_ok]
    rintro ⟨_, _, _, _, _, _, _, _, _, _, signed⟩
    cases signed

theorem marshalSignature_append :
    marshalSignature (some sig) ++ trailing = sig.version :: (fieldBytes sig.signature ++
      (fieldBytes sig.publicKey ++ (fieldBytes sig.keyID ++
        (int64Bytes (unixNano sig.timestamp) ++ trailing)))) := by
  simp only [marshalSignature, append_assoc, cons_append, nil_append]

theorem written_ne_nil (v : Int) (trailing : Bytes) : int64Bytes v ++ trailing ≠ [] := by
  intro none
  have empty := congrArg length none
  rw [length_append, length_int64Bytes, length_nil] at empty
  omega

/-- A signature is read exactly where its bytes stand in front, whatever follows them. A field
that is cut short leaves nothing for the time behind it. -/
theorem unmarshalSignature_eq_some :
    unmarshalSignature data = .ok (some sig) ↔
      sig.Representable ∧ ∃ trailing, data = marshalSignature (some sig) ++ trailing := by
  unfold unmarshalSignature
  constructor
  · intro read
    by_cases absent : data.length = 0 ∨ data = [0]
    · rw [if_pos absent] at read
      cases read
    · rw [if_neg absent] at read
      simp only [bind_eq_ok, pure_eq_ok, Prod.exists, Option.some.injEq] at read
      obtain ⟨version, afterVersion, versionRead, signature, afterSignature, signatureRead,
        publicKey, afterKey, keyRead, keyID, afterID, idRead, tsNano, trailing, timeRead, rfl⟩ := read
      obtain rfl := readByte_eq_ok.mp versionRead
      obtain ⟨small, rfl⟩ := (readUint_eq_ok (by decide)).mp timeRead
      have time : bigEndian 8 tsNano ++ trailing ≠ [] := by
        rw [← int64Bytes_wrap small]
        exact written_ne_nil _ trailing
      obtain ⟨idFits, rfl⟩ := (readField_eq_ok time).mp idRead
      obtain ⟨keyFits, rfl⟩ := (readField_eq_ok (append_ne_nil_of_right_ne_nil _ time)).mp keyRead
      obtain ⟨signatureFits, rfl⟩ :=
        (readField_eq_ok (append_ne_nil_of_right_ne_nil _
          (append_ne_nil_of_right_ne_nil _ time))).mp signatureRead
      refine ⟨⟨signatureFits, keyFits, idFits, Int64.wrap_fits _⟩, trailing, ?_⟩
      rw [marshalSignature_append, unixNano, Int64.wrap_of_fits (Int64.wrap_fits _),
        int64Bytes_wrap small]
      rfl
  · rintro ⟨fits, trailing, rfl⟩
    have long : 15 ≤ (marshalSignature (some sig) ++ trailing).length := by
      rw [length_append, length_marshalSignature_some]
      omega
    have present : ¬((marshalSignature (some sig) ++ trailing).length = 0 ∨
        marshalSignature (some sig) ++ trailing = [0]) := by
      rintro (none | zero)
      · omega
      · rw [zero, length_singleton] at long
        omega
    have time := written_ne_nil (unixNano sig.timestamp) trailing
    have value : readUint 8 (int64Bytes (unixNano sig.timestamp) ++ trailing) =
        .ok ((unixNano sig.timestamp % 2 ^ 64).toNat, trailing) :=
      (readUint_eq_ok (by decide)).mpr ⟨by omega, rfl⟩
    have stamp : Int64.wrap (unixNano sig.timestamp % 2 ^ 64).toNat = sig.timestamp.unixNano := by
      have range := fits.time
      rw [unixNano, Int64.wrap_of_fits range]
      unfold Int64.Fits at range
      unfold Int64.wrap
      omega
    rw [if_neg present, marshalSignature_append]
    simp only [bind_eq_ok, pure_eq_ok, Prod.exists]
    have idLeft := append_ne_nil_of_right_ne_nil (fieldBytes sig.keyID) time
    have keyLeft := append_ne_nil_of_right_ne_nil (fieldBytes sig.publicKey) idLeft
    refine ⟨sig.version, _, rfl, sig.signature, _,
      (readField_eq_ok keyLeft).mpr ⟨fits.signature, rfl⟩, sig.publicKey, _,
      (readField_eq_ok idLeft).mpr ⟨fits.publicKey, rfl⟩, sig.keyID, _,
      (readField_eq_ok time).mpr ⟨fits.keyID, rfl⟩, _, _, value, ?_⟩
    rw [stamp]

def declaredSize (part : Bytes) : Nat :=
  let signature := ofBigEndian (slice part 1 2)
  let publicKey := ofBigEndian (slice part (3 + signature) 2)
  let keyID := ofBigEndian (slice part (5 + signature + publicKey) 2)
  15 + signature + publicKey + keyID

theorem slice_fieldBytes {front field behind : Bytes} {start : Nat} (starts : front.length = start)
    (small : field.length < 2 ^ 16) :
    ofBigEndian (slice (front ++ (fieldBytes field ++ behind)) start 2) =
      field.length := by
  rw [fieldBytes, append_assoc,
    slice_append starts (length_bigEndian 2 _), Nat.mod_eq_of_lt small,
    ofBigEndian_bigEndian small]

theorem declaredSize_marshalSignature (fits : sig.Representable) :
    declaredSize (marshalSignature (some sig) ++ trailing) =
      (marshalSignature (some sig)).length := by
  have lengths (field : Bytes) : (fieldBytes field).length = 2 + field.length := by
    rw [fieldBytes, length_append, length_bigEndian]
  have first : ofBigEndian (slice (marshalSignature (some sig) ++ trailing) 1 2) =
      sig.signature.length := by
    rw [marshalSignature_append, ← singleton_append]
    exact slice_fieldBytes rfl fits.signature
  have second : ofBigEndian (slice (marshalSignature (some sig) ++ trailing)
      (3 + sig.signature.length) 2) = sig.publicKey.length := by
    rw [marshalSignature_append, ← cons_append]
    apply slice_fieldBytes _ fits.publicKey
    rw [length_cons, lengths]
    omega
  have third : ofBigEndian (slice (marshalSignature (some sig) ++ trailing)
      (5 + sig.signature.length + sig.publicKey.length) 2) = sig.keyID.length := by
    rw [marshalSignature_append, ← append_assoc (fieldBytes sig.signature),
      ← cons_append]
    apply slice_fieldBytes _ fits.keyID
    rw [length_cons, length_append, lengths, lengths]
    omega
  rw [declaredSize, first, second, third, length_marshalSignature_some]

end Signature

section Frame

variable {baseBytes sigBytes data : Bytes}

theorem length_frame : (frame baseBytes sigBytes).length =
    8 + baseBytes.length + sigBytes.length := by
  simp only [frame, length_append, length_bigEndian]
  omega

/-- The parts of a frame are read back. -/
theorem sections_frame (baseSmall : baseBytes.length < 2 ^ 32) (sigSmall : sigBytes.length < 2 ^ 32) :
    baseLen (frame baseBytes sigBytes) = baseBytes.length ∧
      baseSection (frame baseBytes sigBytes) = baseBytes ∧
      sigLen (frame baseBytes sigBytes) = sigBytes.length ∧
      sigSection (frame baseBytes sigBytes) = sigBytes := by
  have first : baseLen (frame baseBytes sigBytes) = baseBytes.length := by
    rw [baseLen, frame, append_assoc, append_assoc, slice, drop_zero,
      take_left' (length_bigEndian 4 _), Nat.mod_eq_of_lt baseSmall,
      ofBigEndian_bigEndian baseSmall]
  have second : sigLen (frame baseBytes sigBytes) = sigBytes.length := by
    have starts : (bigEndian 4 (baseBytes.length % 2 ^ 32) ++ baseBytes).length =
        4 + baseBytes.length := by
      rw [length_append, length_bigEndian]
    rw [sigLen, first, frame, append_assoc,
      slice_append starts (length_bigEndian 4 _), Nat.mod_eq_of_lt sigSmall,
      ofBigEndian_bigEndian sigSmall]
  refine ⟨first, ?_, second, ?_⟩
  · rw [baseSection, first, frame, append_assoc, append_assoc,
      slice_append (length_bigEndian 4 _) rfl]
  · have starts : (bigEndian 4 (baseBytes.length % 2 ^ 32) ++ baseBytes ++
        bigEndian 4 (sigBytes.length % 2 ^ 32)).length = 8 + baseBytes.length := by
      rw [length_append, length_append, length_bigEndian, length_bigEndian]
      omega
    rw [sigSection, first, second, frame, slice, drop_left' starts, take_length]

theorem frame_sections (whole : data.length = 8 + baseLen data + sigLen data) :
    frame (baseSection data) (sigSection data) = data := by
  have baseLength : (baseSection data).length = baseLen data := length_slice (by omega)
  have sigLength : (sigSection data).length = sigLen data := length_slice (by omega)
  have baseSmall : baseLen data < 2 ^ 32 := by
    have small := ofBigEndian_lt (slice data 0 4)
    rwa [length_slice (by omega)] at small
  have sigSmall : sigLen data < 2 ^ 32 := by
    have small := ofBigEndian_lt (slice data (4 + baseLen data) 4)
    rwa [length_slice (by omega)] at small
  have first : bigEndian 4 (baseLen data) = slice data 0 4 :=
    bigEndian_ofBigEndian_slice (by omega)
  have second : bigEndian 4 (sigLen data) = slice data (0 + (4 + baseLen data)) 4 := by
    rw [Nat.zero_add]
    exact bigEndian_ofBigEndian_slice (by omega)
  have third : sigSection data = slice data (0 + (4 + baseLen data + 4)) (sigLen data) := by
    rw [sigSection]
    congr 1
    omega
  rw [frame, baseLength, sigLength, Nat.mod_eq_of_lt baseSmall, Nat.mod_eq_of_lt sigSmall, first,
    second, third, baseSection, slice_append_slice data 0 4, slice_append_slice,
    slice_append_slice, slice, drop_zero, take_of_length_le (by omega)]

end Frame

variable {e : EnhancedVoteExtension}

theorem unmarshalEnhancedVoteExtension_eq_ok {data : Bytes} :
    unmarshalEnhancedVoteExtension codec data = .ok e ↔
      8 + baseLen data + sigLen data ≤ data.length ∧ baseLen data ≤ maxVoteExtensionSize ∧
        sigLen data ≤ maxVoteExtensionSize ∧
        unmarshalVoteExtension codec (baseSection data) = .ok e.voteExtension ∧
        unmarshalSignature (sigSection data) = .ok e.appSignature ∧ e.height.val = 0 ∧
        e.round = 0 := by
  unfold unmarshalEnhancedVoteExtension
  simp only [ite_error_eq_ok, bind_eq_ok, mapError_eq_ok_iff, pure_eq_ok]
  constructor
  · rintro ⟨_, baseFits, _, sigFits, long, ve, base, sig, signature, rfl⟩
    exact ⟨by omega, by omega, by omega, base, signature, rfl, rfl⟩
  · rintro ⟨long, baseFits, sigFits, base, signature, height, round⟩
    refine ⟨by omega, by omega, by omega, by omega, by omega, e.voteExtension, base,
      e.appSignature, signature, ?_⟩
    cases e
    exact EnhancedVoteExtension.mk.injEq .. ▸ ⟨rfl, rfl, I64.ext height.symm, round.symm⟩

/-- The data ends where its lengths say, and so does the signature in it. -/
def WellFramed (data : Bytes) : Prop :=
  data.length = 8 + baseLen data + sigLen data ∧
    (sigSection data = [0] ∨ (sigSection data).length = declaredSize (sigSection data))

instance (data : Bytes) : Decidable (WellFramed data) := inferInstanceAs (Decidable (_ ∧ _))

/-- What is written within the size limit is read back as it was. -/
theorem unmarshal_marshalWithSignature (lawful : codec.Lawful)
    {baseBytes : Bytes} (marshalled : e.voteExtension.marshal codec = .ok baseBytes)
    (within : baseBytes.length ≤ maxVoteExtensionSize)
    (representable : ∀ sig ∈ e.appSignature, sig.Representable) :
    ∃ data received, e.marshalWithSignature codec = .ok data ∧
      unmarshalEnhancedVoteExtension codec data = .ok received ∧
      received.voteExtension.marshal codec = .ok baseBytes ∧
      received.appSignature = e.appSignature ∧ received.height.val = 0 ∧ received.round = 0 := by
  have sigWithin : (marshalSignature e.appSignature).length ≤ maxVoteExtensionSize := by
    cases signed : e.appSignature with
    | none => decide
    | some sig =>
      have fits := representable sig signed
      have lengths := fits.signature
      have lengths' := fits.publicKey
      have lengths'' := fits.keyID
      rw [length_marshalSignature_some, maxVoteExtensionSize]
      omega
  have checked : checkedEnhancedVoteExtensionSize baseBytes.length
      (marshalSignature e.appSignature).length =
        .ok (8 + baseBytes.length + (marshalSignature e.appSignature).length) := by
    unfold checkedEnhancedVoteExtensionSize
    unfold maxVoteExtensionSize at *
    rw [if_neg (by omega), if_neg (by omega), if_neg (by omega)]
  have signature : unmarshalSignature (marshalSignature e.appSignature) = .ok e.appSignature := by
    cases signed : e.appSignature with
    | none => rfl
    | some sig =>
      exact unmarshalSignature_eq_some.mpr
        ⟨representable sig signed, [], (append_nil _).symm⟩
  have base : unmarshalVoteExtension codec baseBytes = .ok { e.voteExtension with
      extensionHash := e.voteExtension.computeHash codec.sha256 } := by
    have some := length_pos_iff.mpr (lawful.nonempty _ _ marshalled)
    rw [unmarshalVoteExtension, if_neg (by omega), lawful.inverse _ _ marshalled]
    rfl
  unfold maxVoteExtensionSize at within sigWithin
  obtain ⟨baseLength, baseFound, sigLength, sigFound⟩ :=
    sections_frame (show baseBytes.length < 2 ^ 32 by omega)
      (show (marshalSignature e.appSignature).length < 2 ^ 32 by omega)
  refine ⟨frame baseBytes (marshalSignature e.appSignature),
    ⟨{ e.voteExtension with extensionHash := e.voteExtension.computeHash codec.sha256 },
      e.appSignature, ⟨0, .zero⟩, 0⟩, ?_, ?_, marshalled, rfl, rfl, rfl⟩
  · unfold EnhancedVoteExtension.marshalWithSignature
    rw [marshalled]
    show (do
      let _ ← checkedEnhancedVoteExtensionSize baseBytes.length
        (marshalSignature e.appSignature).length
      return frame baseBytes (marshalSignature e.appSignature)) = _
    rw [checked]
    rfl
  · rw [unmarshalEnhancedVoteExtension_eq_ok, baseLength, baseFound, sigLength, sigFound,
      length_frame]
    unfold maxVoteExtensionSize
    exact ⟨by omega, within, sigWithin, base, signature, rfl, rfl⟩

section

variable {data : Bytes} (accepted : unmarshalEnhancedVoteExtension codec data = .ok e)
include accepted

theorem sigSection_of_accepted :
    (e.appSignature = none ∧ (sigSection data = [] ∨ sigSection data = [0])) ∨
      ∃ sig trailing, e.appSignature = some sig ∧ sig.Representable ∧
        sigSection data = marshalSignature (some sig) ++ trailing := by
  obtain ⟨_, _, _, _, signature, _⟩ := (unmarshalEnhancedVoteExtension_eq_ok codec).mp accepted
  cases signed : e.appSignature with
  | none =>
    rw [signed] at signature
    exact .inl ⟨rfl, unmarshalSignature_eq_none.mp signature⟩
  | some sig =>
    rw [signed] at signature
    obtain ⟨fits, trailing, section_⟩ := unmarshalSignature_eq_some.mp signature
    exact .inr ⟨sig, trailing, rfl, fits, section_⟩

/-- A frame that is read whole is the one written for what was read. -/
theorem reframe_of_accepted (whole : WellFramed data) :
    frame (baseSection data) (marshalSignature e.appSignature) = data := by
  have same : marshalSignature e.appSignature = sigSection data := by
    rcases sigSection_of_accepted codec accepted with
      ⟨unsigned, none | zero⟩ | ⟨sig, trailing, signed, fits, found⟩
    · exfalso
      rcases whole.2 with zero | sized
      · rw [none] at zero
        cases zero
      · rw [none, declaredSize, length_nil] at sized
        omega
    · rw [unsigned, zero]
      rfl
    · rw [signed, found]
      have ends : trailing = [] := by
        rcases whole.2 with zero | sized
        · have short := congrArg length (found.symm.trans zero)
          rw [length_append, length_marshalSignature_some, length_singleton] at short
          omega
        · rw [found, declaredSize_marshalSignature fits, length_append] at sized
          exact length_eq_zero_iff.mp (by omega)
      rw [ends, append_nil]
  rw [same]
  exact frame_sections whole.1

end

/-- What is sent comes back but for height and round, and what is accepted has no field that is cut
short and is written back byte for byte where it ends at its lengths. -/
theorem enhanced_wire_format (lawful : codec.Lawful) :
    (∀ (e : EnhancedVoteExtension) (baseBytes : Bytes),
      e.voteExtension.marshal codec = .ok baseBytes → baseBytes.length ≤ maxVoteExtensionSize →
      (∀ sig ∈ e.appSignature, sig.Representable) →
      ∃ data received, e.marshalWithSignature codec = .ok data ∧
        unmarshalEnhancedVoteExtension codec data = .ok received ∧
        received.voteExtension.marshal codec = .ok baseBytes ∧
        received.appSignature = e.appSignature ∧ received.height.val = 0 ∧ received.round = 0) ∧
    (∀ (data : Bytes) (e : EnhancedVoteExtension),
      unmarshalEnhancedVoteExtension codec data = .ok e →
      8 + baseLen data + sigLen data ≤ data.length ∧
        ((e.appSignature = none ∧ (sigSection data = [] ∨ sigSection data = [0])) ∨
          ∃ sig trailing, e.appSignature = some sig ∧ sig.Representable ∧
            sigSection data = marshalSignature (some sig) ++ trailing) ∧
        (WellFramed data → frame (baseSection data) (marshalSignature e.appSignature) = data)) := by
  constructor
  · intro e baseBytes marshalled within representable
    exact unmarshal_marshalWithSignature codec lawful marshalled within representable
  · intro data e accepted
    exact ⟨((unmarshalEnhancedVoteExtension_eq_ok codec).mp accepted).1,
      sigSection_of_accepted codec accepted, reframe_of_accepted codec accepted⟩

def sampleHash : Bytes :=
  [195, 27, 76, 192, 45, 98, 179, 46, 11, 193, 250, 247, 138, 88, 41, 202, 25, 184, 140, 112, 133,
    5, 59, 105, 161, 145, 70, 149, 75, 45, 108, 93]

def sampleExtension : VoteExtension where
  version := 1
  height := ⟨5, by decide⟩
  validatorAddress := [1, 2, 3]
  verifications := []
  timestamp := ⟨0⟩
  nonce := []
  signature := []
  extensionHash := sampleHash

def sampleText : Bytes := ofText
  ("\x7b\"version\":1,\"height\":5,\"validator_address\":\"AQID\",\"verifications\":[]," ++
    "\"timestamp\":\"1970-01-01T00:00:00Z\",\"signature\":\"\"," ++
    "\"extension_hash\":\"wxtMwC1isy4Lwfr3ilgpyhm4jHCFBTtpoZFGlUstbF0=\"\x7d")

def sampleCodec : BaseCodec where
  sha256 _ := sampleHash
  marshal ve := if ve = sampleExtension then .ok sampleText else .error "not the sample"
  unmarshal bytes := if bytes = sampleText then .ok sampleExtension else .error "not the sample"

theorem sampleCodec_lawful : sampleCodec.Lawful := by
  have only {ve : VoteExtension} {bytes : Bytes} (marshalled : sampleCodec.marshal ve = .ok bytes) :
      ve = sampleExtension ∧ bytes = sampleText := by
    simp only [sampleCodec] at marshalled
    split at marshalled
    · exact ⟨‹_›, (Except.ok.inj marshalled).symm⟩
    · cases marshalled
  constructor
  · intro ve bytes marshalled
    obtain ⟨rfl, rfl⟩ := only marshalled
    simp only [sampleCodec, ↓reduceIte]
  · intro ve bytes marshalled
    obtain ⟨_, rfl⟩ := only marshalled
    exact ne_nil_of_length_pos (by decide +kernel)

def sampleSignature (unixNano : Int) : VoteExtensionSignature where
  signature := [1]
  publicKey := [2]
  keyID := [3]
  version := 1
  timestamp := ⟨unixNano⟩

/-- Height 7 comes back as 0, an empty section is accepted and written as a zero byte, a byte behind
the frame is ignored, and a time of more than 64 bits comes back as another one. -/
theorem wire_format_not_exact :
    let plain : EnhancedVoteExtension := ⟨sampleExtension, none, ⟨7, by decide⟩, 0⟩
    let late : EnhancedVoteExtension :=
      ⟨sampleExtension, some (sampleSignature (2 ^ 63)), ⟨0, .zero⟩, 0⟩
    let unsigned := frame sampleText []
    let received : EnhancedVoteExtension := ⟨sampleExtension, none, ⟨0, .zero⟩, 0⟩
    (plain.marshalWithSignature sampleCodec = .ok (frame sampleText [0]) ∧
      unmarshalEnhancedVoteExtension sampleCodec (frame sampleText [0]) = .ok received ∧
      received.height ≠ plain.height) ∧
    (unmarshalEnhancedVoteExtension sampleCodec unsigned = .ok received ∧
      marshalSignature received.appSignature ≠ sigSection unsigned) ∧
    unmarshalEnhancedVoteExtension sampleCodec (frame sampleText [0] ++ [9]) = .ok received ∧
    late.marshalWithSignature sampleCodec =
        .ok (frame sampleText (marshalSignature late.appSignature)) ∧
      unmarshalEnhancedVoteExtension sampleCodec
        (frame sampleText (marshalSignature late.appSignature)) =
          .ok { received with appSignature := some (sampleSignature (-2 ^ 63)) } := by
  decide +kernel

theorem sample_comes_back :
    ∃ data received,
      (EnhancedVoteExtension.mk sampleExtension (some (sampleSignature 1)) ⟨7, by decide⟩
        0).marshalWithSignature sampleCodec = .ok data ∧
      unmarshalEnhancedVoteExtension sampleCodec data = .ok received ∧
      received.voteExtension.marshal sampleCodec = .ok sampleText ∧
      received.appSignature = some (sampleSignature 1) ∧ received.height.val = 0 ∧
      received.round = 0 := by
  apply (enhanced_wire_format sampleCodec sampleCodec_lawful).1 _ sampleText
  · decide +kernel
  · decide +kernel
  · intro sig given
    obtain rfl := Option.some.inj given
    exact ⟨by decide, by decide, by decide, by decide⟩

end Aethelred.App
