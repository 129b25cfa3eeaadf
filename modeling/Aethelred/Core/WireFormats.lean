import Aethelred.Core.VerifyPaths

/- The wire formats of signatures and keys as relations between bytes and values: what is read is
what was written, and what was read is written again. -/
namespace Core

open Code Bytes List Except

namespace HybridSignature

variable {bytes : List UInt8}

/-- A flag that is read is the one written there. -/
theorem drop_of_parseFlag {cursor next : Nat} {word : Option UInt64}
    (read : parseFlag bytes cursor = some (word, next)) :
    bytes.drop cursor = flagged metadataBytes word ++ bytes.drop next ∧
      (next = cursor + 1 ∨ next = cursor + 9) := by
  unfold parseFlag at read
  split at read
  · cases read
  next inside =>
    have split := drop_eq_byteAt_cons (Nat.lt_of_not_le inside)
    split at read
    next absent =>
      cases read
      exact ⟨by rw [split, absent]; rfl, .inl rfl⟩
    next =>
      split at read
      next present =>
        split at read
        · cases read
        next long =>
          cases read
          have width : (slice bytes (cursor + 1) 8).length = 8 :=
            length_slice (by omega)
          have small := ofLittleEndian_lt (slice bytes (cursor + 1) 8)
          have back := littleEndian_ofLittleEndian (slice bytes (cursor + 1) 8)
          rw [width] at small back
          refine ⟨?_, .inr rfl⟩
          rw [split, present, drop_eq_slice_append bytes (cursor + 1) 8, flagged,
            metadataBytes, UInt64.toNat_ofNat_of_lt' small, back]
          rfl
      · cases read

theorem drop_of_parseSignatureMetadata {offset consumed : Nat} {timestamp chainId : Option UInt64}
    (read : parseSignatureMetadata bytes offset = some (timestamp, chainId, consumed)) :
    bytes.drop offset = flagged metadataBytes timestamp ++ (flagged metadataBytes chainId ++
        bytes.drop consumed) ∧
      offset + 2 ≤ consumed ∧ consumed ≤ offset + 18 := by
  simp only [parseSignatureMetadata, Option.bind_eq_bind, Option.bind_eq_some_iff] at read
  obtain ⟨⟨_, middle⟩, first, ⟨_, _⟩, second, ⟨⟩⟩ := read
  obtain ⟨before, near⟩ := drop_of_parseFlag first
  obtain ⟨after, far⟩ := drop_of_parseFlag second
  rw [before, after]
  exact ⟨rfl, by omega, by omega⟩

theorem parseLevelByte_eq_ok {byte : UInt8} {level : DilithiumSecurityLevel}
    (read : parseLevelByte byte = .ok level) : byte = level.toByte := by
  unfold parseLevelByte at read
  split_ifs at read with two three five
  all_goals cases read; assumption

section

variable {signature : HybridSignature} (version : byteAt bytes 0 = signatureVersionV2)
include version

/-- A signature that is read is written back as the same bytes. -/
theorem toBytes_of_parseSignatureV2 (marker : byteAt bytes 1 = hybridMarker)
    (read : parseSignatureV2 bytes = .ok signature) : signature.toBytes = some bytes := by
  unfold parseSignatureV2 at read
  split at read
  · cases read
  next long =>
  split at read
  · cases read
  next separator =>
  obtain ⟨level, named, read⟩ := bind_eq_ok.mp read
  obtain ⟨⟨⟩, sized, read⟩ := bind_eq_ok.mp read
  obtain ⟨⟨timestamp, chainId⟩, metadata, ⟨⟩⟩ := bind_eq_ok.mp read
  generalize quantumLen : ofLittleEndian (slice bytes 68 2) = length at *
  have prefixWidth : (slice bytes 68 2).length = 2 := length_slice (by omega)
  have small := ofLittleEndian_lt (slice bytes 68 2)
  have lengthBytes := littleEndian_ofLittleEndian (slice bytes 68 2)
  rw [prefixWidth, quantumLen] at small lengthBytes
  have inside : 70 + length + 2 ≤ bytes.length := by
    unfold checkQuantumLength at sized
    split_ifs at sized
    omega
  have quantumWidth : (slice bytes 70 length).length = length :=
    length_slice (by omega)
  have last : bytes.drop (70 + length) =
      flagged metadataBytes timestamp ++ flagged metadataBytes chainId := by
    unfold parseLastMetadata at metadata
    split at metadata
    · cases metadata
    next _ _ consumed parsed =>
      split at metadata
      · cases metadata
      next whole =>
        cases metadata
        rw [(drop_of_parseSignatureMetadata parsed).1, not_not.mp whole, drop_length,
          append_nil]
  have fits : length < 65536 := small
  unfold toBytes
  rw [if_pos (quantumWidth.trans_lt fits)]
  refine congrArg some ?_
  dsimp only
  -- the bytes field by field, from the front
  have fields : bytes = bytes.drop 0 := rfl
  rw [drop_eq_byteAt_cons (by omega), drop_eq_byteAt_cons (by omega),
    drop_eq_slice_append bytes 2 64, drop_eq_byteAt_cons (by omega),
    drop_eq_byteAt_cons (by omega), drop_eq_slice_append bytes 68 2,
    drop_eq_slice_append bytes 70 length, last, version, marker, not_not.mp separator,
    parseLevelByte_eq_ok named] at fields
  rw [quantumWidth, lengthBytes]
  refine Eq.trans ?_ fields.symm
  simp only [append_assoc, cons_append, nil_append]

theorem toBytes_of_fromBytes
    (read : fromBytes bytes = .ok signature) : signature.toBytes = some bytes := by
  unfold fromBytes at read
  split at read
  · cases read
  · dsimp only at read
    split at read
    · cases read
    next marked =>
      exact toBytes_of_parseSignatureV2 version (not_not.mp marked) read

end

theorem level_of_parseCandidate {level level' : DilithiumSecurityLevel}
    (parses : (parseCandidate bytes level).isSome) (parses' : (parseCandidate bytes level').isSome) :
    level = level' := by
  have length {level : DilithiumSecurityLevel} (parses : (parseCandidate bytes level).isSome) :
      67 + level.signatureSize + 3 ≤ bytes.length ∧
        bytes.length ≤ 67 + level.signatureSize + 19 := by
    unfold parseCandidate at parses
    dsimp only at parses
    split_ifs at parses
    · cases parses
    · cases parses
    · split at parses
      · cases parses
      next _ _ consumed parsed =>
        split_ifs at parses with whole
        · cases parses
        · have ends := (drop_of_parseSignatureMetadata parsed).2
          omega
  have first := length parses
  have second := length parses'
  cases level <;> cases level' <;>
    first | rfl | (simp only [DilithiumSecurityLevel.signatureSize] at first second; omega)

theorem findSome?_parseCandidate {levels : List DilithiumSecurityLevel}
    (perm : levels.Perm [.level2, .level3, .level5]) :
    levels.findSome? (parseCandidate bytes) =
      [DilithiumSecurityLevel.level2, .level3, .level5].findSome? (parseCandidate bytes) := by
  cases found : [DilithiumSecurityLevel.level2, .level3, .level5].findSome?
      (parseCandidate bytes) with
  | none =>
    rw [findSome?_eq_none_iff] at found ⊢
    exact fun level member => found level (perm.mem_iff.mp member)
  | some signature =>
    obtain ⟨level, member, parsed⟩ := exists_of_findSome?_eq_some found
    cases again : levels.findSome? (parseCandidate bytes) with
    | none =>
      have refused := findSome?_eq_none_iff.mp again level (perm.mem_iff.mpr member)
      cases parsed.symm.trans refused
    | some other =>
      obtain ⟨level', -, parsed'⟩ := exists_of_findSome?_eq_some again
      obtain rfl := level_of_parseCandidate (Option.isSome_of_eq_some parsed)
        (Option.isSome_of_eq_some parsed')
      exact parsed'.symm.trans parsed

end HybridSignature

namespace HybridPublicKey

variable {platform : Platform} {bytes : List UInt8} {key : HybridPublicKey}

theorem length_of_fromBytes (read : fromBytes platform bytes = .ok key) :
    key.classical.bytes.length = 33 := by
  unfold fromBytes at read
  split at read
  · cases read
  next long =>
  split at read
  · cases read
  · obtain ⟨classical, parsed, read⟩ := bind_eq_ok.mp read
    split at read
    · cases read
    · obtain ⟨quantum, -, ⟨⟩⟩ := bind_eq_ok.mp read
      have width : (slice bytes 2 33).length = 33 := length_slice (by omega)
      rw [((EcdsaPublicKey.fromBytes_eq_ok width).mp parsed).2]
      exact width

/-- Both parts are what their own `from_bytes` accept. -/
def PartsAccepted (platform : Platform) (key : HybridPublicKey) : Prop :=
  EcdsaPublicKey.fromBytes platform key.classical.bytes = .ok key.classical ∧
    DilithiumPublicKey.fromBytes key.quantum.bytes key.quantum.level = .ok key.quantum

theorem PartsAccepted.readable (accepted : key.PartsAccepted platform) : key.Readable platform := by
  obtain ⟨classical, quantum⟩ := accepted
  unfold EcdsaPublicKey.fromBytes at classical
  unfold DilithiumPublicKey.fromBytes at quantum
  constructor
  · split at classical
    · cases classical
    · split at classical
      · cases classical
      next point => exact point
  · split at quantum
    · cases quantum
    next sized => exact not_not.mp sized

end HybridPublicKey

/-- Signatures are read back as they were written and written as they were read, no bytes of the
first version fit two levels, and keys of accepted parts are read back. -/
structure RoundTrips (platform : Platform) (signature : HybridSignature) (bytes : List UInt8)
    (key : HybridPublicKey) : Prop where
  written : signature.classical.length = 64 → 1 ≤ signature.quantum.length →
    signature.quantum.length ≤ signature.level.signatureSize →
    ∃ wire, signature.toBytes = some wire ∧ HybridSignature.fromBytes wire = .ok signature
  read : ∀ parsed, byteAt bytes 0 = signatureVersionV2 →
    HybridSignature.fromBytes bytes = .ok parsed → parsed.toBytes = some bytes
  oneLevel : ∀ level level', (HybridSignature.parseCandidate bytes level).isSome →
    (HybridSignature.parseCandidate bytes level').isSome → level = level'
  anyOrder : ∀ levels : List DilithiumSecurityLevel, levels.Perm [.level2, .level3, .level5] →
    levels.findSome? (HybridSignature.parseCandidate bytes) =
      [DilithiumSecurityLevel.level2, .level3, .level5].findSome?
        (HybridSignature.parseCandidate bytes)
  key : key.PartsAccepted platform → HybridPublicKey.fromBytes platform key.toBytes = .ok key

/-- Keys are not read back where the ECDSA part is uncompressed; everything else is. -/
theorem roundTrips_iff (platform : Platform) (signature : HybridSignature) (bytes : List UInt8)
    (key : HybridPublicKey) :
    RoundTrips platform signature bytes key ↔
      (key.PartsAccepted platform → key.classical.bytes.length = 33) := by
  constructor
  · intro trips accepted
    exact HybridPublicKey.length_of_fromBytes (trips.key accepted)
  · intro compressed
    refine ⟨fun classical positive most => ?_, fun parsed => HybridSignature.toBytes_of_fromBytes,
      fun _ _ => HybridSignature.level_of_parseCandidate,
      fun _ => HybridSignature.findSome?_parseCandidate, fun accepted => ?_⟩
    · have short := most.trans_lt signature.level.signatureSize_lt
      exact ⟨_, if_pos short, HybridSignature.fromBytes_of_toBytes classical positive most
        (if_pos short)⟩
    · exact (HybridPublicKey.fromBytes_toBytes (compressed accepted)).mpr ⟨accepted.readable, rfl⟩

/-- Accepts the generator of the curve in its uncompressed form. -/
def uncompressedPlatform : Platform :=
  { samplePlatform 0 0 with
    sec1Point := fun bytes => if bytes.length = 65 then .ok () else .error "signature error" }

def generatorY : Nat := 0x483ada7726a3c4655da4fbfc0e1108a8fd17b448a68554199c47d08ffb10d4b8

theorem uncompressed_key_lost :
    ¬RoundTrips uncompressedPlatform ⟨[], [], .level2, none, none⟩ []
      ⟨⟨4 :: (bigEndian 32 generatorX ++ bigEndian 32 generatorY)⟩,
        ⟨replicate 1312 0, .level2⟩⟩ := by
  intro trips
  have read := HybridPublicKey.length_of_fromBytes
    (trips.key ⟨rfl, if_neg (not_not_intro length_replicate)⟩)
  revert read
  decide

end Core
