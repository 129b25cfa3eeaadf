import Aethelred.Vault.RegistryRoot

/- The hash of a validator set and the registry roots, as the keeper (`keeper.go`) and the TEE server
(`server.rs`) compute them. Both hash the same bytes unless an address begins with `0x0x`: the one
side trims a prefix once, the other as often as it can. -/
namespace Vault

open Go Function Bytes List Hex Tee

structure ValidatorRecord where
  address : String
  delegatedStake : UInt64
  performanceScore : UInt32
  decentralizationScore : UInt32
  reputationScore : UInt32
  compositeScore : UInt32
  teePublicKey : List UInt8
  commission : UInt32
  slashCount : UInt32 := 0
  isActive : Bool := false

/-- `types.rs`. -/
structure ScoredValidator where
  address : String
  stake : Fin (2 ^ 128)
  performanceScore : UInt32
  decentralizationScore : UInt32
  reputationScore : UInt32
  compositeScore : UInt32
  teePublicKey : String
  commissionBps : UInt32

def ValidatorRecord.scored (validator : ValidatorRecord) : ScoredValidator where
  address := validator.address
  stake := ⟨validator.delegatedStake.toNat,
    Nat.lt_trans validator.delegatedStake.toNat_lt (by decide)⟩
  performanceScore := validator.performanceScore
  decentralizationScore := validator.decentralizationScore
  reputationScore := validator.reputationScore
  compositeScore := validator.compositeScore
  teePublicKey := encodeToString validator.teePublicKey
  commissionBps := validator.commission

def StakerStakeEntry.stake (entry : StakerStakeEntry) : StakerStake where
  address := entry.address
  shares := ⟨entry.shares.toNat, Nat.lt_trans entry.shares.toNat_lt (by decide)⟩
  delegatedTo := entry.delegatedTo

section Encoders

variable (sha256 : List UInt8 → Fixed 32)

/-- 32 bytes with zeros before what there is. -/
def leftPad (bytes : List UInt8) : List UInt8 := replicate (32 - bytes.length) 0 ++ bytes

/-- 32 bytes with zeros after the first of them. -/
def rightPad (bytes : List UInt8) : List UInt8 :=
  bytes.take 32 ++ replicate (32 - (bytes.take 32).length) 0

variable (address : String)

/-- The first 20 bytes of the hash of an address that is not hexadecimal. -/
def hashedAddress : List UInt8 :=
  (ofFn (sha256 address.toUTF8.toList)).take 20

def Keeper.addressToBytes32 : List UInt8 :=
  match decodeChars (trimHead address.toList) with
  | some bytes =>
    if bytes.length ≤ 32 then leftPad bytes
    else replicate 12 0 ++ hashedAddress sha256 address
  | none => replicate 12 0 ++ hashedAddress sha256 address

/-- The 32 bytes of the address in `compute_validator_inner_hash`. -/
def Tee.addressToBytes32 : List UInt8 :=
  leftPad <|
    match decodeChars (trimStartMatches address.toList) with
    | some bytes => if bytes.length ≤ 32 then bytes else hashedAddress sha256 address
    | none => hashedAddress sha256 address

/-- What `computeValidatorInnerHash` hashes. -/
def Keeper.innerPreimage (v : ValidatorRecord) : List UInt8 :=
  Keeper.addressToBytes32 sha256 v.address ++
    (replicate 24 0 ++ bigEndian 8 v.delegatedStake.toNat) ++
    (replicate 28 0 ++ bigEndian 4 v.performanceScore.toNat) ++
    (replicate 28 0 ++ bigEndian 4 v.decentralizationScore.toNat) ++
    (replicate 28 0 ++ bigEndian 4 v.reputationScore.toNat) ++
    (replicate 28 0 ++ bigEndian 4 v.compositeScore.toNat) ++
    rightPad v.teePublicKey ++
    (replicate 28 0 ++ bigEndian 4 v.commission.toNat)

/-- What `compute_validator_inner_hash` hashes. -/
def Tee.innerPreimage (v : ScoredValidator) : List UInt8 :=
  addressToBytes32 sha256 v.address ++
    (replicate 16 0 ++ bigEndian 16 v.stake) ++
    (replicate 28 0 ++ bigEndian 4 v.performanceScore.toNat) ++
    (replicate 28 0 ++ bigEndian 4 v.decentralizationScore.toNat) ++
    (replicate 28 0 ++ bigEndian 4 v.reputationScore.toNat) ++
    (replicate 28 0 ++ bigEndian 4 v.compositeScore.toNat) ++
    rightPad ((decodeChars (trimStartMatches v.teePublicKey.toList)).getD []) ++
    (replicate 28 0 ++ bigEndian 4 v.commissionBps.toNat)

variable (epoch : UInt64)

def setPreimage (inner : List (List UInt8)) : List UInt8 :=
  "CruzibleValidatorSet-v1".toUTF8.toList ++ bigEndian 8 epoch.toNat ++
    bigEndian 4 (inner.length % 2 ^ 32) ++
    inner.flatMap fun preimage => ofFn (sha256 preimage)

def Keeper.computeValidatorSetHash (validators : List ValidatorRecord) : Fixed 32 :=
  sha256 (setPreimage sha256 epoch (validators.map (Keeper.innerPreimage sha256)))

def Tee.computeValidatorSetHash (validators : List ScoredValidator) : Fixed 32 :=
  sha256 (setPreimage sha256 epoch (validators.map (innerPreimage sha256)))

end Encoders

section Registries

/-- What `computeStakerRegistryRoot` hashes, entry by entry. -/
def Keeper.stakerPreimages (entries : List StakerStakeEntry) : List (List UInt8) :=
  (entries.filter fun entry => entry.shares != 0).map fun entry =>
    Keeper.parseAddressBytes entry.address ++
      (replicate (32 - (minimalBytes entry.shares).length) 0 ++ minimalBytes entry.shares)

/-- What `compute_staker_registry_root` hashes, staker by staker. -/
def Tee.stakerPreimages (stakers : List StakerStake) : List (List UInt8) :=
  (stakers.filter fun staker => staker.shares != 0).map fun staker =>
    parseAddressBytes staker.address ++
      (replicate 16 0 ++ bigEndian 16 staker.shares)

/-- What `compute_delegation_registry_root` hashes, staker by staker. The keeper has no such
function. -/
def Tee.delegationPreimages (stakers : List StakerStake) : List (List UInt8) :=
  (stakers.filter fun staker => staker.shares != 0).map fun staker =>
    parseAddressBytes staker.address ++ parseAddressBytes staker.delegatedTo

variable (keccak : List UInt8 → Fixed 32)

/-- The bytes are combined with exclusive or. -/
def xorAll (preimages : List (List UInt8)) : Fixed 32 :=
  preimages.foldl (fun accumulator preimage => xor accumulator (keccak preimage)) fun _ => 0

def Tee.computeDelegationRegistryRoot (debugAssertions : Bool) (stakers : List StakerStake) :
    Option (Fixed 32) :=
  if debugAssertions = true ∧ ¬(stakers.map (·.address)).Nodup then none
  else some (xorAll keccak (delegationPreimages stakers))

theorem xorRoot_eq {ι : Type} (skipped : ι → Bool) (preimage : ι → List UInt8) (items : List ι) :
    xorRoot keccak skipped preimage items =
      xorAll keccak ((items.filter fun item => !skipped item).map preimage) := by
  unfold xorRoot xorAll
  generalize (fun _ => 0 : Fixed 32) = start
  induction items generalizing start with
  | nil => rfl
  | cons item rest ih =>
    rw [foldl_cons, ih, filter_cons]
    cases skipped item <;> rfl

end Registries

section Prefixes

def doubled : List Char → Bool
  | '0' :: 'x' :: '0' :: 'x' :: _ => true
  | _ => false

variable {chars : List Char}

theorem trimStartMatches_of_not_doubled (single : doubled chars = false) :
    trimStartMatches chars = trimHead chars := by
  unfold trimStartMatches trimHead
  split
  · rename_i rest
    unfold trimStartMatches
    split
    · cases single
    · rfl
  · rfl

theorem decodeChars_of_doubled (twice : doubled chars = true) :
    decodeChars (trimHead chars) = none := by
  unfold doubled at twice
  split at twice
  · rename_i rest
    have digit : value 'x' = none := by decide
    simp only [trimHead, decodeChars, digit]
    rfl
  · cases twice

variable {sha256 : List UInt8 → Fixed 32} {address : String}

theorem length_hashedAddress : (hashedAddress sha256 address).length = 20 := by
  rw [hashedAddress, length_take, length_ofFn]
  rfl

theorem leftPad_hashedAddress :
    leftPad (hashedAddress sha256 address) =
      replicate 12 0 ++ hashedAddress sha256 address := by
  rw [leftPad, length_hashedAddress]

variable (sha256) in
/-- An address with two prefixes is not hexadecimal beyond them, or is more than 32 bytes, or
happens to be its own hash. -/
def Trims32 (address : String) : Prop :=
  doubled address.toList = true →
    ∀ bytes, decodeChars (trimStartMatches address.toList) = some bytes → bytes.length ≤ 32 →
      leftPad bytes = replicate 12 0 ++ hashedAddress sha256 address

/-- An address with two prefixes is not hexadecimal beyond them, or is more than 20 bytes, or is
zero. -/
def Trims20 (address : String) : Prop :=
  doubled (lowercase address) = true →
    ∀ bytes, decodeChars (trimStartMatches (lowercase address)) = some bytes →
      bytes.length ≤ 20 → ∀ byte ∈ bytes, byte = 0

/-- Keeper and enclave agree on the addresses they trim alike. -/
theorem addressToBytes32_eq_iff :
    Keeper.addressToBytes32 sha256 address = addressToBytes32 sha256 address ↔
      Trims32 sha256 address := by
  unfold Keeper.addressToBytes32 addressToBytes32 Trims32
  cases twice : doubled address.toList with
  | false =>
    refine iff_of_true ?_ nofun
    rw [trimStartMatches_of_not_doubled twice]
    cases decodeChars (trimHead address.toList) with
    | none => exact leftPad_hashedAddress.symm
    | some bytes =>
      dsimp only
      split
      · rfl
      · exact leftPad_hashedAddress.symm
  | true =>
    rw [decodeChars_of_doubled twice, ← leftPad_hashedAddress]
    simp only [true_implies]
    cases decodeChars (trimStartMatches address.toList) with
    | none => exact iff_of_true rfl nofun
    | some bytes =>
      dsimp only
      constructor
      · intro same other equal short
        cases equal
        rw [if_pos short] at same
        exact same.symm
      · intro same
        split
        · rename_i short
          exact (same bytes rfl short).symm
        · rfl

/-- Which texts give the zero address. -/
theorem addressBytes_eq_zero_iff :
    replicate 20 0 = addressBytes chars ↔
      ∀ bytes, decodeChars chars = some bytes → bytes.length ≤ 20 →
        ∀ byte ∈ bytes, byte = 0 := by
  unfold addressBytes
  cases decodeChars chars with
  | none => exact iff_of_true rfl nofun
  | some bytes =>
    dsimp only
    constructor
    · intro same other equal short byte member
      cases equal
      have within : byte ∈ replicate 20 (0 : UInt8) := by
        rw [same]
        split
        · exact member
        · rw [if_pos (by omega)]
          exact mem_append_right _ member
      exact eq_of_mem_replicate within
    · intro zeros
      split
      · rename_i length
        exact (eq_replicate_iff.mpr ⟨length, zeros bytes rfl (by omega)⟩).symm
      · split
        · rename_i _ short
          have zero := zeros bytes rfl (by omega)
          refine (eq_replicate_iff.mpr ⟨?_, fun byte member => ?_⟩).symm
          · rw [length_append, length_replicate]
            omega
          · obtain pad | own := mem_append.mp member
            · exact eq_of_mem_replicate pad
            · exact zero byte own
        · rfl

theorem length_addressBytes (chars : List Char) : (addressBytes chars).length = 20 := by
  unfold addressBytes
  split
  · rename_i bytes _
    split
    · assumption
    · split
      · rw [length_append, length_replicate]
        omega
      · exact length_replicate
  · exact length_replicate

theorem parseAddressBytes_eq_iff :
    Keeper.parseAddressBytes address = parseAddressBytes address ↔ Trims20 address := by
  unfold Keeper.parseAddressBytes parseAddressBytes Trims20
  cases twice : doubled (lowercase address) with
  | false =>
    rw [trimStartMatches_of_not_doubled twice]
    exact iff_of_true rfl nofun
  | true =>
    have none : addressBytes (trimHead (lowercase address)) = replicate 20 0 := by
      rw [addressBytes, decodeChars_of_doubled twice]
    rw [none, addressBytes_eq_zero_iff]
    simp only [true_implies]

end Prefixes

section Agreement

variable (sha256 : List UInt8 → Fixed 32)

def Keeper.delegationPairs (entries : List StakerStakeEntry) : List (List UInt8) :=
  (entries.filter fun entry => entry.shares != 0).map fun entry =>
    Keeper.parseAddressBytes entry.address ++ Keeper.parseAddressBytes entry.delegatedTo

/-- Both sides hash the same bytes. -/
structure Agree (epoch : UInt64) (validators : List ValidatorRecord)
    (entries : List StakerStakeEntry) : Prop where
  inner : validators.map (Keeper.innerPreimage sha256) =
    (validators.map ValidatorRecord.scored).map (innerPreimage sha256)
  set : setPreimage sha256 epoch (validators.map (Keeper.innerPreimage sha256)) =
    setPreimage sha256 epoch ((validators.map ValidatorRecord.scored).map (innerPreimage sha256))
  hash : Keeper.computeValidatorSetHash sha256 epoch validators =
    computeValidatorSetHash sha256 epoch (validators.map ValidatorRecord.scored)
  stakers : Keeper.stakerPreimages entries = stakerPreimages (entries.map StakerStakeEntry.stake)
  delegations : Keeper.delegationPairs entries =
    delegationPreimages (entries.map StakerStakeEntry.stake)

variable {sha256}

theorem teePublicKey_scored (key : List UInt8) :
    (decodeChars (trimStartMatches (encodeToString key).toList)).getD [] = key := by
  rw [encodeToString, String.toList_ofList, (trim_encodeChars key).1,
    decodeChars_encodeChars]
  rfl

theorem stake_scored (stake : UInt64) :
    replicate 24 0 ++ bigEndian 8 stake.toNat =
      replicate 16 0 ++ bigEndian 16 stake.toNat := by
  have narrow : stake.toNat < 256 ^ 8 := stake.toNat_lt
  have wide : stake.toNat < 256 ^ 16 := Nat.lt_trans narrow (by decide)
  rw [← bigEndian_add narrow 24, ← bigEndian_add wide 16]

theorem innerPreimage_eq_iff (v : ValidatorRecord) :
    Keeper.innerPreimage sha256 v = innerPreimage sha256 v.scored ↔ Trims32 sha256 v.address := by
  rw [← addressToBytes32_eq_iff]
  unfold Keeper.innerPreimage innerPreimage
  have key : (decodeChars (trimStartMatches v.scored.teePublicKey.toList)).getD [] =
      v.teePublicKey := teePublicKey_scored v.teePublicKey
  have stake := stake_scored v.delegatedStake
  rw [key, stake]
  simp only [append_assoc]
  exact append_left_inj _

section

variable (entries : List StakerStakeEntry)
include entries

theorem filter_stake :
    (entries.map StakerStakeEntry.stake).filter (fun staker => staker.shares != 0) =
      (entries.filter fun entry => entry.shares != 0).map StakerStakeEntry.stake := by
  rw [filter_map]
  congr 2
  funext entry
  have zero : entry.stake.shares = 0 ↔ entry.shares = 0 := by
    rw [Fin.ext_iff, ← UInt64.toNat_inj]
    rfl
  rw [comp_apply, Bool.eq_iff_iff, bne_iff_ne, bne_iff_ne]
  exact not_congr zero

theorem stakerPreimages_eq_iff :
    Keeper.stakerPreimages entries = stakerPreimages (entries.map StakerStakeEntry.stake) ↔
      ∀ entry ∈ entries, entry.shares ≠ 0 → Trims20 entry.address := by
  unfold Keeper.stakerPreimages stakerPreimages
  rw [filter_stake, map_map, map_inj_left]
  simp only [mem_filter, bne_iff_ne, and_imp]
  refine forall₃_congr fun entry _ _ => ?_
  rw [← parseAddressBytes_eq_iff, bigEndian_u64, comp_apply, bigEndian_u128]
  exact append_left_inj _

theorem delegations_eq_iff :
    Keeper.delegationPairs entries = delegationPreimages (entries.map StakerStakeEntry.stake) ↔
      ∀ entry ∈ entries, entry.shares ≠ 0 →
        Trims20 entry.address ∧ Trims20 entry.delegatedTo := by
  have length (address : String) : (Keeper.parseAddressBytes address).length = 20 ∧
      (parseAddressBytes address).length = 20 :=
    ⟨length_addressBytes _, length_addressBytes _⟩
  unfold Keeper.delegationPairs delegationPreimages
  rw [filter_stake, map_map, map_inj_left]
  simp only [mem_filter, bne_iff_ne, and_imp]
  refine forall₃_congr fun entry _ _ => ?_
  rw [← parseAddressBytes_eq_iff, ← parseAddressBytes_eq_iff, comp_apply]
  constructor
  · exact fun same => append_inj same ((length _).1.trans (length _).2.symm)
  · exact fun both => congrArg₂ _ both.1 both.2

end

variable (sha256) in
/-- The two sides hash the same bytes exactly if no address of a validator or of a staker with shares
has two prefixes before other digits. -/
theorem agree_iff (epoch : UInt64) (validators : List ValidatorRecord)
    (entries : List StakerStakeEntry) :
    Agree sha256 epoch validators entries ↔
      (∀ v ∈ validators, Trims32 sha256 v.address) ∧
      ∀ entry ∈ entries, entry.shares ≠ 0 → Trims20 entry.address ∧ Trims20 entry.delegatedTo := by
  have inner : validators.map (Keeper.innerPreimage sha256) =
      (validators.map ValidatorRecord.scored).map (innerPreimage sha256) ↔
      ∀ v ∈ validators, Trims32 sha256 v.address := by
    rw [map_map, map_inj_left]
    exact forall₂_congr fun v _ => innerPreimage_eq_iff v
  constructor
  · intro agree
    exact ⟨inner.mp agree.inner, (delegations_eq_iff entries).mp agree.delegations⟩
  · rintro ⟨validatorsFine, entriesFine⟩
    have same := inner.mpr validatorsFine
    exact {
      inner := same
      set := congrArg (setPreimage sha256 epoch) same
      hash := congrArg (fun inner => sha256 (setPreimage sha256 epoch inner)) same
      stakers := (stakerPreimages_eq_iff entries).mpr fun entry member shares =>
        (entriesFine entry member shares).1
      delegations := (delegations_eq_iff entries).mpr entriesFine }

def doubledValidator : ValidatorRecord where
  address := "0x0x01"
  delegatedStake := 1
  performanceScore := 0
  decentralizationScore := 0
  reputationScore := 0
  compositeScore := 0
  teePublicKey := []
  commission := 0

/-- SHA-256 of this address. -/
def doubledSha256 (bytes : List UInt8) : Fixed 32 :=
  if bytes = "0x0x01".toUTF8.toList then fun i =>
    UInt8.ofNat (0x403f5df83c59e3882dbf3025e0d654c423211ea28e4169805972606a3e429f13
      / 256 ^ (31 - i.val))
  else fun _ => 0

/-- The keeper hashes the text of the address, the TEE server pads the byte 1. -/
theorem doubledValidator_differs : ¬Agree doubledSha256 1 [doubledValidator] [] := by
  intro agree
  have differ : Keeper.addressToBytes32 doubledSha256 "0x0x01" ≠
      addressToBytes32 doubledSha256 "0x0x01" := by decide +kernel
  have inner : Keeper.innerPreimage doubledSha256 doubledValidator =
      innerPreimage doubledSha256 doubledValidator.scored := (cons.inj agree.inner).1
  exact differ (addressToBytes32_eq_iff.mpr ((innerPreimage_eq_iff doubledValidator).mp inner))

end Agreement

end Vault
