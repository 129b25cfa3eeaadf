import Aethelred.Vault.StakingCalls
import Mathlib.Tactic.Ring

/- What `validate_unique_staker_addresses` (`server.rs`) keeps out of the roots of the staker and
the delegation registry: a text that is there twice, not two texts of one account. -/
namespace Vault

open Bytes List Option Nat Tee

open Store (firstDuplicate nodup_of_firstDuplicate)

section Spelling

def continued (number : Nat) : List Char → Option Nat
  | [] => some number
  | digit :: rest => (Go.Hex.value digit).bind fun value => continued (16 * number + value) rest

/-- The number that the digits of an address spell, in either case and after any number of `0x`:
0 for texts that are not at most twenty pairs of digits. -/
def spelled (text : String) : Nat :=
  let digits := trimStartMatches (lowercase text)
  if digits.length % 2 = 0 ∧ digits.length ≤ 40 then (continued 0 digits).getD 0 else 0

theorem value_lt_sixteen {digit : Char} {number : Nat}
    (value : Go.Hex.value digit = some number) : number < 16 := by
  unfold Go.Hex.value at value
  have nine : '9'.toNat = 57 := rfl
  have small : 'f'.toNat = 102 := rfl
  have capital : 'F'.toNat = 70 := rfl
  split at value
  next within =>
    have last : digit.toNat ≤ '9'.toNat := within.2
    have same := some.inj value
    omega
  · split at value
    next within =>
      have last : digit.toNat ≤ 'f'.toNat := within.2
      have same := some.inj value
      omega
    · split at value
      next within =>
        have last : digit.toNat ≤ 'F'.toNat := within.2
        have same := some.inj value
        omega
      · cases value

variable {digits : List Char}

section

variable {bytes : List UInt8} (decoded : Go.Hex.decodeChars digits = some bytes)
include decoded

theorem even_of_decodeChars : digits.length = 2 * bytes.length := by
  fun_induction Go.Hex.decodeChars digits generalizing bytes with
  | case1 =>
    cases decoded
    rfl
  | case2 high low rest ih =>
    simp only [Option.bind_eq_bind, Option.bind_eq_some_iff, Option.pure_def] at decoded
    obtain ⟨upper, -, lower, -, tail, later, same⟩ := decoded
    cases same
    have counted := ih later
    simp only [length_cons]
    omega
  | case3 digit => cases decoded

theorem continued_of_decodeChars (number : Nat) :
    continued number digits =
      some (256 ^ bytes.length * number + ofBigEndian bytes) := by
  fun_induction Go.Hex.decodeChars digits generalizing bytes number with
  | case1 =>
    cases decoded
    rw [continued, length_nil, pow_zero, one_mul]
    rfl
  | case2 high low rest ih =>
    simp only [Option.bind_eq_bind, Option.bind_eq_some_iff, Option.pure_def] at decoded
    obtain ⟨upper, first, lower, second, tail, later, same⟩ := decoded
    cases same
    have upperSmall := value_lt_sixteen first
    have lowerSmall := value_lt_sixteen second
    have byte : (UInt8.ofNat (16 * upper + lower)).toNat = 16 * upper + lower := by
      rw [UInt8.toNat_ofNat']
      exact mod_eq_of_lt (by omega)
    rw [continued, first, bind_some, continued, second, bind_some, ih later,
      ofBigEndian_cons, length_cons, pow_succ, byte]
    congr 1
    ring
  | case3 digit => cases decoded

end

/-- Where the decoding fails, so does the reading of the digits. -/
theorem continued_of_undecoded (even : digits.length % 2 = 0)
    (undecoded : Go.Hex.decodeChars digits = none) (number : Nat) :
    continued number digits = none := by
  fun_induction Go.Hex.decodeChars digits generalizing number with
  | case1 => cases undecoded
  | case2 high low rest ih =>
    cases first : Go.Hex.value high with
    | none => rw [continued, first, bind_none]
    | some upper =>
      cases second : Go.Hex.value low with
      | none => rw [continued, first, bind_some, continued, second, bind_none]
      | some lower =>
        have later : Go.Hex.decodeChars rest = none := by
          cases tail : Go.Hex.decodeChars rest with
          | none => rfl
          | some bytes =>
            simp only [first, second, tail, bind_eq_bind, bind_some,
              Option.pure_def] at undecoded
            cases undecoded
        have half : rest.length % 2 = 0 := by
          simp only [length_cons] at even
          omega
        rw [continued, first, bind_some, continued, second, bind_some]
        exact ih half later _
  | case3 digit => exact absurd even one_ne_zero

/-- The bytes are those of the number the digits stand for. -/
theorem addressBytes_eq (digits : List Char) :
    addressBytes digits = bigEndian 20
      (if digits.length % 2 = 0 ∧ digits.length ≤ 40 then (continued 0 digits).getD 0 else 0) := by
  have zeros : bigEndian 20 0 = replicate 20 0 := by decide
  rw [addressBytes]
  cases decoded : Go.Hex.decodeChars digits with
  | none =>
    by_cases even : digits.length % 2 = 0
    · rw [continued_of_undecoded even decoded, getD_none, ite_self, zeros]
    · rw [if_neg fun both => even both.1, zeros]
  | some bytes =>
    have counted := even_of_decodeChars decoded
    have number : (continued 0 digits).getD 0 = ofBigEndian bytes := by
      rw [continued_of_decodeChars decoded, mul_zero, zero_add, getD_some]
    have small := ofBigEndian_lt bytes
    have exact := bigEndian_ofBigEndian bytes
    rw [number]
    show (if bytes.length = 20 then bytes
      else if bytes.length < 20 then replicate (20 - bytes.length) 0 ++ bytes
      else replicate 20 0) = _
    obtain less | twenty | more := lt_trichotomy bytes.length 20
    · have padded := bigEndian_add small (20 - bytes.length)
      rw [Nat.add_sub_cancel' (Nat.le_of_lt less), exact] at padded
      rw [if_neg (Nat.ne_of_lt less), if_pos less, if_pos (by omega), padded]
    · rw [if_pos twenty, if_pos (by omega), ← twenty, exact]
    · rw [if_neg (ne_of_gt more), if_neg (lt_asymm more), if_neg (by omega), zeros]

theorem continued_lt {number result : Nat} (continues : continued number digits = some result) :
    result < (number + 1) * 16 ^ digits.length := by
  induction digits generalizing number with
  | nil =>
    cases continues
    rw [length_nil, pow_zero, mul_one]
    exact lt_succ_self _
  | cons digit rest ih =>
    obtain ⟨value, digits, later⟩ := bind_eq_some_iff.mp continues
    have small := value_lt_sixteen digits
    refine (ih later).trans_le ?_
    rw [length_cons, pow_succ', ← mul_assoc]
    exact mul_le_mul_right _ (by omega)

theorem spelled_lt (text : String) : spelled text < 256 ^ 20 := by
  rw [spelled]
  split
  next short =>
    cases continues : continued 0 (trimStartMatches (lowercase text)) with
    | none => exact Nat.pow_pos (by decide)
    | some number =>
      have below := continued_lt continues
      have most : 16 ^ (trimStartMatches (lowercase text)).length ≤ 16 ^ 40 :=
        Nat.pow_le_pow_right (by decide) short.2
      rw [zero_add, one_mul] at below
      exact below.trans_le most
  · exact Nat.pow_pos (by decide)

theorem Tee.parseAddressBytes_eq (text : String) :
    parseAddressBytes text = bigEndian 20 (spelled text) :=
  addressBytes_eq _

theorem Tee.parseAddressBytes_inj {text other : String} :
    parseAddressBytes text = parseAddressBytes other ↔ spelled text = spelled other := by
  rw [parseAddressBytes_eq, parseAddressBytes_eq]
  constructor
  · intro same
    exact bigEndian_inj (spelled_lt text) (spelled_lt other) same
  · intro same
    rw [same]

end Spelling

section Roots

/-- `validate_unique_staker_addresses`, which names the first address that is there again. -/
def Tee.validateUniqueStakerAddresses (stakers : List StakerStake) : Except String Unit :=
  match firstDuplicate [] (stakers.map (·.address)) with
  | some address => .error s!"duplicate staker address: {address}"
  | none => .ok ()

variable (keccak : List UInt8 → Fixed 32)

def StakerStake.stakePreimage (staker : StakerStake) : List UInt8 :=
  parseAddressBytes staker.address ++
    (replicate 16 0 ++ bigEndian 16 staker.shares)

def StakerStake.delegationPreimage (staker : StakerStake) : List UInt8 :=
  parseAddressBytes staker.address ++ parseAddressBytes staker.delegatedTo

/-- The hashes of the stakers with shares. -/
def leaves (leaf : StakerStake → Fixed 32) (stakers : List StakerStake) :
    List (Fixed 32) :=
  (stakers.filter fun staker => staker.shares != 0).map leaf

/-- A root combines the hashes of the stakers with shares, each once, and no two of these stakers
leave it as it is without them. -/
structure Contained (leaf : StakerStake → Fixed 32)
    (computed : List StakerStake → Option (Fixed 32)) (stakers : List StakerStake) :
    Prop where
  root : computed stakers = some ((leaves leaf stakers).foldl Bytes.xor fun _ => 0)
  once : ∀ staker ∈ stakers, staker.shares ≠ 0 → (leaves leaf stakers).count (leaf staker) = 1
  apart : ∀ a b rest, stakers.Perm (a :: b :: rest) → a.shares ≠ 0 → b.shares ≠ 0 →
    computed stakers ≠ computed rest

/-- Stakers have different addresses in bytes, and both roots contain them. -/
structure Tee.Distinct (stakers : List StakerStake) : Prop where
  addresses : (stakers.map fun staker => parseAddressBytes staker.address).Nodup
  stakes : ∀ debugAssertions, Contained (fun staker => keccak staker.stakePreimage)
    (computeStakerRegistryRoot keccak debugAssertions) stakers
  delegations : ∀ debugAssertions, Contained (fun staker => keccak staker.delegationPreimage)
    (computeDelegationRegistryRoot keccak debugAssertions) stakers

/-- What the two roots hash of the stakers has hashes of its own. -/
def Collisionless (stakers : List StakerStake) : Prop :=
  ∀ a ∈ stakers, ∀ b ∈ stakers,
    (keccak a.stakePreimage = keccak b.stakePreimage → a.stakePreimage = b.stakePreimage) ∧
      (keccak a.delegationPreimage = keccak b.delegationPreimage →
        a.delegationPreimage = b.delegationPreimage)

variable {keccak}

theorem foldl_xor (hashes : List (Fixed 32)) (start hash : Fixed 32) :
    hashes.foldl Bytes.xor (Bytes.xor start hash) =
      Bytes.xor (hashes.foldl Bytes.xor start) hash := by
  induction hashes generalizing start with
  | nil => rfl
  | cons next rest ih =>
    rw [foldl_cons, foldl_cons, Bytes.xor_right_comm, ih]

theorem foldl_xor_perm {hashes other : List (Fixed 32)} (perm : hashes.Perm other)
    (start : Bytes.Fixed 32) : hashes.foldl Bytes.xor start = other.foldl Bytes.xor start := by
  have commutes : RightCommutative (xor : Fixed 32 → _) := ⟨xor_right_comm⟩
  exact perm.foldl_eq start

theorem foldl_xor_two {a b : Fixed 32} (rest : List (Fixed 32))
    (start : Fixed 32) :
    (a :: b :: rest).foldl Bytes.xor start = rest.foldl Bytes.xor start ↔ a = b := by
  rw [foldl_cons, foldl_cons, foldl_xor, foldl_xor]
  constructor
  · intro same
    have twice := congrArg (xor · b) same
    rw [xor_xor_self] at twice
    exact xor_right_inj.mp twice
  · rintro rfl
    exact xor_xor_self _ _

variable {stakers : List StakerStake}

variable {leaf : StakerStake → Fixed 32}

theorem mem_leaves {staker : StakerStake} (member : staker ∈ stakers) (staked : staker.shares ≠ 0) :
    leaf staker ∈ leaves leaf stakers :=
  mem_map_of_mem (mem_filter.mpr ⟨member, bne_iff_ne.mpr staked⟩)

theorem Contained.of_nodup {computed : List StakerStake → Option (Fixed 32)}
    (computes : ∀ list : List StakerStake, (list.map (·.address)).Nodup →
      computed list = some ((leaves leaf list).foldl Bytes.xor fun _ => 0))
    (texts : (stakers.map (·.address)).Nodup) (distinct : (leaves leaf stakers).Nodup) :
    Contained leaf computed stakers := by
  refine ⟨computes stakers texts, ?_, ?_⟩
  · intro staker member staked
    exact count_eq_one_of_mem distinct (mem_leaves member staked)
  · intro a b rest perm aStaked bStaked same
    have hashes : (leaves leaf stakers).Perm (leaf a :: leaf b :: leaves leaf rest) := by
      have aKept : (a.shares != 0) = true := bne_iff_ne.mpr aStaked
      have bKept : (b.shares != 0) = true := bne_iff_ne.mpr bStaked
      have mapped := (perm.filter fun staker => staker.shares != 0).map leaf
      rw [filter_cons, if_pos aKept, filter_cons, if_pos bKept] at mapped
      exact mapped
    have others : (rest.map (·.address)).Nodup := by
      have permuted := (perm.map (·.address)).nodup_iff.mp texts
      exact (nodup_cons.mp (nodup_cons.mp permuted).2).2
    rw [computes stakers texts, computes rest others] at same
    have equal := some.inj same
    rw [foldl_xor_perm hashes, foldl_xor_two] at equal
    have apart := (nodup_cons.mp (hashes.nodup_iff.mp distinct)).1
    exact apart (equal ▸ mem_cons_self)

section

variable (debugAssertions : Bool) (texts : (stakers.map (·.address)).Nodup)
include debugAssertions texts

theorem Tee.computeStakerRegistryRoot_eq_leaves :
    computeStakerRegistryRoot keccak debugAssertions stakers =
      some ((leaves (fun staker => keccak staker.stakePreimage) stakers).foldl Bytes.xor
        fun _ => 0) := by
  rw [computeStakerRegistryRoot, if_neg fun panics => panics.2 texts, xorRoot_eq, xorAll,
    leaves, foldl_map, foldl_map]
  rfl

theorem Tee.computeDelegationRegistryRoot_eq_leaves :
    computeDelegationRegistryRoot keccak debugAssertions stakers =
      some ((leaves (fun staker => keccak staker.delegationPreimage) stakers).foldl Bytes.xor
        fun _ => 0) := by
  rw [computeDelegationRegistryRoot, if_neg fun panics => panics.2 texts, xorAll,
    delegationPreimages, leaves, foldl_map, foldl_map]
  rfl

end

theorem Tee.validateUniqueStakerAddresses_eq_ok
    (accepted : validateUniqueStakerAddresses stakers = .ok ()) :
    (stakers.map (·.address)).Nodup := by
  unfold validateUniqueStakerAddresses at accepted
  split at accepted
  · cases accepted
  next none => exact (nodup_of_firstDuplicate none).1

theorem nodup_leaves
    (distinct : (stakers.map fun staker => parseAddressBytes staker.address).Nodup)
    (injective : ∀ a ∈ stakers, ∀ b ∈ stakers, leaf a = leaf b →
      parseAddressBytes a.address = parseAddressBytes b.address) :
    (leaves leaf stakers).Nodup := by
  refine Nodup.map_on ?_ ((Nodup.of_map _ distinct).filter _)
  intro a first b second same
  have aListed := mem_of_mem_filter first
  have bListed := mem_of_mem_filter second
  exact inj_on_of_nodup_map distinct aListed bListed (injective a aListed b bListed same)

theorem length_parseAddressBytes (text : String) : (parseAddressBytes text).length = 20 :=
  length_addressBytes _

theorem parseAddressBytes_eq_of_append {text other : String} {rest others : List UInt8}
    (same : parseAddressBytes text ++ rest = parseAddressBytes other ++ others) :
    parseAddressBytes text = parseAddressBytes other := by
  have lengths : (parseAddressBytes text).length = (parseAddressBytes other).length := by
    rw [length_parseAddressBytes, length_parseAddressBytes]
  exact append_inj_left same lengths

/-- Stakers that pass the check have different bytes for addresses, and the two roots contain
each of them, exactly if no two of their addresses spell one number in different texts. -/
theorem Tee.validated_distinct_iff (accepted : Tee.validateUniqueStakerAddresses stakers = .ok ())
    (collisionless : Collisionless keccak stakers) :
    Distinct keccak stakers ↔ ∀ a ∈ stakers, ∀ b ∈ stakers,
      spelled a.address = spelled b.address → a.address = b.address := by
  have texts := validateUniqueStakerAddresses_eq_ok accepted
  constructor
  · intro distinct a aListed b bListed same
    have bytes := parseAddressBytes_inj.mpr same
    exact congrArg _ (inj_on_of_nodup_map distinct.addresses aListed bListed bytes)
  · intro unlike
    have addresses :
        (stakers.map fun staker => parseAddressBytes staker.address).Nodup := by
      refine Nodup.map_on ?_ (Nodup.of_map _ texts)
      intro a aListed b bListed same
      have text := unlike a aListed b bListed (parseAddressBytes_inj.mp same)
      exact inj_on_of_nodup_map texts aListed bListed text
    refine ⟨addresses, fun debugAssertions => ?_, fun debugAssertions => ?_⟩
    · refine Contained.of_nodup ?_ texts (nodup_leaves addresses ?_)
      · exact fun list distinct => computeStakerRegistryRoot_eq_leaves debugAssertions distinct
      · intro a aListed b bListed same
        exact parseAddressBytes_eq_of_append ((collisionless a aListed b bListed).1 same)
    · refine Contained.of_nodup ?_ texts (nodup_leaves addresses ?_)
      · exact fun list distinct =>
          computeDelegationRegistryRoot_eq_leaves debugAssertions distinct
      · intro a aListed b bListed same
        exact parseAddressBytes_eq_of_append ((collisionless a aListed b bListed).2 same)

/-- Two stakers of the validator at `0xa`. -/
def twoStakers : List StakerStake :=
  [⟨"0x0000000000000000000000000000000000000007", 10 ^ 18,
      "0x000000000000000000000000000000000000000a"⟩,
    ⟨"0x0000000000000000000000000000000000000008", 5,
      "0x000000000000000000000000000000000000000a"⟩]

/-- Keccak-256 of what the two roots hash of them. -/
def twoStakersKeccak (bytes : List UInt8) : Fixed 32 :=
  let hash : Nat :=
    if bytes = bigEndian 20 7 ++ bigEndian 32 (10 ^ 18) then
      0x39d717bb4cfa75121dcd62380bf389bf4611a8c0658890f2a8ee4e14a7699baf
    else if bytes = bigEndian 20 8 ++ bigEndian 32 5 then
      0xf1084f4d08a939446d44b071b13efdeb412f82f016843039dcd03c9126b2fb5a
    else if bytes = bigEndian 20 7 ++ bigEndian 20 10 then
      0xd5ff980840e2ecd74d3f8e469eacbdf543d5d22bc2e69812dd947d40c0b79e8d
    else if bytes = bigEndian 20 8 ++ bigEndian 20 10 then
      0xb56c0ef5a0a5b605617b16215fd7c35b8cc2a48ad9c1282a0fc33c7620d47045
    else 0
  fun i => UInt8.ofNat (hash / 256 ^ (31 - i.val))

theorem Tee.validated_distinct_two : Tee.Distinct twoStakersKeccak twoStakers := by
  have collisionless : Collisionless twoStakersKeccak twoStakers := by
    unfold Collisionless
    decide +kernel
  exact (validated_distinct_iff rfl collisionless).mpr (by decide +kernel)

def capitals : StakerStake :=
  ⟨"0x00000000000000000000000000000000000000AB", 5, "0x000000000000000000000000000000000000000a"⟩

def smalls : StakerStake :=
  { capitals with address := "0x00000000000000000000000000000000000000ab" }

/-- The two records pass the check with the same bytes for addresses, and neither root tells them
from no record at all. -/
theorem Tee.bothCases_not_distinct :
    validateUniqueStakerAddresses [capitals, smalls] = .ok () ∧
      ∀ keccak, ¬Distinct keccak [capitals, smalls] ∧ ∀ debugAssertions,
        computeStakerRegistryRoot keccak debugAssertions [capitals, smalls] =
            computeStakerRegistryRoot keccak debugAssertions [] ∧
          computeDelegationRegistryRoot keccak debugAssertions [capitals, smalls] =
            computeDelegationRegistryRoot keccak debugAssertions [] := by
  have texts : ([capitals, smalls].map (·.address)).Nodup := by decide
  have empty : (([] : List StakerStake).map (·.address)).Nodup := nodup_nil
  have stake : capitals.stakePreimage = smalls.stakePreimage := by decide +kernel
  have delegation : capitals.delegationPreimage = smalls.delegationPreimage := by decide +kernel
  refine ⟨rfl, fun keccak => ⟨fun distinct => ?_, fun debugAssertions => ⟨?_, ?_⟩⟩⟩
  · exact absurd distinct.addresses (by decide +kernel)
  · rw [computeStakerRegistryRoot_eq_leaves debugAssertions texts,
      computeStakerRegistryRoot_eq_leaves debugAssertions empty]
    exact congrArg some ((foldl_xor_two [] _).mpr (congrArg keccak stake))
  · rw [computeDelegationRegistryRoot_eq_leaves debugAssertions texts,
      computeDelegationRegistryRoot_eq_leaves debugAssertions empty]
    exact congrArg some ((foldl_xor_two [] _).mpr (congrArg keccak delegation))

end Roots

end Vault
