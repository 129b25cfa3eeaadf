import Aethelred.Contracts.StAethel
import Aethelred.Go.Hex

/- The staker registry root as the TEE server (`server.rs`) and the keeper (`keeper.go`) compute it
from a list of stakers, and its agreement with the accumulator of the share token. -/
namespace Vault

open Evm Accumulator Function Bytes List

/-- `types.rs`. -/
structure StakerStake where
  address : String
  shares : Fin (2 ^ 128)
  delegatedTo : String

/-- `stakerStakeEntry` of the keeper. -/
structure StakerStakeEntry where
  address : String
  shares : UInt64
  delegatedTo : String

variable (addr : String)

def lowercase : List Char := addr.toList.map Char.toLower

/-- The 20 bytes that hexadecimal digits stand for, with zeros before them if they are fewer, and
all zeros if they are more or no digits. -/
def addressBytes (digits : List Char) : List UInt8 :=
  match Go.Hex.decodeChars digits with
  | some bytes =>
    if bytes.length = 20 then bytes
    else if bytes.length < 20 then replicate (20 - bytes.length) 0 ++ bytes
    else replicate 20 0
  | none => replicate 20 0

/-- `trim_start_matches("0x")`, which trims as often as it can. -/
def trimStartMatches : List Char → List Char
  | '0' :: 'x' :: rest => trimStartMatches rest
  | chars => chars

/-- `strings.TrimPrefix(_, "0x")`. -/
def trimHead : List Char → List Char
  | '0' :: 'x' :: rest => rest
  | chars => chars

def Tee.parseAddressBytes : List UInt8 :=
  addressBytes (trimStartMatches (lowercase addr))

def Keeper.parseAddressBytes : List UInt8 := addressBytes (trimHead (lowercase addr))

variable (account : Address)

def hexDigits : List Char := Go.Hex.encodeChars (bigEndian 20 account)

/-- A text is the address in hexadecimal digits of either case, with `0x` before them or not. -/
def Spells (text : String) (account : Address) : Prop :=
  lowercase text = hexDigits account ∨ lowercase text = '0' :: 'x' :: hexDigits account

theorem address_lt : account.val < 256 ^ 20 := account.isLt

theorem addressBytes_hexDigits : addressBytes (hexDigits account) = bigEndian 20 account := by
  rw [addressBytes, hexDigits, Go.Hex.decodeChars_encodeChars]
  exact if_pos (length_bigEndian 20 _)

theorem digit_ne_x {n : Nat} (small : n < 16) : Go.Hex.digit n ≠ 'x' := by
  have every : ∀ m : Fin 16, Go.Hex.digit m ≠ 'x' := by decide
  exact every ⟨n, small⟩

theorem trim_encodeChars (bytes : List UInt8) :
    trimStartMatches (Go.Hex.encodeChars bytes) = Go.Hex.encodeChars bytes ∧
      trimHead (Go.Hex.encodeChars bytes) = Go.Hex.encodeChars bytes := by
  cases bytes with
  | nil => exact ⟨rfl, rfl⟩
  | cons byte rest =>
    have second : Go.Hex.digit (byte.toNat % 16) ≠ 'x' := digit_ne_x (Nat.mod_lt _ (by decide))
    constructor
    · simp only [Go.Hex.encodeChars]
      unfold trimStartMatches
      split
      next begins => exact absurd (cons.inj (cons.inj begins).2).1 second
      · rfl
    · simp only [Go.Hex.encodeChars]
      unfold trimHead
      split
      next begins => exact absurd (cons.inj (cons.inj begins).2).1 second
      · rfl

variable {text : String}

theorem Spells.tee {account : Address} (spells : Spells text account) :
    Tee.parseAddressBytes text = bigEndian 20 account := by
  have digits := (trim_encodeChars (bigEndian 20 account)).1
  rw [Tee.parseAddressBytes]
  obtain plain | prefixed := spells
  · rw [plain, hexDigits, digits]
    exact addressBytes_hexDigits account
  · rw [prefixed, trimStartMatches, hexDigits, digits]
    exact addressBytes_hexDigits account

theorem Spells.keeper {account : Address} (spells : Spells text account) :
    Keeper.parseAddressBytes text = bigEndian 20 account := by
  have digits := (trim_encodeChars (bigEndian 20 account)).2
  rw [Keeper.parseAddressBytes]
  obtain plain | prefixed := spells
  · rw [plain, hexDigits, digits]
    exact addressBytes_hexDigits account
  · rw [prefixed, trimHead]
    exact addressBytes_hexDigits account

theorem Spells.unique {account other : Address} (spells : Spells text account)
    (too : Spells text other) : account = other :=
  Fin.ext (bigEndian_inj (address_lt account) (address_lt other)
    (spells.tee.symm.trans too.tee))

section Roots

variable (keccak : List UInt8 → Fixed 32)

/-- The loop of both sides: the hash of each staker with shares is combined with the rest. -/
def xorRoot {ι : Type} (skipped : ι → Bool) (preimage : ι → List UInt8) (items : List ι) :
    Fixed 32 :=
  items.foldl (fun accumulator item =>
    if skipped item then accumulator else xor accumulator (keccak (preimage item)))
    fun _ => 0

/-- `compute_staker_registry_root`; a build with debug assertions panics on an address that is
there twice. -/
def Tee.computeStakerRegistryRoot (debugAssertions : Bool) (stakers : List StakerStake) :
    Option (Fixed 32) :=
  if debugAssertions = true ∧ ¬(stakers.map (·.address)).Nodup then none
  else some (xorRoot keccak (fun staker => staker.shares == 0)
    (fun staker => Tee.parseAddressBytes staker.address ++
      (replicate 16 0 ++ bigEndian 16 staker.shares)) stakers)

/-- `big.Int.Bytes`: no zeros before the number. -/
def minimalBytes (shares : UInt64) : List UInt8 :=
  (bigEndian 8 shares.toNat).dropWhile (· = 0)

def Keeper.computeStakerRegistryRoot (entries : List StakerStakeEntry) : Fixed 32 :=
  xorRoot keccak (fun entry => entry.shares == 0)
    (fun entry => Keeper.parseAddressBytes entry.address ++
      (replicate (32 - (minimalBytes entry.shares).length) 0 ++ minimalBytes entry.shares))
    entries

/-- `keccak256(abi.encodePacked(account, shares))`, the hash of the share token. -/
def packedKeccak : List Nat → Bytes32
  | [account, shares] =>
    word (keccak (bigEndian 20 account ++ bigEndian 32 shares))
  | words => word (keccak (words.flatMap (bigEndian 32)))

variable {keccak}

theorem bigEndian_u128 (shares : Fin (2 ^ 128)) :
    replicate 16 0 ++ bigEndian 16 shares = bigEndian 32 shares.val :=
  (bigEndian_add (show shares.val < 256 ^ 16 from shares.isLt) 16).symm

theorem bigEndian_u64 (shares : UInt64) :
    replicate (32 - (minimalBytes shares).length) 0 ++ minimalBytes shares =
      bigEndian 32 shares.toNat := by
  have fits : shares.toNat < 256 ^ 8 := shares.toNat_lt
  have eight := replicate_append_dropWhile (bigEndian 8 shares.toNat)
  have short : (minimalBytes shares).length ≤ 8 := by
    have shorter := (dropWhile_sublist (l := bigEndian 8 shares.toNat) (· = 0)).length_le
    rwa [length_bigEndian] at shorter
  rw [length_bigEndian] at eight
  rw [show 32 = 8 + 24 from rfl, bigEndian_add fits, ← eight, ← append_assoc,
    replicate_append_replicate]
  congr 2
  exact Nat.add_sub_assoc short 24

theorem word_xorRoot {ι : Type} {skipped : ι → Bool} {preimage : ι → List UInt8}
    {shares : Address → Nat} {items : List ι} {accounts : List Address}
    (same : Forall₂ (fun item account => (skipped item = true ↔ shares account = 0) ∧
      preimage item = bigEndian 20 account ++ bigEndian 32 (shares account))
      items accounts) :
    word (xorRoot keccak skipped preimage items) =
      accounts.foldl (fun acc account => xorWord acc
        (StAethel.Storage.entry (packedKeccak keccak) account (shares account))) 0 := by
  have zero : word (fun _ => 0) = 0 := rfl
  rw [xorRoot, ← zero]
  generalize (fun _ => 0 : Fixed 32) = start
  induction same generalizing start with
  | nil => rfl
  | @cons item account items accounts head tail ih =>
    obtain ⟨skip, bytes⟩ := head
    rw [foldl_cons, foldl_cons, ih]
    congr 1
    by_cases none : shares account = 0
    · rw [if_pos (skip.mpr none), StAethel.Storage.entry, if_pos none]
      exact (Std.LawfulRightIdentity.right_id (word start)).symm
    · rw [if_neg (mt skip.mp none), StAethel.Storage.entry, if_neg none, word_xor, bytes]
      rfl

theorem exists_of_mem {ι κ : Type} {names : ι → κ → Prop} {items : List ι} {accounts : List κ}
    (same : Forall₂ names items accounts) {item : ι} (member : item ∈ items) :
    ∃ account ∈ accounts, names item account := by
  induction same with
  | nil => exact nomatch member
  | @cons first account items accounts head tail ih =>
    obtain rfl | later := mem_cons.mp member
    · exact ⟨account, mem_cons_self, head⟩
    · obtain ⟨other, there, named⟩ := ih later
      exact ⟨other, mem_cons_of_mem _ there, named⟩

theorem nodup_of_forall₂ {ι κ : Type} {names : ι → κ → Prop}
    (unique : ∀ text account other, names text account → names text other → account = other)
    {items : List ι} {accounts : List κ} (same : Forall₂ names items accounts)
    (distinct : accounts.Nodup) : items.Nodup := by
  induction same with
  | nil => exact nodup_nil
  | @cons item account items accounts head tail ih =>
    obtain ⟨absent, distinct⟩ := nodup_cons.mp distinct
    refine nodup_cons.mpr ⟨fun member => absent ?_, ih distinct⟩
    obtain ⟨other, there, named⟩ := exists_of_mem tail member
    exact unique _ _ _ head named ▸ there

/-- The stakers of the TEE server's list are these accounts with their shares. -/
def Tee.Lists (token : StAethel.Storage) (stakers : List StakerStake) (accounts : List Address) :
    Prop :=
  Forall₂ (fun staker account =>
    Spells staker.address account ∧ staker.shares.val = token.shares account) stakers accounts

/-- The entries of the keeper's list are these accounts with their shares. -/
def Keeper.Lists (token : StAethel.Storage) (entries : List StakerStakeEntry)
    (accounts : List Address) : Prop :=
  Forall₂ (fun entry account =>
    Spells entry.address account ∧ entry.shares.toNat = token.shares account) entries accounts

section Agreement

variable {token : StAethel.Storage} {accounts : List Address}

section

variable (registered : StAethel.Registered (packedKeccak keccak) token)
include registered

section

variable (distinct : accounts.Nodup)
  (all : ∀ account, 0 < token.shares account → account ∈ accounts)
include distinct all

theorem word_xorRoot_eq
    {ι : Type} {skipped : ι → Bool} {preimage : ι → List UInt8} {items : List ι}
    (same : Forall₂ (fun item account => (skipped item = true ↔ token.shares account = 0) ∧
      preimage item = bigEndian 20 account ++ bigEndian 32 (token.shares account))
      items accounts) :
    word (xorRoot keccak skipped preimage items) = token.stakerRegistryRoot := by
  have neutral : ∀ account, account ∉ accounts → StAethel.Storage.entry (packedKeccak keccak) account
      (token.shares account) = 0 := by
    intro account absent
    exact if_pos (Nat.eq_zero_of_not_pos (mt (all account) absent))
  rw [word_xorRoot same, registered.root]
  exact foldl_eq_accumulate distinct neutral

theorem Tee.computeStakerRegistryRoot_eq (debugAssertions : Bool)
    {stakers : List StakerStake} (lists : Tee.Lists token stakers accounts) :
    ∃ root, Tee.computeStakerRegistryRoot keccak debugAssertions stakers = some root ∧
      word root = token.stakerRegistryRoot := by
  have texts : (stakers.map (·.address)).Nodup := by
    have spelled : Forall₂ Spells (stakers.map (·.address)) accounts :=
      forall₂_map_left_iff.mpr (lists.imp fun _ _ both => both.1)
    refine nodup_of_forall₂ ?_ spelled distinct
    exact fun _ _ _ first second => first.unique second
  refine ⟨_, if_neg fun panics => panics.2 texts, word_xorRoot_eq registered distinct all ?_⟩
  refine Forall₂.imp ?_ lists
  rintro staker account ⟨spells, shares⟩
  rw [spells.tee, bigEndian_u128, shares, beq_iff_eq, ← shares]
  exact ⟨Fin.ext_iff, rfl⟩

theorem Keeper.word_computeStakerRegistryRoot
    {entries : List StakerStakeEntry} (lists : Keeper.Lists token entries accounts) :
    word (Keeper.computeStakerRegistryRoot keccak entries) = token.stakerRegistryRoot := by
  refine word_xorRoot_eq registered distinct all (Forall₂.imp ?_ lists)
  rintro entry account ⟨spells, shares⟩
  rw [spells.keeper, bigEndian_u64, shares, beq_iff_eq, ← shares]
  exact ⟨UInt64.toNat_inj.symm, rfl⟩

end

end

/-- In every state of the share token the total is the sum of all shares and the root is that of
the holders, so other ways to the same shares have the same root, and both lists lead to it. -/
theorem registry_root (keccak : List UInt8 → Fixed 32) {admin upgrader vault : Address}
    {start : StAethel.Storage}
    (initialized : StAethel.initializeStAethel admin upgrader vault = .ok start)
    (calls : List (Address × StAethel.Call)) :
    let token := StAethel.run (packedKeccak keccak) start calls
    token.totalShares = total id token.shares ∧
      token.stakerRegistryRoot = token.registryRoot (packedKeccak keccak) ∧
      (∀ admin upgrader vault start calls,
        StAethel.initializeStAethel admin upgrader vault = .ok start →
        (StAethel.run (packedKeccak keccak) start calls).shares = token.shares →
        (StAethel.run (packedKeccak keccak) start calls).stakerRegistryRoot =
          token.stakerRegistryRoot) ∧
      (∀ account, token.shares account < 2 ^ 128) ∧
      ∀ accounts : List Address, accounts.Nodup →
        (∀ account, 0 < token.shares account → account ∈ accounts) →
        (∀ debugAssertions stakers, Tee.Lists token stakers accounts →
          ∃ root, Tee.computeStakerRegistryRoot keccak debugAssertions stakers = some root ∧
            word root = token.stakerRegistryRoot) ∧
        ∀ entries, Keeper.Lists token entries accounts →
          word (Keeper.computeStakerRegistryRoot keccak entries) =
            token.stakerRegistryRoot := by
  intro token
  have registered : StAethel.Registered (packedKeccak keccak) token :=
    StAethel.registered_run initialized calls
  refine ⟨registered.sum, registered.registryRoot, ?_, ?_, ?_⟩
  · intro admin upgrader vault start calls initialized same
    have other : StAethel.Registered (packedKeccak keccak)
        (StAethel.run (packedKeccak keccak) start calls) :=
      StAethel.registered_run initialized calls
    rw [other.root, registered.root, same]
  · intro account
    have capped := (registered.shares_le account).trans registered.bounded
    exact capped.trans_lt (by decide)
  · intro accounts distinct all
    exact ⟨fun debugAssertions _ lists =>
        Tee.computeStakerRegistryRoot_eq registered distinct all debugAssertions lists,
      fun _ lists => Keeper.word_computeStakerRegistryRoot registered distinct all lists⟩

/-- Keccak-256 of the accounts with the shares that the sample run gives them. -/
def sampleDigest (bytes : List UInt8) : Nat :=
  if bytes = bigEndian 20 7 ++ bigEndian 32 (10 ^ 18) then
    0x39d717bb4cfa75121dcd62380bf389bf4611a8c0658890f2a8ee4e14a7699baf
  else if bytes = bigEndian 20 8 ++ bigEndian 32 (2 * 10 ^ 18) then
    0xa3bf2ab4b2e1b112c49e400940f34c0aef5295489e69db5cff8a24f990ad4a39
  else if bytes = bigEndian 20 7 ++ bigEndian 32 (6 * 10 ^ 17) then
    0xe615bec9340e439e201c69b1aa5f0365d591ef345b193f0ba64272309e4067e2
  else if bytes = bigEndian 20 8 ++ bigEndian 32 (24 * 10 ^ 17) then
    0x1b9f074aa963e3f65d951aa7327e9cd888b3c21caeaf6be810d23a55cf071314
  else 0

def sampleKeccak (bytes : List UInt8) : Fixed 32 := fun i =>
  UInt8.ofNat (sampleDigest bytes / 256 ^ (31 - i.val))

/-- A share token of the vault at 0xc. -/
def sampleToken : StAethel.Storage :=
  ((StAethel.initializeStAethel 0xa 0xa 0xc).toOption).getD StAethel.Storage.blank

/-- Shares for accounts 7 and 8, of which the first then transfers some to the second. -/
def sampleShares : List (Address × StAethel.Call) :=
  [(0xc, .mintShares 7 (10 ^ 18)), (0xc, .mintShares 8 (2 * 10 ^ 18)),
    (0xc, .setTotalPooledAethel (6 * 10 ^ 18)), (7, .transfer 8 (8 * 10 ^ 17))]

theorem registry_root_sample :
    word (Keeper.computeStakerRegistryRoot sampleKeccak
        [⟨"0x0000000000000000000000000000000000000008", 24 * 10 ^ 17, "validator"⟩,
          ⟨"0x0000000000000000000000000000000000000007", 6 * 10 ^ 17, "validator"⟩]) =
      (StAethel.run (packedKeccak sampleKeccak) sampleToken sampleShares).stakerRegistryRoot := by
  have initialized : StAethel.initializeStAethel 0xa 0xa 0xc = .ok sampleToken := rfl
  have moved : (StAethel.run (packedKeccak sampleKeccak) sampleToken sampleShares).shares =
      update (update (update (update (fun _ => 0) 7 (10 ^ 18)) 8 (2 * 10 ^ 18)) 7 (6 * 10 ^ 17)) 8
        (24 * 10 ^ 17) := rfl
  obtain ⟨-, -, -, -, roots⟩ := registry_root sampleKeccak initialized sampleShares
  refine (roots [8, 7] (by decide) ?_).2 _ (.cons ⟨?_, ?_⟩ (.cons ⟨?_, ?_⟩ .nil))
  · intro account holds
    rw [moved] at holds
    by_contra absent
    obtain ⟨eight, seven⟩ := not_or.mp fun either => absent (by simpa using either)
    rw [update_of_ne eight, update_of_ne seven, update_of_ne eight, update_of_ne seven] at holds
    exact Nat.lt_irrefl 0 holds
  · exact .inr (by decide)
  · rw [moved]
    rfl
  · exact .inr (by decide)
  · rw [moved]
    rfl

end Agreement

end Roots

end Vault
