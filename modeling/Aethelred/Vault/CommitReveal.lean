import Aethelred.Go.Hex
import Aethelred.Lib.Bytes

/- Ordering blocks by commit and reveal (`mev_protection.rs`). A commitment is the hash of the block
data and the nonce one behind the other, so that it binds their bytes and not the cut between
them. -/
namespace Vault

open Bytes List

structure Commitment where
  validator : String
  commitmentHash : String
  timestamp : UInt64

structure Reveal where
  validator : String
  blockData : String
  nonce : String
  timestamp : UInt64

structure ValidatedReveal where
  validator : String
  blockData : String
  orderingTimestamp : UInt64
  position : UInt32
  deriving DecidableEq

namespace MevProtection

def commitmentWord (blockData nonce : String) : List UInt8 :=
  ofText blockData ++ ofText nonce

section Processing

variable (sha256 : List UInt8 → Fixed 32)

def computeCommitmentHash (blockData nonce : String) : String :=
  Go.Hex.encodeToString (ofFn (sha256 (commitmentWord blockData nonce)))

def verifyCommitmentHash (blockData nonce expectedHash : String) : Bool :=
  computeCommitmentHash sha256 blockData nonce = expectedHash

variable (commitments : List Commitment)

def commitmentFor (validator : String) : Option Commitment :=
  commitments.reverse.find? (·.validator = validator)

def opensCommitment (reveal : Reveal) : Bool :=
  match commitmentFor commitments reveal.validator with
  | some commitment =>
    verifyCommitmentHash sha256 reveal.blockData reveal.nonce commitment.commitmentHash
  | none => false

def validated (reveal : Reveal) : ValidatedReveal where
  validator := reveal.validator
  blockData := reveal.blockData
  orderingTimestamp := reveal.timestamp
  position := 0

def processCommitReveal (reveals : List Reveal) : List ValidatedReveal × List String :=
  let validReveals := (reveals.filter (opensCommitment sha256 commitments)).map validated
  let invalid := (reveals.filter fun reveal => !opensCommitment sha256 commitments reveal).map
    (·.validator)
  let sorted := validReveals.insertionSort fun a b => a.orderingTimestamp ≤ b.orderingTimestamp
  (sorted.mapIdx fun i reveal => { reveal with position := UInt32.ofNat i }, invalid)

end Processing

structure Opening where
  blockData : String
  nonce : String

/-- What an ordering owes to what was committed to. -/
structure Fair (opening : String → Opening) (commitments : List Commitment)
    (blocks : List ValidatedReveal) : Prop where
  committed : ∀ block ∈ blocks, ∃ commitment ∈ commitments, commitment.validator = block.validator
  bound : ∀ block ∈ blocks, block.blockData = (opening block.validator).blockData
  once : (blocks.map (·.validator)).Nodup

section Ordering

variable (sha256 : List UInt8 → Fixed 32) (commitments : List Commitment)
  (reveals : List Reveal)

theorem processCommitReveal_perm :
    ((processCommitReveal sha256 commitments reveals).1.map
      fun block => (block.validator, block.blockData)).Perm
    ((reveals.filter (opensCommitment sha256 commitments)).map
      fun reveal => (reveal.validator, reveal.blockData)) := by
  have unplaced : ∀ blocks : List ValidatedReveal,
      (blocks.mapIdx fun i block => { block with position := UInt32.ofNat i }).map
        (fun block => (block.validator, block.blockData)) =
      blocks.map fun block => (block.validator, block.blockData) := by
    intro blocks
    apply ext_getElem
    · simp only [length_map, length_mapIdx]
    · intro i inside inside'
      simp only [getElem_map, getElem_mapIdx]
  rw [processCommitReveal, unplaced]
  refine ((perm_insertionSort _ _).map _).trans ?_
  rw [map_map]
  rfl

variable (opening : String → Opening)

/-- The commitments that can be opened at all are opened by what is taken to be committed to. -/
def Reads : Prop :=
  ∀ validator commitment, commitmentFor commitments validator = some commitment →
    ∀ blockData nonce, verifyCommitmentHash sha256 blockData nonce commitment.commitmentHash →
      verifyCommitmentHash sha256 (opening validator).blockData (opening validator).nonce
        commitment.commitmentHash

/-- The bytes that are hashed to order the reveals and to commit to the openings. -/
def words : Set (List UInt8) :=
  {word | (∃ reveal ∈ reveals, word = commitmentWord reveal.blockData reveal.nonce) ∨
    ∃ commitment ∈ commitments, word = commitmentWord (opening commitment.validator).blockData
      (opening commitment.validator).nonce}

variable {sha256 commitments reveals}

theorem exists_of_opensCommitment {reveal : Reveal}
    (opens : opensCommitment sha256 commitments reveal) :
    ∃ commitment ∈ commitments, commitment.validator = reveal.validator ∧
      commitmentFor commitments reveal.validator = some commitment ∧
      verifyCommitmentHash sha256 reveal.blockData reveal.nonce commitment.commitmentHash := by
  unfold opensCommitment at opens
  split at opens
  next commitment found =>
    refine ⟨commitment, mem_reverse.mp (mem_of_find?_eq_some found), ?_, found, opens⟩
    have own := find?_some (p := fun listed : Commitment =>
      decide (listed.validator = reveal.validator)) found
    exact of_decide_eq_true own
  next => contradiction

theorem commitmentWord_eq {opening : String → Opening} (reads : Reads sha256 commitments opening)
    (free : Set.InjOn sha256 (words commitments reveals opening)) {reveal : Reveal}
    (member : reveal ∈ reveals) (opens : opensCommitment sha256 commitments reveal) :
    commitmentWord reveal.blockData reveal.nonce = commitmentWord
      (opening reveal.validator).blockData (opening reveal.validator).nonce := by
  obtain ⟨commitment, listed, own, found, verified⟩ := exists_of_opensCommitment opens
  have read := of_decide_eq_true (reads _ _ found _ _ verified)
  have sameDigest := Go.Hex.encodeToString_injective ((of_decide_eq_true verified).trans read.symm)
  refine free (.inl ⟨reveal, member, rfl⟩) (.inr ⟨commitment, listed, ?_⟩)
    (ofFn_injective sameDigest)
  rw [own]

theorem blockData_eq_iff {blockData nonce blockData' nonce' : String}
    (same : commitmentWord blockData nonce = commitmentWord blockData' nonce') :
    blockData = blockData' ↔ (ofText nonce).length = (ofText nonce').length := by
  constructor
  · rintro rfl
    rw [append_cancel_left (show ofText blockData ++ _ = ofText blockData ++ _ from
      same)]
  · intro long
    exact ofText_injective (append_inj_left' same long)

/-- The blocks are what was committed to, one of each validator, exactly if the reveals that open
a commitment cut its bytes where they were cut and no validator has two of them; another cut of the
same bytes opens the commitment just as well. -/
theorem processCommitReveal_fair_iff (reads : Reads sha256 commitments opening)
    (free : Set.InjOn sha256 (words commitments reveals opening)) :
    (Fair opening commitments (processCommitReveal sha256 commitments reveals).1 ↔
      (∀ reveal ∈ reveals, opensCommitment sha256 commitments reveal →
        (ofText reveal.nonce).length =
          (ofText (opening reveal.validator).nonce).length) ∧
      ((reveals.filter (opensCommitment sha256 commitments)).map (·.validator)).Nodup) ∧
    ∀ (reveal : Reveal) (blockData nonce : String), opensCommitment sha256 commitments reveal →
      commitmentWord blockData nonce = commitmentWord reveal.blockData reveal.nonce →
        opensCommitment sha256 commitments { reveal with blockData, nonce } := by
  have blocks := processCommitReveal_perm sha256 commitments reveals
  have validators := blocks.map Prod.fst
  rw [map_map, map_map] at validators
  constructor
  · constructor
    · intro fair
      refine ⟨fun reveal member opens => ?_, validators.nodup_iff.mp fair.once⟩
      have placed := blocks.mem_iff.mpr
        (mem_map_of_mem (mem_filter.mpr ⟨member, opens⟩))
      obtain ⟨block, ordered, same⟩ := mem_map.mp placed
      obtain ⟨sameValidator, sameData⟩ := Prod.ext_iff.mp same
      have bound := fair.bound block ordered
      dsimp only at sameValidator sameData
      rw [sameData, sameValidator] at bound
      exact (blockData_eq_iff (commitmentWord_eq reads free member opens)).mp bound
    · rintro ⟨cuts, once⟩
      have revealed : ∀ block ∈ (processCommitReveal sha256 commitments reveals).1,
          ∃ reveal ∈ reveals, opensCommitment sha256 commitments reveal ∧
            reveal.validator = block.validator ∧ reveal.blockData = block.blockData := by
        intro block ordered
        obtain ⟨reveal, member, same⟩ := mem_map.mp
          (blocks.mem_iff.mp (mem_map_of_mem ordered))
        obtain ⟨given, opens⟩ := mem_filter.mp member
        exact ⟨reveal, given, opens, (Prod.ext_iff.mp same).1, (Prod.ext_iff.mp same).2⟩
      refine ⟨fun block ordered => ?_, fun block ordered => ?_, validators.nodup_iff.mpr once⟩
      · obtain ⟨reveal, -, opens, sameValidator, -⟩ := revealed block ordered
        obtain ⟨commitment, listed, own, -, -⟩ := exists_of_opensCommitment opens
        exact ⟨commitment, listed, own.trans sameValidator⟩
      · obtain ⟨reveal, member, opens, sameValidator, sameData⟩ := revealed block ordered
        rw [← sameData, ← sameValidator]
        exact (blockData_eq_iff (commitmentWord_eq reads free member opens)).mpr
          (cuts reveal member opens)
  · intro reveal blockData nonce opens same
    have sameHash : computeCommitmentHash sha256 blockData nonce =
        computeCommitmentHash sha256 reveal.blockData reveal.nonce := by
      rw [computeCommitmentHash, same, computeCommitmentHash]
    simp only [opensCommitment, verifyCommitmentHash] at opens ⊢
    simpa only [sameHash] using opens

end Ordering

/-- SHA-256 of "pay 107", "pay 209" and "pay 219". -/
def sampleDigests : List (List UInt8 × Nat) :=
  [([49, 48], 0xdd9fd7e391755754c9619af796ff27b343859901ac1669294443884f103bf96a),
    ([50, 48], 0x21f5fc95853cac769ddaad443cef37e89b4d813e89e6d06a7db991c30d45f750),
    ([50, 49], 0xac871fe504c6c0df2a7d754de1aef065690d9bc1ab27dfda5beb270676faee60)]

def sampleHash (data : List UInt8) : Fixed 32 := fun i =>
  .ofNat ((sampleDigests.lookup [data.getD 4 0, data.getD 5 0]).getD 0 / 256 ^ (31 - i.val))

def sampleOpening (validator : String) : Opening :=
  if validator = "v1" then ⟨"pay 10", "7"⟩ else ⟨"pay 20", "9"⟩

def sampleCommitments : List Commitment :=
  ["v1", "v2"].map fun validator => ⟨validator, computeCommitmentHash sampleHash
    (sampleOpening validator).blockData (sampleOpening validator).nonce, 1⟩

theorem sampleOpening_reads : Reads sampleHash sampleCommitments sampleOpening := by
  intro validator commitment found blockData nonce verified
  have own : ∀ commitment ∈ sampleCommitments, verifyCommitmentHash sampleHash
      (sampleOpening commitment.validator).blockData (sampleOpening commitment.validator).nonce
      commitment.commitmentHash := by decide +kernel
  have named := find?_some (p := fun listed : Commitment =>
    decide (listed.validator = validator)) found
  rw [← of_decide_eq_true named]
  exact own commitment (mem_reverse.mp (mem_of_find?_eq_some found))

/-- The last one opens no commitment. -/
def sampleReveals : List Reveal :=
  [⟨"v1", "pay 10", "7", 3⟩, ⟨"v2", "pay 20", "9", 2⟩, ⟨"v2", "pay 21", "9", 2⟩]

theorem processCommitReveal_fair_sample :
    processCommitReveal sampleHash sampleCommitments sampleReveals =
        ([⟨"v2", "pay 20", 2, 0⟩, ⟨"v1", "pay 10", 3, 1⟩], ["v2"]) ∧
      Fair sampleOpening sampleCommitments
        (processCommitReveal sampleHash sampleCommitments sampleReveals).1 := by
  refine ⟨by decide +kernel, (processCommitReveal_fair_iff _ sampleOpening_reads ?_).1.mpr
    (by decide +kernel)⟩
  have listed : ∀ word ∈ words sampleCommitments sampleReveals sampleOpening,
      word ∈ sampleReveals.map fun reveal => commitmentWord reveal.blockData reveal.nonce := by
    rintro word (⟨reveal, member, rfl⟩ | ⟨commitment, member, rfl⟩)
    · exact mem_map_of_mem member
    · revert commitment
      decide +kernel
  have apart : ∀ word ∈ sampleReveals.map fun reveal =>
        commitmentWord reveal.blockData reveal.nonce,
      ∀ word' ∈ sampleReveals.map fun reveal => commitmentWord reveal.blockData reveal.nonce,
        sampleHash word = sampleHash word' → word = word' := by decide +kernel
  exact fun word member word' member' => apart word (listed word member) word' (listed word' member')

/-- The committed bytes revealed twice, the second time with the nonce as a part of the block. -/
theorem processCommitReveal_other_cut :
    (processCommitReveal sampleHash sampleCommitments
        [⟨"v1", "pay 10", "7", 2⟩, ⟨"v1", "pay 107", "", 2⟩]).1 =
      [⟨"v1", "pay 10", 2, 0⟩, ⟨"v1", "pay 107", 2, 1⟩] ∧
    ¬Fair sampleOpening sampleCommitments (processCommitReveal sampleHash sampleCommitments
      [⟨"v1", "pay 10", "7", 2⟩, ⟨"v1", "pay 107", "", 2⟩]).1 := by
  have ordered : (processCommitReveal sampleHash sampleCommitments
      [⟨"v1", "pay 10", "7", 2⟩, ⟨"v1", "pay 107", "", 2⟩]).1 =
      [⟨"v1", "pay 10", 2, 0⟩, ⟨"v1", "pay 107", 2, 1⟩] := by decide +kernel
  refine ⟨ordered, fun fair => ?_⟩
  rw [ordered] at fair
  exact absurd fair.once (by decide)

end MevProtection

end Vault
