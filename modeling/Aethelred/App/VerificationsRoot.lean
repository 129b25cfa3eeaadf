import Aethelred.App.VoteExtension
import Aethelred.Lib.HashTree

/- The tree over the verifications of an extension, and what its root says about them. -/
namespace Aethelred.App

open Go HashTree Bytes List

abbrev Digest := Fixed 32

namespace ComputeVerification

variable (v : ComputeVerification)

def joined : Bytes × Bool :=
  (v.jobID ++ v.modelHash ++ v.inputHash ++ v.outputHash, v.success)

/-- Where the joined bytes are divided. -/
def widths : Nat × Nat × Nat × Nat :=
  (v.jobID.length, v.modelHash.length, v.inputHash.length, v.outputHash.length)

def bound : Bytes × Bytes × Bytes × Bytes × Bool :=
  (v.jobID, v.modelHash, v.inputHash, v.outputHash, v.success)

def leafWord : Bytes :=
  [0] ++ ofText "verification:" ++ v.jobID ++ v.modelHash ++ v.inputHash ++ v.outputHash ++
    [v.success.toUInt8]

end ComputeVerification

variable (sha256 : Bytes → Digest)

def computeVerificationHash (v : ComputeVerification) : Digest :=
  sha256 v.leafWord

def emptyWord : Bytes := ofText "empty_verifications"

def merkleScheme : Scheme Bytes Digest where
  hash := sha256
  nodeWord left right := [1] ++ ofFn left ++ ofFn right

variable (verifications : List ComputeVerification)

def computeVerificationsMerkleRoot : Digest :=
  if verifications = [] then sha256 emptyWord
  else (collapse (merkleScheme sha256).join
    (verifications.map (computeVerificationHash sha256))).headD (sha256 emptyWord)

def bottomWords : List Bytes :=
  if verifications = [] then [emptyWord] else verifications.map ComputeVerification.leafWord

def hashedWords : List Bytes := (merkleScheme sha256).words (bottomWords verifications)

/-- No two strings that are hashed for one of the roots have the same digest. -/
def CollisionFree (verifications verifications' : List ComputeVerification) : Prop :=
  Set.InjOn sha256 {word | word ∈ hashedWords sha256 verifications ∨
    word ∈ hashedWords sha256 verifications'}

variable {sha256 : Bytes → Digest} {verifications verifications' : List ComputeVerification}

theorem bottomWords_ne_nil : bottomWords verifications ≠ [] := by
  unfold bottomWords
  split
  · exact cons_ne_nil _ _
  · rename_i some
    exact fun none => some (map_eq_nil_iff.mp none)

theorem collapse_bottomWords :
    collapse (merkleScheme sha256).join ((bottomWords verifications).map sha256) =
      [computeVerificationsMerkleRoot sha256 verifications] := by
  have single : (collapse (merkleScheme sha256).join
      ((bottomWords verifications).map sha256)).length = 1 := by
    apply length_collapse
    intro none
    exact bottomWords_ne_nil (map_eq_nil_iff.mp none)
  unfold computeVerificationsMerkleRoot bottomWords at *
  split
  · rw [if_pos ‹_›] at *
    rw [collapse, if_neg (by simp)]
    rfl
  · rw [if_neg ‹_›] at *
    rw [map_map] at single ⊢
    obtain ⟨root, built⟩ := length_eq_one_iff.mp single
    rw [built, show computeVerificationHash sha256 = sha256 ∘ ComputeVerification.leafWord from rfl,
      built]
    rfl

theorem nodeWord_inj (a b c d : Digest)
    (same : (merkleScheme sha256).nodeWord a b = (merkleScheme sha256).nodeWord c d) :
    a = c ∧ b = d := by
  simp only [merkleScheme, append_assoc] at same
  obtain ⟨lefts, rights⟩ := Code.separates_ofFn _ _ _ _ (append_cancel_left same)
  exact ⟨lefts, ofFn_injective rights⟩

theorem bottomWord_ne_nodeWord {word : Bytes} (member : word ∈ bottomWords verifications)
    (a b : Digest) : word ≠ (merkleScheme sha256).nodeWord a b := by
  intro same
  have marks := congrArg head? same
  rw [show ((merkleScheme sha256).nodeWord a b).head? = some 1 from rfl] at marks
  unfold bottomWords at member
  split at member
  · rw [mem_singleton.mp member] at marks
    exact absurd marks (by decide)
  · obtain ⟨v, _, rfl⟩ := mem_map.mp member
    rw [show v.leafWord.head? = some 0 from rfl] at marks
    exact absurd marks (by decide)

theorem leafWord_eq (v : ComputeVerification) :
    v.leafWord = [0] ++ ofText "verification:" ++ (v.joined.1 ++ [v.joined.2.toUInt8]) := by
  simp only [ComputeVerification.leafWord, ComputeVerification.joined, append_assoc]

theorem leafWord_eq_iff {v v' : ComputeVerification} :
    v.leafWord = v'.leafWord ↔ v.joined = v'.joined := by
  rw [leafWord_eq, leafWord_eq]
  constructor
  · intro same
    obtain ⟨front, last⟩ := append_inj' (append_cancel_left same) rfl
    refine Prod.ext front ?_
    cases success : v.joined.2 <;> cases success' : v'.joined.2 <;>
      first | rfl | (rw [success, success'] at last; cases last)
  · intro same
    rw [same]

theorem map_leafWord_eq_iff :
    verifications.map ComputeVerification.leafWord =
        verifications'.map ComputeVerification.leafWord ↔
      verifications.map ComputeVerification.joined =
        verifications'.map ComputeVerification.joined := by
  induction verifications generalizing verifications' with
  | nil => cases verifications' <;> simp
  | cons v rest ih =>
    cases verifications' with
    | nil => simp
    | cons v' rest' => simp only [map_cons, cons.injEq, leafWord_eq_iff, ih]

/-- The lowest hashed words are those of the joined entries. -/
theorem bottomWords_eq_iff :
    bottomWords verifications = bottomWords verifications' ↔
      verifications.map ComputeVerification.joined =
        verifications'.map ComputeVerification.joined := by
  have differ (v : ComputeVerification) (rest : List Bytes) : [emptyWord] ≠ v.leafWord :: rest := by
    intro same
    have marks := congrArg head? (cons.inj same).1
    rw [show v.leafWord.head? = some 0 from rfl] at marks
    exact absurd marks (by decide)
  cases verifications with
  | nil =>
    cases verifications' with
    | nil => simp
    | cons v' rest' =>
      simp only [bottomWords, ↓reduceIte, map_cons, map_nil, reduceCtorEq, iff_false]
      exact differ v' _
  | cons v rest =>
    cases verifications' with
    | nil =>
      simp only [bottomWords, ↓reduceIte, map_cons, map_nil, reduceCtorEq, iff_false]
      exact fun same => differ v _ same.symm
    | cons v' rest' =>
      simp only [bottomWords, reduceCtorEq, ↓reduceIte]
      exact map_leafWord_eq_iff

theorem root_eq_iff (free : CollisionFree sha256 verifications verifications') :
    computeVerificationsMerkleRoot sha256 verifications =
        computeVerificationsMerkleRoot sha256 verifications' ↔
      verifications.map ComputeVerification.joined =
        verifications'.map ComputeVerification.joined := by
  rw [← bottomWords_eq_iff]
  constructor
  · intro same
    apply leaves_eq_of_collapse_eq (merkleScheme sha256) bottomWords_ne_nil bottomWords_ne_nil
      nodeWord_inj (fun word member => bottomWord_ne_nodeWord member)
      (fun word member => bottomWord_ne_nodeWord member) free
    show collapse (merkleScheme sha256).join ((bottomWords verifications).map sha256) =
      collapse (merkleScheme sha256).join ((bottomWords verifications').map sha256)
    rw [collapse_bottomWords, collapse_bottomWords, same]
  · intro same
    apply singleton_inj.mp
    rw [← collapse_bottomWords, ← collapse_bottomWords, same]

theorem bound_eq_iff {v v' : ComputeVerification} :
    v.bound = v'.bound ↔ v.joined = v'.joined ∧ v.widths = v'.widths := by
  simp only [ComputeVerification.bound, ComputeVerification.joined, ComputeVerification.widths,
    Prod.mk.injEq]
  constructor
  · rintro ⟨jobs, models, inputs, outputs, successes⟩
    rw [jobs, models, inputs, outputs, successes]
    exact ⟨⟨rfl, rfl⟩, rfl, rfl, rfl, rfl⟩
  · rintro ⟨⟨bytes, successes⟩, jobs, models, inputs, outputs⟩
    obtain ⟨bytes, lastPart⟩ := append_inj' bytes outputs
    obtain ⟨bytes, inputPart⟩ := append_inj' bytes inputs
    obtain ⟨jobPart, modelPart⟩ := append_inj' bytes models
    exact ⟨jobPart, modelPart, inputPart, lastPart, successes⟩

theorem map_bound_eq_iff :
    verifications.map ComputeVerification.bound = verifications'.map ComputeVerification.bound ↔
      verifications.map ComputeVerification.joined =
          verifications'.map ComputeVerification.joined ∧
        verifications.map ComputeVerification.widths =
          verifications'.map ComputeVerification.widths := by
  induction verifications generalizing verifications' with
  | nil => cases verifications' <;> simp
  | cons v rest ih =>
    cases verifications' with
    | nil => simp
    | cons v' rest' =>
      simp only [map_cons, cons.injEq, bound_eq_iff, ih]
      exact and_and_and_comm

/-- A root binds the identifiers, the hashes and the outcomes exactly when joined bytes that are
the same are divided at the same places. -/
theorem root_binds_iff (free : CollisionFree sha256 verifications verifications') :
    (computeVerificationsMerkleRoot sha256 verifications =
        computeVerificationsMerkleRoot sha256 verifications' →
      verifications.map ComputeVerification.bound =
        verifications'.map ComputeVerification.bound) ↔
    (verifications.map ComputeVerification.joined =
        verifications'.map ComputeVerification.joined →
      verifications.map ComputeVerification.widths =
        verifications'.map ComputeVerification.widths) := by
  rw [root_eq_iff free, map_bound_eq_iff]
  constructor
  · intro binds same
    exact (binds same).2
  · intro alike same
    exact ⟨same, alike same⟩

def ambiguousVerification (job input : Bytes) : ComputeVerification where
  jobID := job
  modelHash := replicate 32 98
  inputHash := input
  outputHash := replicate 32 99
  attestationType := attestationTypeZKML
  teeAttestation := none
  zkProof := some {
    proofSystem := ofText "ezkl"
    proof := replicate 128 0
    publicInputs := replicate 32 99
    verifyingKeyHash := replicate 32 0
    circuitHash := []
    proofSize := ⟨128, by decide⟩ }
  executionTimeMs := ⟨1, .one⟩
  success := true
  errorCode := []
  errorMessage := []
  nonce := replicate 32 0

/-- SHA-256 of the words below, by their byte 14. -/
def sampleDigests : List (UInt8 × Nat) :=
  [(0x61, 0xb9e15fc8b3ffd27b61737d924e77f7b29cc5fde022fc7e07adbb5ca6307207d9),
    (0x62, 0x01066ba15b8d7ef92d5d26e9042d047f6f5f6e0d592ca9a7af45d3476c37b993),
    (0x63, 0x1e3c8a6a83214aba789fe000a9c964cc10389e99b6a7cc0c7ae1283f3128dd5d),
    (0x77, 0x86c8e96d45178b7960360e129b5bc08a72255ad80054852c86ff1902cd7df68c),
    (0x5b, 0xcb52a7e07660318239400602072a4ba629bffdf88a097fcf9f6e34b5c948a1f1),
    (0xc9, 0x867f114b6d60aa5e41f636993e3eea756a7b7cbb9f5a3bca47bf8e515a8e9d91),
    (0x3e, 0xa6272cdfc56b3d01bfed0ce4128f2bd3942b78fd4f44ee61146a0c38316f47f9)]

def sampleDigest (word : Bytes) : Digest := fun place =>
  .ofNat ((sampleDigests.lookup (word.getD 14 0)).getD 0 / 256 ^ (31 - place.val))

theorem hashedWords_singleton (v : ComputeVerification) :
    hashedWords sha256 [v] = [v.leafWord] := by
  rw [hashedWords, Scheme.words, Scheme.upperWords]
  simp [bottomWords]

theorem hashedWords_three (v v' v'' : ComputeVerification) :
    hashedWords sha256 [v, v', v''] =
      [v.leafWord, v'.leafWord, v''.leafWord,
        (merkleScheme sha256).nodeWord (sha256 v.leafWord) (sha256 v'.leafWord),
        (merkleScheme sha256).nodeWord
          ((merkleScheme sha256).join (sha256 v.leafWord) (sha256 v'.leafWord))
          (sha256 v''.leafWord)] := by
  rw [hashedWords, Scheme.words]
  iterate 3 rw [Scheme.upperWords]
  rfl

/-- Job `a` with the input `b` and job `ab` without one pass the strict check and have one root. -/
theorem job_id_runs_into_model_hash :
    let platform : VerificationPlatform := ⟨fun _ => [], fun _ => false⟩
    let one := ambiguousVerification [97] [98]
    let other := ambiguousVerification [97, 98] []
    one.validate platform .strict = .ok () ∧ other.validate platform .strict = .ok () ∧
      CollisionFree sampleDigest [one] [other] ∧
      computeVerificationsMerkleRoot sampleDigest [one] =
        computeVerificationsMerkleRoot sampleDigest [other] ∧
      one.jobID ≠ other.jobID := by
  intro platform one other
  have words : one.leafWord = other.leafWord := by decide
  have free : CollisionFree sampleDigest [one] [other] := by
    unfold CollisionFree
    rw [hashedWords_singleton, hashedWords_singleton, words]
    intro word member word' member' _
    simp only [mem_singleton, or_self, Set.mem_ofPred_eq] at member member'
    rw [member, member']
  refine ⟨by decide, by decide, free, ?_, by decide⟩
  exact (root_eq_iff free).mpr (by decide)

/-- Three verifications in another order have another root. -/
theorem root_binds_three :
    let one := ambiguousVerification [97] [98]
    let two := ambiguousVerification [98] [98]
    let three := ambiguousVerification [99] [98]
    computeVerificationsMerkleRoot sampleDigest [one, two, three] ≠
      computeVerificationsMerkleRoot sampleDigest [three, one, two] := by
  intro one two three same
  have free : CollisionFree sampleDigest [one, two, three] [three, one, two] := by
    have apart : ∀ word ∈ hashedWords sampleDigest [one, two, three] ++
          hashedWords sampleDigest [three, one, two],
        ∀ word' ∈ hashedWords sampleDigest [one, two, three] ++
            hashedWords sampleDigest [three, one, two],
          sampleDigest word = sampleDigest word' → word = word' := by
      rw [hashedWords_three, hashedWords_three]
      decide +kernel
    intro word member word' member'
    exact apart word (mem_append.mpr member) word' (mem_append.mpr member')
  exact absurd ((root_binds_iff free).mpr (fun _ => rfl) same) (by decide)

end Aethelred.App
