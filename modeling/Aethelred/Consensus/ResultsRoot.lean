import Aethelred.Consensus.Election
import Aethelred.Go.Hex
import Aethelred.Lib.Code
import Aethelred.Lib.HashTree

/- The root over the compute results of a block (`pouw/consensus.rs`). An odd level is filled up
with its last hash, so that some lists share a root; those have different lengths, and the header
has the number of jobs. -/
namespace Consensus

open Go HashTree Bytes List

abbrev Hash := Fixed 32

/-- `traits::VerificationMethod`, with its discriminants. -/
inductive ResultMethod
  | TeeAttestation | ZkProof | Hybrid | ReExecution
  deriving DecidableEq

def ResultMethod.toByte : ResultMethod → UInt8
  | .TeeAttestation => 0
  | .ZkProof => 1
  | .Hybrid => 2
  | .ReExecution => 3

structure ComputeResult where
  jobId : Hash
  modelHash : Hash
  outputHash : Hash
  complexity : UInt64
  verificationMethod : ResultMethod
  validator : Address

structure PoUWBlockHeader where
  computeJobCount : UInt32
  computeComplexity : UInt64
  computeResultsRoot : Hash

inductive ComputeError
  | ComputeValidation (reason : String)
  | ValidatorNotFound (address : Address)
  deriving DecidableEq

namespace ComputeResult

def leafData (result : ComputeResult) : Hash × Hash × UInt64 × ResultMethod :=
  (result.jobId, result.outputHash, result.complexity, result.verificationMethod)

def leafWord (result : ComputeResult) : Bytes :=
  ofFn result.jobId ++ ofFn result.outputHash ++
    littleEndian 8 result.complexity.toNat ++ [result.verificationMethod.toByte]

end ComputeResult

section Root

variable (sha256 : Bytes → Hash)

def resultScheme : Scheme Bytes Hash where
  hash := sha256
  nodeWord left right := ofFn left ++ ofFn right

variable (results : List ComputeResult)

/-- No results have the root of 32 zeros. -/
def computeResultsMerkleRoot : Hash :=
  (condense (resultScheme sha256).join
    (results.map fun result => sha256 result.leafWord)).headD fun _ => 0

def validateSingleResult (validators : Map Address ValidatorInfo) (result : ComputeResult) :
    Except ComputeError Unit :=
  if result.jobId = fun _ => 0 then .error (.ComputeValidation "Invalid job ID (all zeros)")
  else if result.modelHash = fun _ => 0 then
    .error (.ComputeValidation "Invalid model hash (all zeros)")
  else if result.complexity = 0 then .error (.ComputeValidation "Complexity cannot be zero")
  else if (validators.lookup result.validator).isNone then
    .error (.ValidatorNotFound result.validator)
  else .ok ()

def validateComputeResults (validators : Map Address ValidatorInfo) (header : PoUWBlockHeader)
    (results : List ComputeResult) : Except ComputeError Unit :=
  let totalComplexity := (results.map (·.complexity)).sum
  if results.length ≠ header.computeJobCount.toNat then
    .error (.ComputeValidation
      s!"Job count mismatch: header says {header.computeJobCount}, got {results.length}")
  else if totalComplexity ≠ header.computeComplexity then
    .error (.ComputeValidation
      s!"Complexity mismatch: header says {header.computeComplexity}, computed {totalComplexity}")
  else if computeResultsMerkleRoot sha256 results ≠ header.computeResultsRoot then
    .error (.ComputeValidation "Compute results root mismatch")
  else results.forM (validateSingleResult validators)

def resultTree : Option (HashTree.Tree Bytes) :=
  (condense .node (results.map fun result => .leaf result.leafWord)).head?

def hashedResults : List Bytes :=
  (resultTree results).elim [] (Tree.words (resultScheme sha256))

/-- Results with one root have the same data at each position. -/
def Commits (results results' : List ComputeResult) : Prop :=
  computeResultsMerkleRoot sha256 results = computeResultsMerkleRoot sha256 results' →
    results.map ComputeResult.leafData = results'.map ComputeResult.leafData

end Root

section Commitment

variable {sha256 : Bytes → Hash} {results results' : List ComputeResult}

theorem length_leafWord (result : ComputeResult) : result.leafWord.length = 73 := by
  simp only [ComputeResult.leafWord, length_append, length_ofFn,
    length_littleEndian, length_singleton]

theorem leafData_of_leafWord {result result' : ComputeResult}
    (same : result.leafWord = result'.leafWord) : result.leafData = result'.leafData := by
  have injective : Function.Injective ResultMethod.toByte := by
    intro method method' equal
    cases method <;> cases method' <;> first | rfl | exact absurd equal (by decide)
  simp only [ComputeResult.leafWord, append_assoc] at same
  obtain ⟨jobs, same⟩ := Code.separates_ofFn _ _ _ _ same
  obtain ⟨outputs, same⟩ := Code.separates_ofFn _ _ _ _ same
  obtain ⟨complexities, same⟩ := Code.separates_littleEndian result.complexity.toNat_lt
    result'.complexity.toNat_lt _ _ same
  have methods := injective (singleton_inj.mp same)
  simp only [ComputeResult.leafData, jobs, outputs, methods, UInt64.toNat_inj.mp complexities]

theorem leafData_prefix
    (first : results.map ComputeResult.leafWord <+: results'.map ComputeResult.leafWord) :
    results.map ComputeResult.leafData <+: results'.map ComputeResult.leafData := by
  induction results generalizing results' with
  | nil => exact nil_prefix
  | cons result rest ih =>
    cases results' with
    | nil => exact absurd (prefix_nil.mp first) (cons_ne_nil _ _)
    | cons result' rest' =>
      simp only [map_cons, cons_prefix_cons] at first ⊢
      exact ⟨leafData_of_leafWord first.1, ih first.2⟩

variable (sha256) in
theorem exists_resultTree (nonempty : results ≠ []) :
    ∃ tree, resultTree results = some tree ∧
      tree.root (resultScheme sha256) = computeResultsMerkleRoot sha256 results ∧
      results.map ComputeResult.leafWord <+: tree.leaves ∧
      ∀ word ∈ tree.leaves, word.length = 73 := by
  have leaves : (results.map fun result => Tree.leaf result.leafWord).flatMap Tree.leaves =
      results.map ComputeResult.leafWord := by
    rw [flatMap_map]
    exact map_eq_flatMap.symm
  have kept := leaves_condense (results.map fun result => Tree.leaf result.leafWord)
  have roots := map_condense (resultScheme sha256)
    (results.map fun result => Tree.leaf result.leafWord)
  have bottom : (results.map fun result => Tree.leaf result.leafWord) ≠ [] := by
    simpa using nonempty
  obtain ⟨tree, built⟩ := length_eq_one_iff.mp (length_condense HashTree.Tree.node bottom)
  rw [leaves, built, flatMap_singleton] at kept
  rw [built, map_map] at roots
  refine ⟨tree, by rw [resultTree, built]; rfl, ?_, kept.1, fun word member => ?_⟩
  · exact congrArg (headD · fun _ => 0) roots
  · obtain ⟨result, -, rfl⟩ := mem_map.mp (kept.2 word member)
    exact length_leafWord result

/-- Of two lists with one root, one begins with the other. -/
theorem prefix_of_root_eq (free : Set.InjOn sha256 {word | word ∈ hashedResults sha256 results ∨
      word ∈ hashedResults sha256 results'})
    (same : computeResultsMerkleRoot sha256 results = computeResultsMerkleRoot sha256 results') :
    results.map ComputeResult.leafData <+: results'.map ComputeResult.leafData ∨
      results'.map ComputeResult.leafData <+: results.map ComputeResult.leafData := by
  by_cases empty : results = []
  · exact .inl (empty ▸ nil_prefix)
  by_cases empty' : results' = []
  · exact .inr (empty' ▸ nil_prefix)
  obtain ⟨tree, built, root, first, sized⟩ := exists_resultTree sha256 empty
  obtain ⟨tree', built', root', first', sized'⟩ := exists_resultTree sha256 empty'
  have inner (word : Bytes) (left right : Hash) (length : word.length = 73) :
      word ≠ (resultScheme sha256).nodeWord left right := by
    rintro rfl
    simp [resultScheme] at length
  have equal : tree = tree' := by
    refine Tree.eq_of_root_eq (resultScheme sha256) (fun a b c d pair => ?_)
      (fun word member a b => inner word a b (sized word member))
      (fun word member a b => inner word a b (sized' word member)) ?_
      (root.trans (same.trans root'.symm))
    · obtain ⟨lefts, rights⟩ := Code.separates_ofFn _ _ _ _ pair
      exact ⟨lefts, ofFn_injective rights⟩
    · rw [hashedResults, hashedResults, built, built'] at free
      exact free
  subst equal
  exact (List.prefix_or_prefix_of_prefix first first').imp leafData_prefix leafData_prefix

theorem validateComputeResults_eq_ok {validators : Map Address ValidatorInfo}
    {header : PoUWBlockHeader}
    (accepted : validateComputeResults sha256 validators header results = .ok ()) :
    results.length = header.computeJobCount.toNat ∧
      computeResultsMerkleRoot sha256 results = header.computeResultsRoot := by
  unfold validateComputeResults at accepted
  dsimp only at accepted
  split at accepted
  · cases accepted
  split at accepted
  · cases accepted
  split at accepted
  · cases accepted
  exact ⟨not_not.mp ‹_›, not_not.mp ‹_›⟩

/-- Of two lists with one root, one begins with the other, and where the header has the number of
jobs, no other list with other data is accepted. -/
theorem results_root_commits (results results' : List ComputeResult)
    (free : Set.InjOn sha256 {word | word ∈ hashedResults sha256 results ∨
      word ∈ hashedResults sha256 results'}) :
    (results.length = results'.length → Commits sha256 results results') ∧
      (computeResultsMerkleRoot sha256 results = computeResultsMerkleRoot sha256 results' →
        results.map ComputeResult.leafData <+: results'.map ComputeResult.leafData ∨
        results'.map ComputeResult.leafData <+: results.map ComputeResult.leafData) ∧
      ∀ validators header, validateComputeResults sha256 validators header results = .ok () →
        validateComputeResults sha256 validators header results' = .ok () →
        results.map ComputeResult.leafData = results'.map ComputeResult.leafData := by
  have commits : results.length = results'.length → Commits sha256 results results' := by
    intro length same
    obtain first | second := prefix_of_root_eq free same
    · exact first.eq_of_length (by simp [length])
    · exact (second.eq_of_length (by simp [length])).symm
  refine ⟨commits, prefix_of_root_eq free, fun validators header accepted accepted' => ?_⟩
  obtain ⟨length, root⟩ := validateComputeResults_eq_ok accepted
  obtain ⟨length', root'⟩ := validateComputeResults_eq_ok accepted'
  exact commits (length.trans length'.symm) (root.trans root'.symm)

end Commitment

def sampleResult (job : UInt8) : ComputeResult where
  jobId i := if i = 0 then job else 0
  modelHash _ := 1
  outputHash _ := 0
  complexity := 1
  verificationMethod := .TeeAttestation
  validator := 1

/-- SHA-256 of the words below, which differ in their first byte or in the one behind the first
hash. -/
def sampleDigests : List (List UInt8 × Nat) :=
  [([1, 0], 0x10d28a8444052f72ab8b35f36be98aa3c91bdfb208080f23789bdba94556b334),
    ([2, 0], 0x73e35e016382a2e6c4be90e53015b0799a37bf5b83d1a638f4c7c8cf08850c47),
    ([3, 0], 0x6ad70182b076b9dabedf32ea5824a43a0d08b5cb955f60857047d5a512fec8d8),
    ([4, 0], 0xb42a6b814ee7e6732f018e74800027b3cda34313df10adce8df31a6ec37d55f2),
    ([0x10, 0x73], 0xd27f0788b9dbeee8f07b9e6acb208c1d373ffecef716f037a5238b5cc7f7eab1),
    ([0x6a, 0x6a], 0x5f67c053e0d3d8d759aa84aca7070d3102a359fae27ae5e3306d23e689ca4954),
    ([0xb4, 0xb4], 0xd790ca5cbfe30896154f9191b4057c0576363674822f3b047f3df59018a13814),
    ([0xd2, 0x5f], 0xee92e1ba2a1de19fd9057ef96702425c483c80212f8f31ae76afd8aa1cd02ad1),
    ([0xd2, 0xd7], 0xaa4dcde21a1f5600f64e5df371a0043305cd84dbf81724926529d487c6e9c27f)]

def sampleSha256 (word : Bytes) : Hash := fun i =>
  .ofNat ((sampleDigests.lookup [word.getD 0 0, word.getD 32 0]).getD 0 / 256 ^ (31 - i.val))

def sampleTree (last : UInt8) : HashTree.Tree Bytes :=
  .node (.node (.leaf (sampleResult 1).leafWord) (.leaf (sampleResult 2).leafWord))
    (.node (.leaf (sampleResult last).leafWord) (.leaf (sampleResult last).leafWord))

theorem resultTree_sample (last : UInt8) :
    resultTree [sampleResult 1, sampleResult 2, sampleResult last] = some (sampleTree last) := by
  simp only [resultTree, map_cons, map_nil]
  iterate 3 rw [condense]
  rfl

/-- Jobs 1, 2 and 3 against jobs 1, 2 and 4: the last of each stands twice on the odd level. -/
theorem results_root_commits_sample :
    computeResultsMerkleRoot sampleSha256 [sampleResult 1, sampleResult 2, sampleResult 3] ≠
      computeResultsMerkleRoot sampleSha256 [sampleResult 1, sampleResult 2, sampleResult 4] := by
  have apart : ∀ word ∈ (sampleTree 3).words (resultScheme sampleSha256) ++
        (sampleTree 4).words (resultScheme sampleSha256),
      ∀ word' ∈ (sampleTree 3).words (resultScheme sampleSha256) ++
          (sampleTree 4).words (resultScheme sampleSha256),
        sampleSha256 word = sampleSha256 word' → word = word' := by decide +kernel
  intro same
  have equal := (results_root_commits [sampleResult 1, sampleResult 2, sampleResult 3]
    [sampleResult 1, sampleResult 2, sampleResult 4] ?_).1 rfl same
  · revert equal
    decide +kernel
  · rw [hashedResults, hashedResults, resultTree_sample, resultTree_sample]
    intro word member word' member'
    exact apart word (mem_append.mpr member) word' (mem_append.mpr member')

/-- The last of three results appended once more. -/
theorem appended_copy_shares_root :
    Set.InjOn sampleSha256
        {word |
          word ∈ hashedResults sampleSha256 [sampleResult 1, sampleResult 2, sampleResult 3] ∨
          word ∈ hashedResults sampleSha256
            [sampleResult 1, sampleResult 2, sampleResult 3, sampleResult 3]} ∧
      ¬Commits sampleSha256 [sampleResult 1, sampleResult 2, sampleResult 3]
        [sampleResult 1, sampleResult 2, sampleResult 3, sampleResult 3] := by
  have four : resultTree [sampleResult 1, sampleResult 2, sampleResult 3, sampleResult 3] =
      some (sampleTree 3) := by
    simp only [resultTree, map_cons, map_nil]
    iterate 3 rw [condense]
    rfl
  refine ⟨?_, fun commits => ?_⟩
  · rw [hashedResults, hashedResults, resultTree_sample, four]
    have apart : ∀ word ∈ (sampleTree 3).words (resultScheme sampleSha256),
        ∀ word' ∈ (sampleTree 3).words (resultScheme sampleSha256),
          sampleSha256 word = sampleSha256 word' → word = word' := by decide +kernel
    intro word member word' member'
    exact apart word (or_self_iff.mp member) word' (or_self_iff.mp member')
  · refine absurd (congrArg length (commits ?_)) (by decide)
    obtain ⟨tree, built, root, -⟩ := exists_resultTree sampleSha256
      (cons_ne_nil (sampleResult 1) [sampleResult 2, sampleResult 3])
    obtain ⟨tree', built', root', -⟩ := exists_resultTree sampleSha256
      (cons_ne_nil (sampleResult 1) [sampleResult 2, sampleResult 3, sampleResult 3])
    rw [← root, ← root', Option.some.inj (built.symm.trans (resultTree_sample 3)),
      Option.some.inj (built'.symm.trans four)]

end Consensus
