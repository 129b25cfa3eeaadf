import Aethelred.Vault.CalculateRewards

/- Inclusion proofs of reward allocations. A level with an odd number of digests moves its last
one up without a partner, so that the proofs of one tree may differ in length; folded over its leaf
with each pair in order, every one of them ends at the root. -/
namespace Vault.RewardCalculator

open Bytes List

variable (sha256 : List UInt8 → Fixed 32)

theorem hashSorted_comm (a b : Fixed 32) : hashSorted sha256 a b = hashSorted sha256 b a := by
  unfold hashSorted
  split
  next before =>
    split
    next after => rw [List.ofFn_injective (List.le_antisymm before after)]
    next => rfl
  next before =>
    rw [if_pos ((List.le_total _ _).resolve_left before)]

def rootOf (tree : List (List (Fixed 32))) : Fixed 32 :=
  ((tree.getLast?.getD []).head?).getD fun _ => 0

theorem layers_eq_cons (size : Nat) (current : List (Fixed 32)) :
    ∃ above, layers sha256 size current = current :: above := by
  fun_cases layers sha256 size current with
  | case1 size many => exact ⟨_, rfl⟩
  | case2 size few => exact ⟨_, rfl⟩
  | case3 => exact ⟨_, rfl⟩

/-- A proof folded over the digest at its index, by induction on the layers: one layer up, the
digest joined with its sibling is at half the index. -/
theorem foldl_generateProof (size : Nat) (current : List (Fixed 32))
    (bounded : current.length ≤ size + 1) (index : Nat) (inside : index < current.length) :
    (generateProof (layers sha256 size current) index).foldl (hashSorted sha256) current[index] =
      rootOf (layers sha256 size current) := by
  fun_induction layers sha256 size current generalizing index with
  | case1 size current many ih =>
    have shorter := HashTree.length_pairUp (hashSorted sha256) current
    have halved : index / 2 < (HashTree.pairUp (hashSorted sha256) current).length := by omega
    have joined := HashTree.getElem?_pairUp (hashSorted sha256) (hashSorted_comm sha256) current
      index inside
    rw [getElem?_eq_getElem halved, Option.some_inj] at joined
    have upper := ih (by omega) (index / 2) halved
    obtain ⟨above, built⟩ :=
      layers_eq_cons sha256 size (HashTree.pairUp (hashSorted sha256) current)
    rw [built] at upper ⊢
    rw [generateProof, foldl_append, ← joined, upper, rootOf, rootOf, getLast?_cons_cons]
  | case2 size current few =>
    obtain rfl : index = 0 := by omega
    obtain ⟨last, rfl⟩ := length_eq_one_iff.mp (show current.length = 1 by omega)
    rfl
  | case3 current =>
    obtain rfl : index = 0 := by omega
    obtain ⟨last, rfl⟩ := length_eq_one_iff.mp (show current.length = 1 by omega)
    rfl

/-- The proof of every allocation, folded over its leaf, gives the root that is returned. -/
theorem buildMerkleTree_proves (allocations : List RewardAllocation) (epoch : UInt64) (index : Nat)
    (inside : index < allocations.length) :
    let proof := generateProof
      (layers sha256 allocations.length (allocations.map (leafHash sha256 epoch))) index
    let leaf := leafHash sha256 epoch allocations[index]
    (buildMerkleTree sha256 allocations epoch).1 =
        hexText (proof.foldl (hashSorted sha256) leaf) ∧
      (buildMerkleTree sha256 allocations epoch).2[index]? = some {
        address := allocations[index].address
        amount := allocations[index].totalReward
        proof := proof.map hexText
        leaf := hexText leaf } := by
  have nonempty : allocations ≠ [] := ne_nil_of_length_pos (Nat.zero_lt_of_lt inside)
  have within : index < (allocations.map (leafHash sha256 epoch)).length := by
    rwa [length_map]
  have folded := foldl_generateProof sha256 allocations.length
    (allocations.map (leafHash sha256 epoch)) (by simp) index within
  rw [getElem_map] at folded
  dsimp only
  rw [buildMerkleTree, if_neg nonempty, folded]
  dsimp only
  rw [length_map, getElem?_mapIdx, getElem?_eq_getElem inside]
  exact ⟨rfl, rfl⟩

def sampleAllocation (address : String) (totalReward : U128) : RewardAllocation where
  address := address
  baseReward := totalReward
  performanceBonus := 0
  mevShare := 0
  totalReward := totalReward

/-- The last of three allocations, whose proof is one digest shorter than the others. -/
theorem buildMerkleTree_proves_third :
    let sha256 := fun data : List UInt8 => fun i : Fin 32 => data.sum + .ofNat i
    let allocations := [sampleAllocation "a1" 5, sampleAllocation "a2" 7, sampleAllocation "a3" 9]
    let tree := layers sha256 3 (allocations.map (leafHash sha256 4))
    (buildMerkleTree sha256 allocations 4).1 = hexText
      ((generateProof tree 2).foldl (hashSorted sha256) (leafHash sha256 4 (sampleAllocation "a3" 9))) :=
  (buildMerkleTree_proves _ _ 4 2 (by decide)).1

end Vault.RewardCalculator
