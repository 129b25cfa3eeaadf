import Aethelred.Lib.Apportion
import Aethelred.Lib.HashTree
import Aethelred.Vault.MulDiv
import Aethelred.Vault.StakingCalls

/- `calculate_rewards` (`reward_calculator.rs`): the rewards of an epoch shared out by weighted
stake, and the tree over the shares. -/
namespace Vault

open Bytes List

structure CalculateRewardsRequest where
  epoch : UInt64
  totalRewards : U128
  mevRevenue : U128
  validators : List ScoredValidator
  stakerStakes : List StakerStake

structure RewardAllocation where
  address : String
  baseReward : U128
  performanceBonus : U128
  mevShare : U128
  totalReward : U128

structure MerkleProofEntry where
  address : String
  amount : U128
  proof : List String
  leaf : String

structure AttestationDocument where
  platform : UInt8 := 255
  timestamp : UInt64 := 0
  nonce : String := ""
  enclaveHash : String := ""
  signerHash : String := ""
  payloadHash : String := ""
  platformEvidence : String := ""
  signature : String := ""

structure CalculateRewardsResponse where
  epoch : UInt64
  allocations : List RewardAllocation
  totalDistributed : U128
  protocolFee : U128
  merkleRoot : String
  merkleProofs : List MerkleProofEntry
  attestation : AttestationDocument
  stakeSnapshotHash : String
  validatorSetHash : String

namespace RewardCalculator

section Tree

variable (sha256 : List UInt8 → Fixed 32)

def hashPair (left right : Fixed 32) : Fixed 32 :=
  sha256 (ofFn left ++ ofFn right)

def hashSorted (a b : Fixed 32) : Fixed 32 :=
  if ofFn a ≤ ofFn b then hashPair sha256 a b else hashPair sha256 b a

def sha256AbiEncode (address : String) (amount : U128) (epoch : UInt64) : Fixed 32 :=
  sha256 (Tee.addressToBytes32 sha256 address ++
    (replicate 16 0 ++ bigEndian 16 amount) ++
    (replicate 24 0 ++ bigEndian 8 epoch.toNat))

def leafHash (epoch : UInt64) (allocation : RewardAllocation) : Fixed 32 :=
  sha256 (ofFn (sha256AbiEncode sha256 allocation.address allocation.totalReward epoch))

/-- The layers from the leaves to the root, where `size` bounds the number of digests. -/
def layers : (size : Nat) → List (Fixed 32) → List (List (Fixed 32))
  | size + 1, current =>
    if 1 < current.length then
      current :: layers size (HashTree.pairUp (hashSorted sha256) current)
    else [current]
  | 0, current => [current]

/-- `generate_proof`: the sibling on every layer but the last, where there is one. -/
def generateProof : List (List (Fixed 32)) → Nat → List (Fixed 32)
  | layer :: next :: rest, index =>
    let siblingIndex := if index % 2 = 0 then index + 1 else index - 1
    layer[siblingIndex]?.toList ++ generateProof (next :: rest) (index / 2)
  | _, _ => []

def hexText (digest : Fixed 32) : String := "0x" ++ Go.Hex.encodeToString (ofFn digest)

def buildMerkleTree (allocations : List RewardAllocation) (epoch : UInt64) :
    String × List MerkleProofEntry :=
  if allocations = [] then ("0x" ++ String.ofList (replicate 64 '0'), [])
  else
    let leaves := allocations.map (leafHash sha256 epoch)
    let tree := layers sha256 leaves.length leaves
    let root := ((tree.getLast?.getD []).head?).getD fun _ => 0
    let proofs := allocations.mapIdx fun index allocation => {
      address := allocation.address
      amount := allocation.totalReward
      proof := (generateProof tree index).map hexText
      leaf := hexText (leafHash sha256 epoch allocation) }
    (hexText root, proofs)

end Tree

def protocolFeeBps : U128 := 500

def mevStakerShareBps : U128 := 9000

def bpsDenominator : U128 := 10000

def bonusBps : U128 := 1000

/-- How a call ends without a response: it refuses the request or panics. -/
inductive Failure where
  | refused (reason : String)
  | panicked
  | overAllocated (totalDistributed distributable : U128)
  deriving DecidableEq

/-- A step that has no result panics. -/
def orPanic {α : Type} : Option α → Except Failure α
  | some value => .ok value
  | none => .error .panicked

def validatorScores (validators : List ScoredValidator) (address : String) : Option UInt32 :=
  (validators.reverse.find? (·.address = address)).map (·.performanceScore)

def undelegated (validators : List ScoredValidator) : List StakerStake → Option String
  | [] => none
  | staker :: rest =>
    if staker.delegatedTo = "" then
      some (s!"staker {staker.address} has empty delegated_to: " ++
        "delegation is mandatory for reward weighting")
    else if validatorScores validators staker.delegatedTo = none then
      some (s!"staker {staker.address} delegates to validator {staker.delegatedTo} " ++
        "which is not in the active validator set")
    else undelegated validators rest

/-- The order in which rewards are listed. -/
def byAddress (a b : RewardAllocation) : Prop := a.address ≤ b.address

instance : DecidableRel byAddress := fun a b => inferInstanceAs (Decidable (a.address ≤ b.address))

section Calculation

variable (overflowChecks : Bool)

/-- The stake of a staker with the bonus of its validator; an unknown validator panics. -/
def weightedStake (validators : List ScoredValidator) (staker : StakerStake) : Option U128 := do
  let perfScore ← validatorScores validators staker.delegatedTo
  let bonus ← muldiv overflowChecks (Fin.ofNat _ perfScore.toNat) bonusBps bpsDenominator
  let weightFactor ← U128.add overflowChecks bpsDenominator bonus
  muldiv overflowChecks staker.shares weightFactor bpsDenominator

def allocate (distributable mevRevenue totalStake totalWeighted : U128)
    (staker : StakerStake) (weight : U128) : Option RewardAllocation := do
  let totalReward ← muldiv overflowChecks distributable weight totalWeighted
  let baseReward ← muldiv overflowChecks distributable staker.shares totalStake
  let performanceBonus := if baseReward ≤ totalReward then totalReward - baseReward else 0
  let mevPool ← muldiv overflowChecks mevRevenue mevStakerShareBps bpsDenominator
  let mevShare ← muldiv overflowChecks mevPool staker.shares totalStake
  return {
    address := staker.address
    baseReward := baseReward
    performanceBonus := performanceBonus
    mevShare := mevShare
    totalReward := totalReward }

variable (sha256 : List UInt8 → Fixed 32)

def calculateRewards (request : CalculateRewardsRequest) :
    Except Failure CalculateRewardsResponse :=
  match Store.firstDuplicate [] (request.stakerStakes.map (·.address)) with
  | some address => .error (.refused s!"duplicate staker address in reward request: {address}")
  | none => do
      let protocolFee ←
        orPanic (muldiv overflowChecks request.totalRewards protocolFeeBps bpsDenominator)
      let distributable ← orPanic (U128.sub overflowChecks request.totalRewards protocolFee)
      let totalStake ← orPanic (U128.sum overflowChecks (request.stakerStakes.map (·.shares)))
      if totalStake = 0 then
        return {
          epoch := request.epoch
          allocations := []
          totalDistributed := 0
          protocolFee := protocolFee
          merkleRoot := "0x" ++ String.ofList (replicate 64 '0')
          merkleProofs := []
          attestation := {}
          stakeSnapshotHash := ""
          validatorSetHash := "" }
      else
        match undelegated request.validators request.stakerStakes with
        | some reason => .error (.refused reason)
        | none => do
            let weights ←
              orPanic (request.stakerStakes.mapM (weightedStake overflowChecks request.validators))
            let totalWeighted ← orPanic (U128.sum overflowChecks weights)
            let unsorted ← orPanic ((request.stakerStakes.zip weights).mapM fun entry =>
              allocate overflowChecks distributable request.mevRevenue totalStake totalWeighted
                entry.1 entry.2)
            let allocations := unsorted.insertionSort byAddress
            let totalDistributed ←
              orPanic (U128.sum overflowChecks (allocations.map (·.totalReward)))
            if totalDistributed ≤ distributable then
              return {
                epoch := request.epoch
                allocations := allocations
                totalDistributed := totalDistributed
                protocolFee := protocolFee
                merkleRoot := (buildMerkleTree sha256 allocations request.epoch).1
                merkleProofs := (buildMerkleTree sha256 allocations request.epoch).2
                attestation := {}
                stakeSnapshotHash := ""
                validatorSetHash := "" }
            else .error (.overAllocated totalDistributed distributable)

end Calculation

end RewardCalculator

end Vault
