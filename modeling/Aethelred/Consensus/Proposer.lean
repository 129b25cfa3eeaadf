import Aethelred.Consensus.Election

/- The election of a proposer for a slot and its verification (`pouw/election.rs`). The verifiable
random function is an ideal pair: what verifies under a public key is what its keys prove. -/
namespace Consensus

open Go Attempt List

/-- 32 bytes. -/
structure VrfOutput where
  bytes : List UInt8
  length_eq : bytes.length = 32
  deriving DecidableEq

def VrfOutput.fromSlice (bytes : List UInt8) : Except ConsensusError VrfOutput :=
  if length_eq : bytes.length = 32 then .ok ⟨bytes, length_eq⟩
  else .error (.MalformedVrfProof 32 bytes.length)

theorem VrfOutput.fromSlice_bytes (output : VrfOutput) : fromSlice output.bytes = .ok output :=
  dif_pos output.length_eq

structure VrfProof where
  gamma : List UInt8
  c : List UInt8
  s : List UInt8
  gamma_length : gamma.length = 33
  c_length : c.length = 32
  s_length : s.length = 32
  deriving DecidableEq

namespace VrfProof

def SIZE : Nat := 97

def toBytes (proof : VrfProof) : List UInt8 := proof.gamma ++ proof.c ++ proof.s

def fromBytes (bytes : List UInt8) : Except ConsensusError VrfProof :=
  if short : bytes.length < SIZE then .error (.MalformedVrfProof SIZE bytes.length)
  else
    .ok { gamma := bytes.take 33
          c := (bytes.drop 33).take 32
          s := (bytes.drop 65).take 32
          gamma_length := by
            unfold SIZE at short
            rw [length_take]
            omega
          c_length := by
            unfold SIZE at short
            rw [length_take, length_drop]
            omega
          s_length := by
            unfold SIZE at short
            rw [length_take, length_drop]
            omega }

theorem fromBytes_toBytes (proof : VrfProof) : fromBytes proof.toBytes = .ok proof := by
  obtain ⟨gamma, c, s, gamma_length, c_length, s_length⟩ := proof
  have long : ¬(gamma ++ c ++ s).length < SIZE := by
    unfold SIZE
    rw [length_append, length_append]
    omega
  have first : (gamma ++ c ++ s).take 33 = gamma := by
    rw [append_assoc]
    exact take_left' gamma_length
  have second : ((gamma ++ c ++ s).drop 33).take 32 = c := by
    rw [append_assoc, drop_left' gamma_length]
    exact take_left' c_length
  have third : ((gamma ++ c ++ s).drop 65).take 32 = s := by
    rw [drop_left' (by rw [length_append, gamma_length, c_length]), ← s_length,
      take_length]
  unfold fromBytes toBytes
  rw [dif_neg long]
  simp only [first, second, third]

end VrfProof

structure VrfEngine where
  Keys : Type
  publicKey : Keys → List UInt8
  proveForSlot : Keys → List UInt8 → Nat → Except ConsensusError (VrfOutput × VrfProof)
  verifyForSlot : List UInt8 → List UInt8 → Nat → VrfOutput → VrfProof → Except ConsensusError Bool
  ideal : ∀ keys seed slot output proof,
    verifyForSlot (publicKey keys) seed slot output proof = .ok true ↔
      proveForSlot keys seed slot = .ok (output, proof)

def MIN_STAKE_FOR_ELECTION : Nat := 1000000000000

def ValidatorInfo.isEligible (info : ValidatorInfo) (currentSlot : Nat) : Bool :=
  info.active && (decide (info.jailedUntil = 0) || decide (info.jailedUntil ≤ currentSlot)) &&
    decide (MIN_STAKE_FOR_ELECTION ≤ info.stake)

namespace PoUWElection

variable (floats : Floats) (vrf : VrfEngine)

def setEpochSeed (election : PoUWElection) (seed : List UInt8) : PoUWElection :=
  { election with epochSeed := seed, thresholdCache := ∅ }

/-- `BigUint::from_bytes_be`. -/
def fromBytesBe (bytes : List UInt8) : Nat := bytes.foldl (fun n byte => 256 * n + byte.toNat) 0

def checkVrfThreshold (vrfOutput : List UInt8) (threshold : Nat) : Bool :=
  decide (fromBytesBe vrfOutput < threshold)

def checkEligibility (validator : Address) (slot : Nat) (vrfKeys : vrf.Keys) :
    Call (Option (VrfOutput × VrfProof)) := do
  let election ← read
  let info ← okOr (election.validators.lookup validator) (.ValidatorNotRegistered validator)
  ensure (info.isEligible slot = true) (.NotEligible validator "Validator is not active or jailed")
  let proven ← ofExcept (vrf.proveForSlot vrfKeys election.epochSeed slot)
  let threshold ← getOrComputeThreshold floats validator
  return if checkVrfThreshold proven.1.bytes threshold then some proven else none

def verifyProposer (proposer : Address) (slot claimedUsefulWorkScore : Nat)
    (vrfOutput vrfProof : List UInt8) : Call Unit := do
  let election ← read
  let info ← okOr (election.validators.lookup proposer) (.ValidatorNotRegistered proposer)
  let actualScore := election.getUsefulWorkScore floats proposer
  ensure (((claimedUsefulWorkScore : Int) - actualScore).natAbs ≤ actualScore / 100)
    (.UsefulWorkScoreMismatch proposer claimedUsefulWorkScore actualScore)
  let proof ← ofExcept (VrfProof.fromBytes vrfProof)
  let output ← ofExcept (VrfOutput.fromSlice vrfOutput)
  let valid ← ofExcept (vrf.verifyForSlot info.vrfPubkey election.epochSeed slot output proof)
  ensure (valid = true) (.VrfVerificationFailed "VRF proof verification failed")
  let threshold := calculateThreshold floats info.stake actualScore election.totalWeightedStake
  ensure (checkVrfThreshold vrfOutput threshold = true) (.VrfThresholdNotMet vrfOutput threshold)

end PoUWElection

end Consensus
