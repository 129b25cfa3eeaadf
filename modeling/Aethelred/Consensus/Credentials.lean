import Aethelred.Consensus.Proposer
import Aethelred.Lib.Bytes

/- The state of the consensus engine (`pouw/consensus.rs`) and the credentials of a slot's leader. -/
namespace Consensus

open Go Except

structure PoUWState where
  currentSlot : Nat := 0
  epochSeed : List UInt8 := List.replicate 32 0
  validators : Map Address ValidatorInfo := ∅
  totalStake : Nat := 0
  totalWeightedStake : Nat := 0
  usefulWorkScores : Map Address Nat := ∅

def PoUWState.getUsefulWorkScore (state : PoUWState) (address : Address) : Nat :=
  state.usefulWorkScores.get address 0

/-- `prove` and `verify` of the engine, ideal: what keys prove verifies under their public key, and
no input has two outputs that verify under one key. -/
structure VrfFunction where
  Keys : Type
  publicKeyBytes : Keys → List UInt8
  prove : Keys → List UInt8 → Except ConsensusError (VrfProof × VrfOutput)
  verify : List UInt8 → List UInt8 → VrfProof → Except ConsensusError VrfOutput
  complete : ∀ keys input proof output, prove keys input = .ok (proof, output) →
    verify (publicKeyBytes keys) input proof = .ok output
  unique : ∀ key input proof other output output', verify key input proof = .ok output →
    verify key input other = .ok output' → output = output'

structure LeaderCredentials where
  slot : Nat
  address : Address
  vrfProof : VrfProof
  vrfOutput : VrfOutput
  stake : Nat
  usefulWorkScore : Nat

inductive LeaderError
  | NotValidator
  | ValidatorNotFound (address : Address)
  | ValidatorIneligible (address : Address)
  | InvalidLeaderCredentials (reason : String)
  | vrf (e : ConsensusError)
  deriving DecidableEq

namespace PoUWState

open PoUWElection (calculateThreshold fromBytesBe sampleFloats)

variable (floats : Floats) (vrf : VrfFunction) (sha256 : List UInt8 → Address) (state : PoUWState)

def computeVrfInput (slot : Nat) : List UInt8 := state.epochSeed ++ Bytes.littleEndian 8 slot

/-- `vrf_value < threshold`, for a stake and a score. -/
def Below (stake score : Nat) (output : VrfOutput) : Prop :=
  fromBytesBe output.bytes < calculateThreshold floats stake score state.totalWeightedStake

instance (stake score : Nat) (output : VrfOutput) :
    Decidable (state.Below floats stake score output) := inferInstanceAs (Decidable (_ < _))

variable (localKeys : Option vrf.Keys)

def localValidator : Except LeaderError (vrf.Keys × ValidatorInfo) :=
  match localKeys with
  | none => .error .NotValidator
  | some keys =>
    match state.validators.lookup (sha256 (vrf.publicKeyBytes keys)) with
    | none => .error (.ValidatorNotFound (sha256 (vrf.publicKeyBytes keys)))
    | some info => .ok (keys, info)

def shouldPropose (slot : Nat) : Except LeaderError Bool := do
  let (keys, info) ← state.localValidator vrf sha256 localKeys
  if info.isEligible slot = false then .ok false
  else
    let (_, output) ← (vrf.prove keys (state.computeVrfInput slot)).mapError .vrf
    let score := state.getUsefulWorkScore (sha256 (vrf.publicKeyBytes keys))
    .ok (decide (state.Below floats info.stake score output))

def generateCredentials (slot : Nat) : Except LeaderError LeaderCredentials := do
  let (keys, info) ← state.localValidator vrf sha256 localKeys
  let (vrfProof, vrfOutput) ← (vrf.prove keys (state.computeVrfInput slot)).mapError .vrf
  let address := sha256 (vrf.publicKeyBytes keys)
  .ok ⟨slot, address, vrfProof, vrfOutput, info.stake, state.getUsefulWorkScore address⟩

variable (credentials : LeaderCredentials)

def verifyCredentials : Except LeaderError Bool :=
  match state.validators.lookup credentials.address with
  | none => .error (.ValidatorNotFound credentials.address)
  | some info =>
    let actualScore := state.getUsefulWorkScore credentials.address
    if info.isEligible credentials.slot = false then
      .error (.ValidatorIneligible credentials.address)
    else if info.stake ≠ credentials.stake then
      .error (.InvalidLeaderCredentials "Stake mismatch")
    else if actualScore / 100 < ((credentials.usefulWorkScore : Int) - actualScore).natAbs then
      .error (.InvalidLeaderCredentials "Useful work score mismatch")
    else
      match vrf.verify info.vrfPubkey (state.computeVrfInput credentials.slot)
          credentials.vrfProof with
      | .error e => .error (.vrf e)
      | .ok output =>
        .ok (decide (state.Below floats credentials.stake credentials.usefulWorkScore output))

/-- The proof verifies under the key of the validator to an output below the threshold. -/
def Draws (info : ValidatorInfo) (score slot : Nat) (proof : VrfProof) (output : VrfOutput) :
    Prop :=
  vrf.verify info.vrfPubkey (state.computeVrfInput slot) proof = .ok output ∧
    state.Below floats info.stake score output

/-- Accepted credentials draw their own output at the actual score, and whoever should propose has
credentials that are accepted. -/
structure Faithful (localKeys : Option vrf.Keys) (slot : Nat) (credentials : LeaderCredentials) :
    Prop where
  accepted : state.verifyCredentials floats vrf credentials = .ok true →
    ∃ info, state.validators.lookup credentials.address = some info ∧
      state.Draws floats vrf info (state.getUsefulWorkScore credentials.address) credentials.slot
        credentials.vrfProof credentials.vrfOutput
  proposed : state.shouldPropose floats vrf sha256 localKeys slot = .ok true →
    ∃ own, state.generateCredentials vrf sha256 localKeys slot = .ok own ∧
      state.verifyCredentials floats vrf own = .ok true

/-- The claims about stake and score that `verify_credentials` admits. -/
def Admitted (info : ValidatorInfo) : Prop :=
  state.validators.lookup credentials.address = some info ∧
    info.isEligible credentials.slot = true ∧ info.stake = credentials.stake ∧
      ((credentials.usefulWorkScore : Int) -
        state.getUsefulWorkScore credentials.address).natAbs ≤
          state.getUsefulWorkScore credentials.address / 100

/-- The output that comes with a proof is that of the proof, and is not between the thresholds of
the claimed and of the actual score; and the local validator is registered with its own key, or
with one under which its proof wins as well. -/
structure Plain (localKeys : Option vrf.Keys) (slot : Nat) (credentials : LeaderCredentials) :
    Prop where
  claims : ∀ info output, state.Admitted credentials info →
    state.Draws floats vrf info credentials.usefulWorkScore credentials.slot credentials.vrfProof
      output →
    output = credentials.vrfOutput ∧
      state.Below floats info.stake (state.getUsefulWorkScore credentials.address) output
  key : ∀ keys info proof output, localKeys = some keys →
    state.validators.lookup (sha256 (vrf.publicKeyBytes keys)) = some info →
    info.isEligible slot = true →
    vrf.prove keys (state.computeVrfInput slot) = .ok (proof, output) →
    state.Below floats info.stake
      (state.getUsefulWorkScore (sha256 (vrf.publicKeyBytes keys))) output →
    info.vrfPubkey = vrf.publicKeyBytes keys ∨ ∃ other, state.Draws floats vrf info
      (state.getUsefulWorkScore (sha256 (vrf.publicKeyBytes keys))) slot proof other

variable {floats} {vrf} {sha256} {state} {localKeys : Option vrf.Keys} {slot : Nat}

/-- Credentials are accepted exactly from an admitted validator that is drawn. -/
theorem verifyCredentials_iff :
    state.verifyCredentials floats vrf credentials = .ok true ↔
      ∃ info output, state.Admitted credentials info ∧
        state.Draws floats vrf info credentials.usefulWorkScore credentials.slot
          credentials.vrfProof output := by
  unfold verifyCredentials Admitted Draws
  cases found : state.validators.lookup credentials.address with
  | none => simp
  | some info =>
    simp only [Option.some.injEq]
    split
    next ineligible =>
      simp [ineligible]
    next eligible =>
      split
      next mismatch =>
        refine iff_of_false nofun ?_
        rintro ⟨_, _, ⟨rfl, -, same, -⟩, -⟩
        exact mismatch same
      next same =>
        split
        next far =>
          refine iff_of_false nofun ?_
          rintro ⟨_, _, ⟨-, -, -, near⟩, -⟩
          omega
        next near =>
          have same := not_not.mp same
          constructor
          · intro accepted
            split at accepted
            · cases accepted
            next output verified =>
              rw [ok.injEq, decide_eq_true_eq, ← same] at accepted
              refine ⟨info, output, ⟨rfl, eq_true_of_ne_false eligible, same, ?_⟩, verified,
                accepted⟩
              omega
          · rintro ⟨_, output, ⟨rfl, -, -, -⟩, verified, below⟩
            rw [same] at below
            rw [verified]
            exact congrArg _ (decide_eq_true below)

theorem shouldPropose_iff :
    state.shouldPropose floats vrf sha256 localKeys slot = .ok true ↔
      ∃ keys info proof output, localKeys = some keys ∧
        state.validators.lookup (sha256 (vrf.publicKeyBytes keys)) = some info ∧
        info.isEligible slot = true ∧
        vrf.prove keys (state.computeVrfInput slot) = .ok (proof, output) ∧
        state.Below floats info.stake
          (state.getUsefulWorkScore (sha256 (vrf.publicKeyBytes keys))) output := by
  unfold shouldPropose localValidator
  cases localKeys with
  | none => simp [Bind.bind, Except.bind]
  | some keys =>
    cases found : state.validators.lookup (sha256 (vrf.publicKeyBytes keys)) with
    | none => simp [Bind.bind, Except.bind, found]
    | some info =>
      cases eligible : info.isEligible slot with
      | false => simp [Bind.bind, Except.bind, found, eligible]
      | true =>
        cases proven : vrf.prove keys (state.computeVrfInput slot) with
        | error e => simp [Bind.bind, Except.bind, Except.mapError, found, eligible, proven]
        | ok both =>
          obtain ⟨proof, output⟩ := both
          simp [Bind.bind, Except.bind, Except.mapError, found, eligible, proven]

theorem generateCredentials_of {keys : vrf.Keys} {info : ValidatorInfo} {proof : VrfProof}
    {output : VrfOutput}
    (found : state.validators.lookup (sha256 (vrf.publicKeyBytes keys)) = some info)
    (proven : vrf.prove keys (state.computeVrfInput slot) = .ok (proof, output)) :
    state.generateCredentials vrf sha256 (some keys) slot =
      .ok ⟨slot, sha256 (vrf.publicKeyBytes keys), proof, output, info.stake,
        state.getUsefulWorkScore (sha256 (vrf.publicKeyBytes keys))⟩ := by
  simp [generateCredentials, localValidator, Bind.bind, Except.bind, Except.mapError, found, proven]

/-- The credentials of a slot are faithful exactly if they are plain. -/
theorem faithful_iff (floats : Floats) (vrf : VrfFunction) (sha256 : List UInt8 → Address)
    (state : PoUWState) (localKeys : Option vrf.Keys) (slot : Nat)
    (credentials : LeaderCredentials) :
    state.Faithful floats vrf sha256 localKeys slot credentials ↔
      state.Plain floats vrf sha256 localKeys slot credentials := by
  have own {keys : vrf.Keys} {info : ValidatorInfo} {proof : VrfProof} {output : VrfOutput}
      (found : state.validators.lookup (sha256 (vrf.publicKeyBytes keys)) = some info)
      (eligible : info.isEligible slot = true) :
      state.Admitted ⟨slot, sha256 (vrf.publicKeyBytes keys), proof, output, info.stake,
        state.getUsefulWorkScore (sha256 (vrf.publicKeyBytes keys))⟩ info := by
    refine ⟨found, eligible, rfl, ?_⟩
    rw [Int.sub_self]
    exact Nat.zero_le _
  constructor
  · intro faithful
    refine ⟨fun info output admitted draws => ?_, ?_⟩
    · obtain ⟨other, registered, verified, below⟩ :=
        faithful.accepted ((verifyCredentials_iff credentials).mpr ⟨info, output, admitted, draws⟩)
      cases Option.some.inj (registered.symm.trans admitted.1)
      cases ok.inj (verified.symm.trans draws.1)
      exact ⟨rfl, below⟩
    · rintro keys info proof output rfl found eligible proven below
      obtain ⟨generated, made, accepted⟩ := faithful.proposed
        (shouldPropose_iff.mpr ⟨keys, info, proof, output, rfl, found, eligible, proven, below⟩)
      cases ok.inj (made.symm.trans (generateCredentials_of found proven))
      obtain ⟨other, drawn, admitted, draws⟩ := (verifyCredentials_iff _).mp accepted
      cases Option.some.inj (admitted.1.symm.trans found)
      exact .inr ⟨drawn, draws⟩
  · intro plain
    refine ⟨fun accepted => ?_, fun proposes => ?_⟩
    · obtain ⟨info, output, admitted, draws⟩ := (verifyCredentials_iff credentials).mp accepted
      obtain ⟨rfl, below⟩ := plain.claims info output admitted draws
      exact ⟨info, admitted.1, draws.1, below⟩
    · obtain ⟨keys, info, proof, output, rfl, found, eligible, proven, below⟩ :=
        shouldPropose_iff.mp proposes
      refine ⟨_, generateCredentials_of found proven, (verifyCredentials_iff _).mpr ?_⟩
      obtain same | ⟨other, draws⟩ := plain.key keys info proof output rfl found eligible proven below
      · refine ⟨info, output, own found eligible, ?_, below⟩
        rw [same]
        exact vrf.complete keys _ proof output proven
      · exact ⟨info, other, own found eligible, draws⟩

def constantOutput (byte : UInt8) : VrfOutput := ⟨List.replicate 32 byte, List.length_replicate⟩

def blankProof : VrfProof :=
  ⟨List.replicate 33 0, List.replicate 32 0, List.replicate 32 0, rfl, rfl, rfl⟩

def constantVrf : VrfFunction where
  Keys := Unit
  publicKeyBytes _ := []
  prove _ _ := .ok (blankProof, constantOutput 0)
  verify _ _ _ := .ok (constantOutput 0)
  complete _ _ _ _ proven := congrArg (Except.map Prod.snd) proven
  unique _ _ _ _ _ _ first second := ok.inj (first.symm.trans second)

def oneValidator : PoUWState where
  validators := (∅ : Map Address ValidatorInfo).insert 1 { address := 1, stake := 10 ^ 12 }
  totalWeightedStake := 10 ^ 12

/-- The proof is that of the validator, the output beside it is another one. -/
theorem foreign_output_accepted :
    ¬oneValidator.Faithful sampleFloats constantVrf (fun _ => 1) none 5
      ⟨5, 1, blankProof, constantOutput 1, 10 ^ 12, 0⟩ := by
  intro faithful
  obtain ⟨info, -, verified, -⟩ := faithful.accepted (by decide +kernel)
  exact absurd (ok.inj verified) (by decide)

end PoUWState

end Consensus
