import Aethelred.Consensus.Proposer

/- Whether the election of a proposer and its verification agree: the threshold of the one may be
cached, the other computes it anew. -/
namespace Consensus.PoUWElection

open Go Attempt

inductive LeaderCall (vrf : VrfEngine)
  | change (call : ElectionCall)
  | setEpochSeed (seed : List UInt8)
  | checkEligibility (validator : Address) (slot : Nat) (vrfKeys : vrf.Keys)

variable (floats : Floats) (vrf : VrfEngine) (election : PoUWElection)

def leaderStep : LeaderCall vrf → PoUWElection
  | .change call => election.step floats call
  | .setEpochSeed seed => election.setEpochSeed seed
  | .checkEligibility validator slot vrfKeys =>
    (checkEligibility floats vrf validator slot vrfKeys election).2

def threshold (address : Address) (info : ValidatorInfo) : Nat :=
  calculateThreshold floats info.stake (election.getUsefulWorkScore floats address)
    election.totalWeightedStake

/-- Each cached threshold is the one computed now. -/
def Coherent : Prop :=
  ∀ address cached info, election.thresholdCache.lookup address = some cached →
    election.validators.lookup address = some info → cached = election.threshold floats address info

/-- The validator is elected with an output and a proof exactly if these are accepted of it. -/
def Agrees (validator : Address) (slot : Nat) (vrfKeys : vrf.Keys)
    (output : VrfOutput) (proof : VrfProof) : Prop :=
  (checkEligibility floats vrf validator slot vrfKeys election).1 = .ok (some (output, proof)) ↔
    (verifyProposer floats vrf validator slot (election.getUsefulWorkScore floats validator)
      output.bytes proof.toBytes election).1 = .ok ()

/-- The keys of the validator prove the output, which is below the computed threshold. -/
def Wins (validator : Address) (info : ValidatorInfo) (slot : Nat)
    (vrfKeys : vrf.Keys) (output : VrfOutput) (proof : VrfProof) : Prop :=
  vrf.proveForSlot vrfKeys election.epochSeed slot = .ok (output, proof) ∧
    fromBytesBe output.bytes < election.threshold floats validator info

/-- The other validators with a cached threshold keep their thresholds under another total. -/
def SameThresholds (address : Address) (total : Nat) : Prop :=
  ∀ other info, other ≠ address → (election.thresholdCache.lookup other).isSome →
    election.validators.lookup other = some info →
    calculateThreshold floats info.stake (election.getUsefulWorkScore floats other) total =
      election.threshold floats other info

/-- Removals and recorded work change no threshold that another validator has in the cache. -/
def Undisturbed : LeaderCall vrf → Prop
  | .change (.removeValidator address) =>
    ∀ info, election.validators.lookup address = some info →
      election.SameThresholds floats address (election.withoutOld floats address).2
  | .change (.recordUsefulWork address uwu category method complexity) =>
    (election.scoreEntry address).isSuspicious floats = false →
      ∀ info, election.validators.lookup address = some info →
        election.SameThresholds floats address
          (max election.totalWeightedStake
            (weightedStakeInternal floats info.stake ((election.worked address uwu category method
              complexity).getUsefulWorkScore floats address)))
  | _ => True

section Invariant

variable {floats} {election : PoUWElection}

/-- Every cached threshold is that of a registered validator, and the total is in range. -/
structure Backed (floats : Floats) (election : PoUWElection) : Prop where
  cached : ∀ address cached, election.thresholdCache.lookup address = some cached →
    ∃ info, election.validators.lookup address = some info ∧
      cached = election.threshold floats address info
  fits : election.totalWeightedStake < 2 ^ 128

theorem Backed.coherent (backed : Backed floats election) : election.Coherent floats := by
  intro address cached info found registered
  obtain ⟨other, registered', same⟩ := backed.cached address cached found
  rw [registered] at registered'
  rw [same, ← Option.some.inj registered']

theorem backed_of_uncached (uncached : election.thresholdCache = ∅)
    (fits : election.totalWeightedStake < 2 ^ 128) : Backed floats election := by
  refine ⟨fun address cached found => ?_, fits⟩
  rw [uncached, AList.lookup_empty] at found
  cases found

theorem withoutOld_lt (fits : election.totalWeightedStake < 2 ^ 128) (address : Address) :
    (election.withoutOld floats address).2 < 2 ^ 128 := by
  unfold withoutOld
  split
  · exact Nat.mod_lt _ (Nat.two_pow_pos 128)
  · exact fits

theorem Backed.registerValidator (backed : Backed floats election) (info : ValidatorInfo) :
    Backed floats (registerValidator floats info election).2 := by
  unfold PoUWElection.registerValidator
  rw [read_bind, ensure_bind]
  split
  · exact backed_of_uncached rfl (Nat.mod_lt _ (Nat.two_pow_pos 128))
  · exact backed

variable {address : Address}

section

variable (backed : Backed floats election)
include backed

/-- A removal that moves no other threshold keeps the cache right. -/
theorem Backed.removeValidator (same : ∀ info, election.validators.lookup address = some info →
      election.SameThresholds floats address (election.withoutOld floats address).2) :
    Backed floats (removeValidator floats address election).2 := by
  unfold PoUWElection.removeValidator
  rw [read_bind, okOr_bind]
  cases present : election.validators.lookup address with
  | none => exact backed
  | some info =>
    dsimp only
    rw [modify_apply]
    refine ⟨fun other cached found => ?_, withoutOld_lt backed.fits address⟩
    have differ : other ≠ address := by
      rintro rfl
      change (election.thresholdCache.erase other).lookup other = some cached at found
      rw [AList.lookup_erase] at found
      cases found
    change (election.thresholdCache.erase address).lookup other = some cached at found
    rw [AList.lookup_erase_ne differ] at found
    obtain ⟨old, registered, value⟩ := backed.cached other cached found
    refine ⟨old, ?_, ?_⟩
    · change (election.validators.erase address).lookup other = some old
      rw [AList.lookup_erase_ne differ]
      exact registered
    · rw [value, ← same info present other old differ (by rw [found]; rfl) registered]
      unfold threshold getUsefulWorkScore
      dsimp only
      rw [AList.lookup_erase_ne differ]

theorem Backed.putScore (score : UsefulWorkScore)
    (alike : election.validators.lookup address = none ∨
      (election.putScore address score).getUsefulWorkScore floats address =
        election.getUsefulWorkScore floats address) :
    Backed floats (election.putScore address score) := by
  refine ⟨fun other cached found => ?_, backed.fits⟩
  obtain ⟨info, registered, value⟩ := backed.cached other cached found
  refine ⟨info, registered, value.trans ?_⟩
  have scores : (election.putScore address score).getUsefulWorkScore floats other =
      election.getUsefulWorkScore floats other := by
    by_cases own : other = address
    · subst own
      exact alike.resolve_left fun absent => by
        rw [absent] at registered
        cases registered
    · exact getUsefulWorkScore_putScore_ne score own
  unfold threshold
  rw [scores]
  rfl

theorem Backed.retotalled {total : Nat} (score : UsefulWorkScore) (fits : total < 2 ^ 128)
    (same : election.SameThresholds floats address total) :
    Backed floats ((election.putScore address score).retotalled address total) := by
  refine ⟨fun other cached found => ?_, fits⟩
  change (election.thresholdCache.erase address).lookup other = some cached at found
  by_cases own : other = address
  · rw [own, AList.lookup_erase] at found
    cases found
  · rw [AList.lookup_erase_ne own] at found
    obtain ⟨info, registered, value⟩ := backed.cached other cached found
    refine ⟨info, registered, ?_⟩
    rw [value, ← same other info own (by rw [found]; rfl) registered]
    unfold threshold
    have scores : (election.putScore address score).getUsefulWorkScore floats other =
        election.getUsefulWorkScore floats other := getUsefulWorkScore_putScore_ne score own
    rw [← scores]
    rfl

theorem Backed.recordUsefulWork {vrf : VrfEngine} {uwu : Nat} {category : UtilityCategory}
    {method : VerificationMethod} {complexity : Nat} (same : election.Undisturbed floats vrf
      (.change (.recordUsefulWork address uwu category method complexity))) :
    Backed floats (recordUsefulWork floats address uwu category method complexity election).2 := by
  obtain ⟨done, -⟩ | ⟨trusted, ⟨done, absent⟩ | ⟨info, present, done⟩⟩ :=
    recordUsefulWork_cases address uwu category method complexity backed.fits
  · rw [done]
    exact backed.putScore _ (Or.inr (getUsefulWorkScore_touch address address))
  · rw [done]
    exact backed.putScore _ (Or.inl absent)
  · rw [done]
    refine backed.retotalled _ (Nat.max_lt.mpr ⟨backed.fits, ?_⟩) (same trusted info present)
    exact (floats.weighted _ _).isLt

theorem Backed.setCurrentEpoch (epoch : Nat) :
    Backed floats (election.setCurrentEpoch floats epoch) := by
  unfold PoUWElection.setCurrentEpoch
  split
  · exact backed_of_uncached rfl (Nat.mod_lt _ (Nat.two_pow_pos 128))
  · exact backed

theorem getOrComputeThreshold_of_backed
    {info : ValidatorInfo} (registered : election.validators.lookup address = some info) :
    ∃ after, getOrComputeThreshold floats address election =
        (.ok (election.threshold floats address info), after) ∧ Backed floats after := by
  unfold getOrComputeThreshold
  rw [read_bind]
  cases found : election.thresholdCache.lookup address with
  | some cached =>
    rw [backed.coherent address cached info found registered]
    exact ⟨election, rfl, backed⟩
  | none =>
    dsimp only
    rw [okOr_bind, registered]
    dsimp only
    rw [modify_bind]
    refine ⟨_, rfl, fun other cached found' => ?_, backed.fits⟩
    change (election.thresholdCache.insert address _).lookup other = some cached at found'
    by_cases own : other = address
    · rw [own, AList.lookup_insert] at found'
      exact ⟨info, own ▸ registered, own ▸ (Option.some.inj found').symm⟩
    · rw [AList.lookup_insert_ne own] at found'
      exact backed.cached other cached found'

end

variable {vrf}

/-- A validator is drawn exactly if it is eligible and below its own threshold. -/
theorem checkEligibility_eq (backed : Backed floats election) (validator : Address) (slot : Nat)
    (vrfKeys : vrf.Keys) :
    Backed floats (checkEligibility floats vrf validator slot vrfKeys election).2 ∧
      ∀ output proof,
        (checkEligibility floats vrf validator slot vrfKeys election).1 = .ok (some (output, proof)) ↔
          ∃ info, election.validators.lookup validator = some info ∧ info.isEligible slot = true ∧
            election.Wins floats vrf validator info slot vrfKeys output proof := by
  unfold checkEligibility
  rw [read_bind, okOr_bind]
  cases registered : election.validators.lookup validator with
  | none => exact ⟨backed, fun output proof => ⟨nofun, nofun⟩⟩
  | some info =>
    dsimp only
    rw [ensure_bind]
    split
    · rename_i eligible
      rw [ofExcept_bind]
      cases proven : vrf.proveForSlot vrfKeys election.epochSeed slot with
      | error reason =>
        refine ⟨backed, fun output proof => ⟨nofun, ?_⟩⟩
        rintro ⟨other, -, -, genuine, -⟩
        rw [proven] at genuine
        cases genuine
      | ok pair =>
        obtain ⟨after, read, backed'⟩ := getOrComputeThreshold_of_backed backed registered
        dsimp only
        rw [bind_of_ok read]
        refine ⟨backed', fun output proof => ?_⟩
        rw [pure_apply, checkVrfThreshold]
        constructor
        · intro elected
          by_cases below : fromBytesBe pair.1.bytes < election.threshold floats validator info
          · rw [decide_eq_true below, if_pos rfl] at elected
            have same := Option.some.inj (Except.ok.inj elected)
            subst same
            exact ⟨info, rfl, eligible, proven, below⟩
          · rw [decide_eq_false below, if_neg Bool.false_ne_true] at elected
            cases elected
        · rintro ⟨other, same, -, genuine, below⟩
          rw [← Option.some.inj same] at below
          rw [proven] at genuine
          rw [Except.ok.inj genuine, decide_eq_true below, if_pos rfl]
    · rename_i ineligible
      refine ⟨backed, fun output proof => ⟨nofun, ?_⟩⟩
      rintro ⟨other, same, eligible, -⟩
      rw [← Option.some.inj same] at eligible
      exact absurd eligible ineligible

/-- A proposer is accepted by key, threshold and proof alone. -/
theorem verifyProposer_ok_iff (validator : Address) (slot : Nat) (output : VrfOutput)
    (proof : VrfProof) :
    (verifyProposer floats vrf validator slot (election.getUsefulWorkScore floats validator)
        output.bytes proof.toBytes election).1 = .ok () ↔
      ∃ info, election.validators.lookup validator = some info ∧
        vrf.verifyForSlot info.vrfPubkey election.epochSeed slot output proof = .ok true ∧
        fromBytesBe output.bytes < election.threshold floats validator info := by
  have accurate : ((election.getUsefulWorkScore floats validator : Int) -
      election.getUsefulWorkScore floats validator).natAbs ≤
        election.getUsefulWorkScore floats validator / 100 := by
    rw [Int.sub_self]
    exact Nat.zero_le _
  unfold verifyProposer
  rw [read_bind, okOr_bind]
  cases registered : election.validators.lookup validator with
  | none => exact ⟨nofun, nofun⟩
  | some info =>
    dsimp only
    rw [ensure_bind, if_pos accurate, ofExcept_bind, VrfProof.fromBytes_toBytes]
    dsimp only
    rw [ofExcept_bind, VrfOutput.fromSlice_bytes]
    dsimp only
    rw [ofExcept_bind]
    constructor
    · intro accepted
      refine ⟨info, rfl, ?_⟩
      cases verified : vrf.verifyForSlot info.vrfPubkey election.epochSeed slot output proof with
      | error reason =>
        rw [verified] at accepted
        cases accepted
      | ok valid =>
        rw [verified] at accepted
        dsimp only at accepted
        rw [ensure_bind] at accepted
        split at accepted
        · rename_i genuine
          refine ⟨congrArg _ genuine, ?_⟩
          unfold ensure at accepted
          split at accepted
          · rename_i below
            exact of_decide_eq_true below
          · cases accepted
        · cases accepted
    · rintro ⟨other, same, verified, below⟩
      rw [← Option.some.inj same] at verified below
      have passes : checkVrfThreshold output.bytes (calculateThreshold floats info.stake
          (election.getUsefulWorkScore floats validator) election.totalWeightedStake) = true :=
        decide_eq_true below
      rw [verified]
      dsimp only
      rw [ensure_bind, if_pos rfl, ensure, if_pos passes]
      rfl

theorem verifyProposer_iff_wins {validator : Address} {slot : Nat} {vrfKeys : vrf.Keys}
    (own : ∀ info, election.validators.lookup validator = some info →
      info.vrfPubkey = vrf.publicKey vrfKeys) (output : VrfOutput) (proof : VrfProof) :
    (verifyProposer floats vrf validator slot (election.getUsefulWorkScore floats validator)
        output.bytes proof.toBytes election).1 = .ok () ↔
      ∃ info, election.validators.lookup validator = some info ∧
        election.Wins floats vrf validator info slot vrfKeys output proof := by
  rw [verifyProposer_ok_iff]
  apply exists_congr
  intro info
  apply and_congr_right
  intro registered
  rw [own info registered, vrf.ideal]
  rfl

end Invariant

theorem Backed.leaderStep {floats : Floats} {vrf : VrfEngine} {election : PoUWElection}
    (backed : Backed floats election) {call : LeaderCall vrf}
    (undisturbed : election.Undisturbed floats vrf call) :
    Backed floats (election.leaderStep floats vrf call) := by
  cases call with
  | setEpochSeed seed => exact backed_of_uncached rfl backed.fits
  | checkEligibility validator slot vrfKeys =>
    exact (checkEligibility_eq backed validator slot vrfKeys).1
  | change call =>
    cases call with
    | registerValidator info => exact backed.registerValidator info
    | removeValidator address => exact backed.removeValidator undisturbed
    | recordUsefulWork address uwu category method complexity =>
      exact backed.recordUsefulWork undisturbed
    | setCurrentEpoch epoch => exact backed.setCurrentEpoch epoch

/-- After undisturbed calls every cached threshold is the computed one, and a validator agrees with
its verification exactly if it does not win while it is not eligible. -/
theorem elections_agree_iff (floats : Floats) (vrf : VrfEngine) (config : PoUWConfig)
    (calls : List (LeaderCall vrf))
    (undisturbed : Run.Along (leaderStep floats vrf) (Undisturbed floats vrf) (new config) calls) :
    (Run.exec (leaderStep floats vrf) (new config) calls).Coherent floats ∧
      ∀ validator slot (vrfKeys : vrf.Keys) output proof,
        (∀ info, (Run.exec (leaderStep floats vrf) (new config) calls).validators.lookup validator =
          some info → info.vrfPubkey = vrf.publicKey vrfKeys) →
        ((Run.exec (leaderStep floats vrf) (new config) calls).Agrees floats vrf validator slot
            vrfKeys output proof ↔
          ∀ info, (Run.exec (leaderStep floats vrf) (new config) calls).validators.lookup validator =
              some info →
            (Run.exec (leaderStep floats vrf) (new config) calls).Wins floats vrf validator info slot
              vrfKeys output proof →
            info.isEligible slot = true) := by
  have backed : Backed floats (Run.exec (leaderStep floats vrf) (new config) calls) :=
    Run.invariant (Backed floats) (fun _ _ undisturbed backed => backed.leaderStep undisturbed)
      (backed_of_uncached rfl (Nat.two_pow_pos 128)) undisturbed
  refine ⟨backed.coherent, fun validator slot vrfKeys output proof own => ?_⟩
  unfold Agrees
  rw [(checkEligibility_eq backed validator slot vrfKeys).2, verifyProposer_iff_wins own]
  constructor
  · intro agree info registered wins
    obtain ⟨other, same, eligible, -⟩ := agree.mpr ⟨info, registered, wins⟩
    rw [registered] at same
    rw [Option.some.inj same]
    exact eligible
  · intro eligible
    constructor
    · rintro ⟨info, registered, -, wins⟩
      exact ⟨info, registered, wins⟩
    · rintro ⟨info, registered, wins⟩
      exact ⟨info, registered, eligible info registered wins, wins⟩

def zeroOutput : VrfOutput := ⟨List.replicate 32 0, List.length_replicate⟩

def zeroProof : VrfProof :=
  ⟨List.replicate 33 0, List.replicate 32 0, List.replicate 32 0, List.length_replicate,
    List.length_replicate, List.length_replicate⟩

def sampleVrf : VrfEngine where
  Keys := Unit
  publicKey _ := [2]
  proveForSlot _ _ _ := .ok (zeroOutput, zeroProof)
  verifyForSlot _ _ _ output proof := .ok (decide (zeroOutput = output ∧ zeroProof = proof))
  ideal _ _ _ output proof := by
    rw [Except.ok.injEq, Except.ok.injEq, decide_eq_true_eq, Prod.mk.injEq]

def sampleInfo (address : Address) : ValidatorInfo where
  address
  stake := MIN_STAKE_FOR_ELECTION
  vrfPubkey := [2]

def sampleElection (calls : List (LeaderCall sampleVrf)) : PoUWElection :=
  Run.exec (leaderStep sampleFloats sampleVrf) (new { minStake := 1 }) calls

/-- Two validators, and the threshold of the first in the cache. -/
def activeCalls : List (LeaderCall sampleVrf) :=
  [.change (.registerValidator (sampleInfo 1)), .change (.registerValidator (sampleInfo 2)),
    .checkEligibility 1 5 ()]

theorem elections_agree_active :
    Run.Along (leaderStep sampleFloats sampleVrf) (Undisturbed sampleFloats sampleVrf)
        (new { minStake := 1 }) activeCalls ∧
      (sampleElection activeCalls).thresholdCache.lookup 1 = some (2 ^ 255) ∧
      (sampleElection activeCalls).Agrees sampleFloats sampleVrf 1 5 () zeroOutput zeroProof := by
  have undisturbed : Run.Along (leaderStep sampleFloats sampleVrf)
      (Undisturbed sampleFloats sampleVrf) (new { minStake := 1 }) activeCalls :=
    ⟨trivial, trivial, trivial, trivial⟩
  have registered : (sampleElection activeCalls).validators.lookup 1 = some (sampleInfo 1) := by
    decide +kernel
  refine ⟨undisturbed, by decide +kernel, ((elections_agree_iff sampleFloats sampleVrf
    { minStake := 1 } activeCalls undisturbed).2 1 5 () zeroOutput zeroProof ?_).mpr ?_⟩
  · intro info found
    rw [← Option.some.inj (registered.symm.trans found)]
    rfl
  · intro info found _
    rw [← Option.some.inj (registered.symm.trans found)]
    decide

def inactiveCalls : List (LeaderCall sampleVrf) :=
  [.change (.registerValidator { sampleInfo 1 with active := false })]

def staleCalls : List (LeaderCall sampleVrf) :=
  [.change (.registerValidator (sampleInfo 1)), .change (.registerValidator (sampleInfo 2)),
    .checkEligibility 1 5 (), .change (.removeValidator 2)]

/-- An inactive proposer is accepted, and a stale threshold may be used. -/
theorem inactive_proposer_accepted :
    ¬(sampleElection inactiveCalls).Agrees sampleFloats sampleVrf 1 5 () zeroOutput zeroProof ∧
      ¬(sampleElection staleCalls).Coherent sampleFloats := by
  constructor
  · intro agrees
    have accepted : (verifyProposer sampleFloats sampleVrf 1 5
        ((sampleElection inactiveCalls).getUsefulWorkScore sampleFloats 1) zeroOutput.bytes
        zeroProof.toBytes (sampleElection inactiveCalls)).1 = .ok () := by decide +kernel
    have refused : (checkEligibility sampleFloats sampleVrf 1 5 ()
        (sampleElection inactiveCalls)).1 =
          .error (.NotEligible 1 "Validator is not active or jailed") := by decide +kernel
    have elected := agrees.mpr accepted
    rw [refused] at elected
    cases elected
  · intro coherent
    have cached : (sampleElection staleCalls).thresholdCache.lookup 1 = some (2 ^ 255) := by
      decide +kernel
    have registered : (sampleElection staleCalls).validators.lookup 1 = some (sampleInfo 1) := by
      decide +kernel
    have same := coherent 1 (2 ^ 255) (sampleInfo 1) cached registered
    revert same
    decide +kernel

end Consensus.PoUWElection
