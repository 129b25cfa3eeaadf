import Aethelred.Vault.AttestationReplay
import Aethelred.Vault.StakingSteps

/- The totals of the vault over whole runs: they stay right exactly as long as nothing wraps, every
address that stakes can be resolved, and every attested validator comes with the stake it has. -/
namespace Vault.Store

open Go Bytes List Hex

section Runs

variable (deployment : Deployment)

/-- What a run of calls that fit keeps. -/
structure Kept (store : Store) : Prop where
  balanced : store.Balanced
  keyed : store.Keyed

theorem Kept.empty : Kept {} := ⟨.empty, .empty⟩

theorem Kept.step (store : Store) (call : Call) (fits : Fits deployment store call)
    (kept : store.Kept) : (store.step deployment call).Kept :=
  ⟨(kept.balanced.step_iff deployment kept.keyed call).mpr fits, kept.keyed.step deployment call⟩

end Runs

section Sample

open Verification

def hashBytes (word : Nat) : Fixed 32 := fun i => (wordBytes word).getD i 0

theorem ofFn_hashBytes (word : Nat) : List.ofFn (hashBytes word) = wordBytes word := by
  have length : (wordBytes word).length = 32 := length_bigEndian 32 word
  refine ext_getElem (by rw [length_ofFn, length]) fun i inside also => ?_
  rw [List.getElem_ofFn, hashBytes, List.getD_eq_getElem?_getD, List.getElem?_eq_getElem also]
  rfl

def sampleValidator : ValidatorRecord where
  address := "val-1"
  delegatedStake := 0
  performanceScore := 9500
  decentralizationScore := 8000
  reputationScore := 9000
  compositeScore := 8850
  teePublicKey := replicate 32 0x77
  commission := 500

def selectionHash : Nat := 0x774631e281f148c79517d04cbcdf91a0947f90b335c5c1354c7e0e95037d8e53

def selectionDigest : Go.Bytes :=
  wordBytes 0x167adb864fac12156bc2a29ce82dfa3d5d385d603dc867969c6daf8d0b925b9b

def selectionEvidence : Go.Bytes :=
  replicate 32 0x11 ++ replicate 32 0x22 ++ selectionDigest ++ replicate 64 0 ++
    replicate 32 0x44 ++
    wordBytes 0xeb6138614f91656993444425fed90079eb6b570be09b10db565f201702d1a1c9 ++
    wordBytes 0x148a1236dd97b1f7d3693b8bc184558899d93010e2628b28311fe17773de57f9

def selectionSignature : Go.Bytes :=
  wordBytes 0xf30e4bd8094e53a679ddb8f55b5216b03c44623fc4279ef0791f9aa1f6930d49 ++
    wordBytes 0x5b1c2eeae1bf72138a7cff0cc49a86824cc824a26f6c5363251bb39a58bbccb6 ++ [28]

def selectionAttestation : TEEAttestation where
  platform := 0
  timestamp := I64.ofInt 1000
  nonce := encodeToString (replicate 32 0xab)
  enclaveHash := encodeToString (replicate 32 0x11)
  signerHash := encodeToString (replicate 32 0x22)
  payloadHash := encodeToString (wordBytes selectionHash)
  platformEvidence := encodeToString selectionEvidence
  signature := encodeToString selectionSignature

def selectionPreimage : Go.Bytes :=
  "CruzibleTEEAttestation".toUTF8.toList ++ [0] ++ bigEndian 8 1000 ++
    replicate 32 0xab ++ replicate 32 0x11 ++ replicate 32 0x22 ++
    wordBytes selectionHash

def addressHash : Nat := 0xfdc8b80e2d623d0cb6ecd5d5632a6321ef9150e6732b9224088c905b4a743219

def innerHash : Nat := 0xfe2d5e9a46bb1f2567ae1f6f7c0c143f026153337bb94e79ac0876043c232b76

def setHash : Nat := 0x4c10358e63e292cc157733bdedbcd723a63fa3e4aebf6ca10a0cf77e3b012cbf

def policyHash : Nat := 0x4a502e346068425de751f8d356e1ff4952e84982da68362d31c7946f772543d6

def universeHash : Nat := 0xe3b0c44298fc1c149afbf4c8996fb92427ae41e4649b934ca495991b7852b855

def selectionReportHash : Nat :=
  0x3c66dbe992555d4ef948236efb37e38c0a3497e228ee9193b553d40545e5ca27

def sampleHashes : List (Go.Bytes × Nat) :=
  [(replicate 32 0x11 ++ [0],
      0xfadbf4edc66569296a08ffc54972d422877697fd412a1add92ceddcfa1366432),
    (selectionPreimage, 0x167adb864fac12156bc2a29ce82dfa3d5d385d603dc867969c6daf8d0b925b9b),
    (replicate 32 0x44 ++ replicate 32 0x11 ++ replicate 32 0x22,
      0x13d03cbc4c8cac17ddec2ab473eba2d735d84e4122064cf7fc6018f7a9531fb2),
    (replicate 32 0x11 ++ replicate 32 0x22 ++ selectionDigest ++ [0, 1, 0, 1] ++
      sampleBinding, selectionReportHash),
    ("val-1".toUTF8.toList, addressHash),
    (replicate 12 0 ++ (wordBytes addressHash).take 20 ++ wordBytes 0 ++ wordBytes 9500 ++
      wordBytes 8000 ++ wordBytes 9000 ++ wordBytes 8850 ++ replicate 32 0x77 ++
      wordBytes 500, innerHash),
    ("CruzibleValidatorSet-v1".toUTF8.toList ++ bigEndian 8 1 ++ bigEndian 4 1 ++
      wordBytes innerHash, setHash),
    (selectionPolicyPreimage, policyHash), ([], universeHash),
    (wordBytes setHash ++ wordBytes policyHash ++ wordBytes universeHash, selectionHash)]

def sampleDeployment : Deployment where
  authority := "gov"
  sha256 bytes := hashBytes ((sampleHashes.lookup bytes).getD 0)
  recoverCompact compactSig digest :=
    if compactSig = 28 :: selectionSignature.take 64 ∧ digest = selectionDigest then
      some sampleOperator
    else none
  verifyP256 x y hash r s :=
    x = sampleKeyX ∧ y = sampleKeyY ∧ hash = wordBytes selectionReportHash ∧
      r = wordBytes 0xeb6138614f91656993444425fed90079eb6b570be09b10db565f201702d1a1c9 ∧
      s = wordBytes 0x148a1236dd97b1f7d3693b8bc184558899d93010e2628b28311fe17773de57f9
  accAddressFromBech32 _ := none
  toLowerRune := Strings.toLowerRune

theorem sha256_sample (bytes : Go.Bytes) :
    sampleDeployment.crypto.sha256 bytes = wordBytes ((sampleHashes.lookup bytes).getD 0) :=
  ofFn_hashBytes _

theorem selectionPayloadHash_sample :
    selectionPayloadHash sampleDeployment 1 [sampleValidator] [] =
      selectionAttestation.payloadHash := by
  rw [selectionPayloadHash]
  refine congrArg encodeToString ?_
  decide +kernel

theorem selectionDigest_eq :
    computeAttestationDigest sampleDeployment.crypto selectionAttestation = selectionDigest := by
  have encoded (bytes : Go.Bytes) : decodePrefix (encodeToString bytes) = bytes :=
    decodePrefix_of_decodeString (decodeString_encodeToString bytes)
  have preimage : attestationPreimage selectionAttestation = selectionPreimage := by
    simp only [attestationPreimage, selectionAttestation, encoded]
    rfl
  rw [computeAttestationDigest, preimage, sha256_sample]
  decide +kernel

theorem selectionEvidence_accepted :
    verifyPlatformEvidence sampleDeployment.crypto selectionAttestation selectionDigest
      sampleEnclave = .ok () := by
  have report : SgxReport sampleDeployment.crypto selectionEvidence selectionDigest sampleKeyX
      sampleKeyY := by
    constructor
    case signed =>
      rw [sha256_sample, sha256_sample]
      decide +kernel
    all_goals decide +kernel
  exact report.accepted rfl rfl (congrArg encodeToString (by decide +kernel))
    (congrArg encodeToString (by decide +kernel)) rfl rfl rfl

theorem selectionAttestation_checked :
    checkAttestation sampleDeployment.crypto sampleRegistry selectionAttestation = .ok () := by
  have named : enclaveIDOf sampleDeployment.crypto (replicate 32 0x11) 0 =
      encodeToString sampleEnclaveHash := by
    rw [enclaveIDOf, sha256_sample]
    exact congrArg encodeToString (by decide +kernel)
  have recovers : recoverSigner sampleDeployment.crypto selectionSignature
      (computeAttestationDigest sampleDeployment.crypto selectionAttestation) =
      some sampleOperator := by
    rw [selectionDigest_eq]
    decide +kernel
  have evidence : verifyPlatformEvidence sampleDeployment.crypto selectionAttestation
      (computeAttestationDigest sampleDeployment.crypto selectionAttestation) sampleEnclave =
      .ok () := by
    rw [selectionDigest_eq]
    exact selectionEvidence_accepted
  exact checkAttestation_eq_ok rfl (by decide +kernel) named (AList.lookup_insert _) rfl rfl rfl
    recovers (AList.lookup_insert _) rfl rfl evidence

def sampleTime : Instant := ⟨1060 * 10 ^ 9, by decide, by decide⟩

def sampleSelection : List Call :=
  [.register sampleRegistry.registeredEnclaves sampleRegistry.registeredOperators,
    .applyValidatorSelection sampleTime [] [sampleValidator] selectionAttestation 1]

def sampleStore : Store where
  activeValidators := ["val-1"]
  validators := (∅ : Map String ValidatorRecord).insert "val-1"
    { sampleValidator with isActive := true }
  registry := { sampleRegistry with usedNonces := [selectionAttestation.nonce] }

theorem selectionAttestation_accepted :
    verifyAttestation sampleDeployment.crypto (I64.ofInt sampleTime.unix) selectionAttestation
      sampleRegistry =
      (.ok (), { sampleRegistry with usedNonces := [selectionAttestation.nonce] }) := by
  have unused : selectionAttestation.nonce ∉ sampleRegistry.usedNonces := not_mem_nil
  have fresh : ¬(Int64.wrap ((I64.ofInt sampleTime.unix).val -
        selectionAttestation.timestamp.val) < 0 ∨
      Int64.wrap ((I64.ofInt sampleTime.unix).val - selectionAttestation.timestamp.val) >
        MaxAttestationAgeSec) := by decide
  rw [verifyAttestation_of_fresh sampleDeployment.crypto sampleRegistry selectionAttestation fresh
    unused, selectionAttestation_checked]
  rfl

theorem sampleSelection_admitted :
    SelectionAdmitted sampleDeployment { registry := sampleRegistry } sampleTime []
      [sampleValidator] selectionAttestation 1 := by
  refine ⟨rfl, cons_ne_nil _ _, ?_, selectionPayloadHash_sample.symm, by decide⟩
  rw [selectionAttestation_accepted]

theorem exec_sampleSelection :
    Run.exec (step sampleDeployment) {} sampleSelection = sampleStore := by
  have registered : step sampleDeployment {} (.register sampleRegistry.registeredEnclaves
      sampleRegistry.registeredOperators) = { registry := sampleRegistry } := rfl
  rw [sampleSelection, Run.exec_cons, Run.exec_cons, Run.exec_nil, registered, step,
    applyValidatorSelection_of_admitted sampleDeployment sampleSelection_admitted,
    selectionAttestation_accepted]
  rfl

end Sample

end Vault.Store
