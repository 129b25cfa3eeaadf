import Aethelred.Vault.StakingRun

/- The active validators of the vault, a list and a flag on each record. A selection replaces the
list and sets flags, but clears none: list and flags agree as long as every selection takes over the
validators that are active. -/
namespace Vault.Store

open Go Attempt Bytes List Hex

def flag (store : Store) (address : String) : Option Bool :=
  (store.validators.lookup address).map (·.isActive)

/-- The list has no address twice, and has those of the records that are flagged. -/
structure ActiveListed (store : Store) : Prop where
  distinct : store.activeValidators.Nodup
  listed : ∀ address, address ∈ store.activeValidators ↔ store.flag address = some true

theorem ActiveListed.empty : ActiveListed {} where
  distinct := nodup_nil
  listed _ := iff_of_false not_mem_nil nofun

section Flags

variable {store after : Store} {validator : ValidatorRecord}

/-- No validator has become active or inactive. -/
def SameFlags (before after : Store) : Prop := ∀ address, after.flag address = before.flag address

theorem SameFlags.refl (store : Store) : SameFlags store store := fun _ => rfl

theorem SameFlags.trans {a b c : Store} (first : SameFlags a b) (second : SameFlags b c) :
    SameFlags a c := fun address => (second address).trans (first address)

theorem SameFlags.of_validators (same : after.validators = store.validators) :
    SameFlags store after := by
  intro address
  rw [flag, flag, same]

theorem flag_setValidator (address : String) :
    (store.setValidator validator).flag address =
      if address = validator.address then some validator.isActive else store.flag address := by
  unfold flag
  rw [lookup_setValidator]
  split
  · rfl
  · rfl

theorem flag_of_lookup {address : String}
    (found : store.validators.lookup address = some validator) :
    store.flag address = some validator.isActive := by
  rw [flag, found, Option.map_some]

theorem sameFlags_setValidator (same : store.flag validator.address = some validator.isActive) :
    SameFlags store (store.setValidator validator) := by
  intro address
  rw [flag_setValidator]
  split
  · rename_i here
    rw [here, same]
  · rfl

section

variable (keyed : store.Keyed)
include keyed

theorem Keyed.sameFlags_releaseStake (validatorAddr : String)
    (amount : UInt64) : SameFlags store (store.releaseStake validatorAddr amount) := by
  intro address
  unfold flag
  rw [keyed.lookup_releaseStake]
  split
  · rw [Option.map_map]
    congr 1
  · rfl

theorem Keyed.sameFlags_delegated {validatorAddr : String}
    (found : store.validators.lookup validatorAddr = some validator) (staker : StakerRecord)
    (stake : UInt64) :
    SameFlags store ((if staker.delegatedTo ≠ "" then
        store.releaseStake staker.delegatedTo staker.stakedAmount
      else store).setValidator { validator with delegatedStake := stake }) := by
  have own := keyed.validator validatorAddr validator found
  have flagged : store.flag validator.address = some validator.isActive := by
    rw [own]
    exact flag_of_lookup found
  split
  · have released := keyed.sameFlags_releaseStake staker.delegatedTo staker.stakedAmount
    exact released.trans (sameFlags_setValidator ((released _).trans flagged))
  · exact sameFlags_setValidator flagged

theorem Keyed.sameFlags_recordStake {address evmAddr validatorAddr : String}
    {amount shares : UInt64} (found : store.validators.lookup validatorAddr = some validator) :
    SameFlags store
      (Store.recordStake address evmAddr amount shares validatorAddr validator store) := by
  have own := keyed.validator validatorAddr validator found
  have flagged : store.flag validator.address = some validator.isActive := by
    rw [own]
    exact flag_of_lookup found
  have more := @sameFlags_setValidator store
    { validator with delegatedStake := validator.delegatedStake + amount } flagged
  unfold Store.recordStake
  split
  · rename_i staker _
    dsimp only
    split
    · exact keyed.sameFlags_delegated found staker _
    · exact more
  · exact more

theorem Keyed.sameFlags_booking (staker : StakerRecord)
    (shares : UInt64) : SameFlags store (store.booking staker shares) := by
  show SameFlags store (store.recordUnstake staker shares)
  unfold Store.recordUnstake
  split
  · exact (keyed.sameFlags_releaseStake _ _).trans (.of_validators rfl)
  · exact .of_validators rfl

end

end Flags

section Validators

variable {store : Store} {validators : List ValidatorRecord}

theorem flag_persistValidators (distinct : (validators.map (·.address)).Nodup) (address : String) :
    (persistValidators validators store).flag address =
      if address ∈ validators.map (·.address) then some true else store.flag address := by
  unfold flag
  split
  · rename_i selected
    obtain ⟨v, member, named⟩ := mem_map.mp selected
    rw [(lookup_persistValidators distinct).mpr (.inl ⟨v, member, named, rfl⟩)]
    rfl
  · rename_i dropped
    have other : ∀ v ∈ validators, v.address ≠ address :=
      fun v member named => dropped (mem_map.mpr ⟨v, member, named⟩)
    congr 1
    apply Option.ext
    intro validator
    refine (lookup_persistValidators distinct).trans ⟨?_, fun there => .inr ⟨other, there⟩⟩
    rintro (⟨v, member, named, _⟩ | ⟨_, there⟩)
    · exact absurd named (other v member)
    · exact there

end Validators

/-- A selection takes over the validators that are active. -/
def Retains (deployment : Deployment) (store : Store) : Call → Prop
  | .applyValidatorSelection blockTime eligibleAddrs validators attestation epoch =>
    SelectionAdmitted deployment store blockTime eligibleAddrs validators attestation epoch →
      ∀ address ∈ store.activeValidators, address ∈ validators.map (·.address)
  | _ => True

section Step

variable (deployment : Deployment) {store after : Store}

theorem ActiveListed.of_same (listed : store.ActiveListed)
    (list : after.activeValidators = store.activeValidators)
    (flags : SameFlags store after) : after.ActiveListed where
  distinct := by
    rw [list]
    exact listed.distinct
  listed address := by
    rw [list, flags]
    exact listed.listed address

theorem SameAccounts.sameFlags (same : SameAccounts after store) : SameFlags store after :=
  .of_validators same.validators

theorem ActiveListed.persistValidators_iff (listed : store.ActiveListed)
    {validators : List ValidatorRecord} (distinct : (validators.map (·.address)).Nodup) :
    (Store.persistValidators validators store).ActiveListed ↔
      ∀ address ∈ store.activeValidators, address ∈ validators.map (·.address) := by
  constructor
  · intro after address active
    by_contra dropped
    have flagged := @flag_persistValidators store _ distinct address
    rw [if_neg dropped, (listed.listed address).mp active] at flagged
    exact dropped ((after.listed address).mpr flagged)
  · intro retains
    refine ⟨distinct, fun address => ?_⟩
    rw [flag_persistValidators distinct]
    show address ∈ validators.map (·.address) ↔ _
    split
    · rename_i selected
      exact iff_of_true selected rfl
    · rename_i dropped
      refine iff_of_false dropped fun flagged => dropped ?_
      exact retains address ((listed.listed address).mpr flagged)

theorem ActiveListed.slashed (listed : store.ActiveListed) (keyed : store.Keyed)
    {validatorAddr : String} {v : ValidatorRecord}
    (found : store.validators.lookup validatorAddr = some v)
    (slashed : Slashed store after validatorAddr v) : after.ActiveListed := by
  have own := keyed.validator validatorAddr v found
  refine ⟨?_, fun address => ?_⟩
  · rw [slashed.active]
    exact listed.distinct.erase _
  · have flagged : after.flag address =
        if address = v.address then some false else store.flag address := by
      unfold flag
      rw [slashed.accounts.validators]
      exact flag_setValidator address
    rw [slashed.active, flagged, own, listed.distinct.mem_erase_iff, listed.listed]
    split
    · rename_i same
      exact iff_of_false (fun both => both.1 same) nofun
    · rename_i other
      exact and_iff_right other

theorem Refused.retains {call : Call} (refused : Refused deployment store call) :
    Retains deployment store call := by
  cases call with
  | applyValidatorSelection _ _ _ _ _ => exact fun admitted => absurd admitted refused
  | _ => exact trivial

/-- A step keeps the list of active validators exactly if it retains them. -/
theorem ActiveListed.step_iff (listed : store.ActiveListed) (keyed : store.Keyed) (call : Call) :
    (store.step deployment call).ActiveListed ↔ Retains deployment store call := by
  have changes := changes_step deployment store call
  generalize store.step deployment call = after at changes ⊢
  cases changes with
  | staked admitted resolved =>
    refine iff_of_true (listed.of_same ?_ ?_) trivial
    · rw [recordStake_frame admitted.named]
      rfl
    · exact (keyed.minting _).sameFlags_recordStake admitted.found
  | minted admitted unresolved => exact iff_of_true ⟨listed.distinct, listed.listed⟩ trivial
  | delegated admitted =>
    refine iff_of_true (listed.of_same ?_ ?_) trivial
    · rw [moving_eq]
      rfl
    · unfold Store.moving
      split
      · exact keyed.sameFlags_delegated admitted.found _ _
      · exact .refl store
  | unstaked admitted inTime booked =>
    have booking := keyed.sameFlags_booking
    exact iff_of_true (listed.of_same booked.active
      ((booking _ _).trans booked.accounts.sameFlags)) trivial
  | late admitted late =>
    refine iff_of_true (listed.of_same ?_ (keyed.sameFlags_booking _ _)) trivial
    rw [booking, recordUnstake_eq]
  | withdrawn found outstanding => exact iff_of_true ⟨listed.distinct, listed.listed⟩ trivial
  | selected admitted registry =>
    have within : ActiveListed { store with registry } := ⟨listed.distinct, listed.listed⟩
    refine (within.persistValidators_iff
      (nodup_of_firstDuplicate admitted.distinct).1).trans ?_
    exact ⟨fun retains _ => retains, fun retains => retains admitted⟩
  | slashed found slashed => exact iff_of_true (listed.slashed keyed found slashed) trivial
  | snapshotted taken =>
    obtain ⟨snapshots, rfl, -⟩ := taken
    exact iff_of_true ⟨listed.distinct, listed.listed⟩ trivial
  | kept refused same =>
    exact iff_of_true (listed.of_same same.lists.active same.accounts.sameFlags)
      (refused.retains deployment)

end Step

section Sample

open Verification

structure SelectionSample where
  address : String
  epoch : UInt64
  nonce : UInt8
  addressHash : Nat
  innerHash : Nat
  setHash : Nat
  selectionHash : Nat
  digest : Nat
  signature : Nat
  reportHash : Nat
  reportSignature : Nat

namespace SelectionSample

variable (sample : SelectionSample)

def validator : ValidatorRecord := { sampleValidator with address := sample.address }

def evidence : Go.Bytes :=
  replicate 32 0x11 ++ replicate 32 0x22 ++ wordBytes sample.digest ++
    replicate 64 0 ++ replicate 32 0x44 ++
    wordBytes 0xeb6138614f91656993444425fed90079eb6b570be09b10db565f201702d1a1c9 ++
    wordBytes sample.reportSignature

def signatureBytes : Go.Bytes :=
  wordBytes 0xf30e4bd8094e53a679ddb8f55b5216b03c44623fc4279ef0791f9aa1f6930d49 ++
    wordBytes sample.signature ++ [28]

def attestation : TEEAttestation where
  platform := 0
  timestamp := I64.ofInt 1000
  nonce := encodeToString (replicate 32 sample.nonce)
  enclaveHash := encodeToString (replicate 32 0x11)
  signerHash := encodeToString (replicate 32 0x22)
  payloadHash := encodeToString (wordBytes sample.selectionHash)
  platformEvidence := encodeToString sample.evidence
  signature := encodeToString sample.signatureBytes

def preimage : Go.Bytes :=
  "CruzibleTEEAttestation".toUTF8.toList ++ [0] ++ bigEndian 8 1000 ++
    replicate 32 sample.nonce ++ replicate 32 0x11 ++ replicate 32 0x22 ++
    wordBytes sample.selectionHash

def hashes : List (Go.Bytes × Nat) :=
  [(sample.preimage, sample.digest),
    (replicate 32 0x11 ++ replicate 32 0x22 ++ wordBytes sample.digest ++ [0, 1, 0, 1] ++
      sampleBinding, sample.reportHash),
    (sample.address.toUTF8.toList, sample.addressHash),
    (replicate 12 0 ++ (wordBytes sample.addressHash).take 20 ++ wordBytes 0 ++
      wordBytes 9500 ++ wordBytes 8000 ++ wordBytes 9000 ++ wordBytes 8850 ++
      replicate 32 0x77 ++ wordBytes 500, sample.innerHash),
    ("CruzibleValidatorSet-v1".toUTF8.toList ++ bigEndian 8 sample.epoch.toNat ++
      bigEndian 4 1 ++ wordBytes sample.innerHash, sample.setHash),
    (wordBytes sample.setHash ++ wordBytes policyHash ++ wordBytes universeHash,
      sample.selectionHash)]

end SelectionSample

def firstSelection : SelectionSample where
  address := "val-1"
  epoch := 1
  nonce := 0xab
  addressHash := addressHash
  innerHash := innerHash
  setHash := setHash
  selectionHash := selectionHash
  digest := 0x167adb864fac12156bc2a29ce82dfa3d5d385d603dc867969c6daf8d0b925b9b
  signature := 0x5b1c2eeae1bf72138a7cff0cc49a86824cc824a26f6c5363251bb39a58bbccb6
  reportHash := selectionReportHash
  reportSignature := 0x148a1236dd97b1f7d3693b8bc184558899d93010e2628b28311fe17773de57f9

def secondSelection : SelectionSample where
  address := "val-2"
  epoch := 2
  nonce := 0xcd
  addressHash := 0x2a44e4f4822cd8f6a022703c64ec6fced3f059581ed899a0d285410774bcd34b
  innerHash := 0x98faadfde8dd0fadaa60da745ad2f5be6b57b31c793c69eef93ea67317368140
  setHash := 0xe9ac3f26e28ffbe3dc854570956206d19de1a40d169a5a3f1ece4260a9c9e10e
  selectionHash := 0xaa136c36537021a2df1a3fb9d20eee1e0115283c086d9b2f02234d0d2b102433
  digest := 0x906f859ef06bd6981c66d718486626bd8b40c8209e0e384508b9896f15130172
  signature := 0x48978002670d7958f4aa444282fd1468f5951fceda21130271d8a18c79f7ff43
  reportHash := 0xbadda9fd2eab4d586531eba0733d9765a00730be8380b46e0d247a6302502e34
  reportSignature := 0x2633304aadee923df405cdedd4b296d20d75773993285e3cf7e3a7f920a5386a

def commonHashes : List (Go.Bytes × Nat) :=
  [(replicate 32 0x11 ++ [0],
      0xfadbf4edc66569296a08ffc54972d422877697fd412a1add92ceddcfa1366432),
    (replicate 32 0x44 ++ replicate 32 0x11 ++ replicate 32 0x22,
      0x13d03cbc4c8cac17ddec2ab473eba2d735d84e4122064cf7fc6018f7a9531fb2),
    (selectionPolicyPreimage, policyHash), ([], universeHash)]

def changingHash (bytes : Go.Bytes) : Nat :=
  ((commonHashes ++ firstSelection.hashes ++ secondSelection.hashes).lookup bytes).getD 0

def changingDeployment : Deployment where
  authority := "gov"
  sha256 bytes := hashBytes (changingHash bytes)
  recoverCompact compactSig digest :=
    if ∃ sample ∈ [firstSelection, secondSelection],
        compactSig = 28 :: sample.signatureBytes.take 64 ∧ digest = wordBytes sample.digest then
      some sampleOperator
    else none
  verifyP256 x y hash r s :=
    x = sampleKeyX ∧ y = sampleKeyY ∧
      r = wordBytes 0xeb6138614f91656993444425fed90079eb6b570be09b10db565f201702d1a1c9 ∧
      ∃ sample ∈ [firstSelection, secondSelection],
        hash = wordBytes sample.reportHash ∧ s = wordBytes sample.reportSignature
  accAddressFromBech32 _ := none
  toLowerRune := Strings.toLowerRune

def registryAfter (nonces : List String) : Registry := { sampleRegistry with usedNonces := nonces }

theorem sha256_changing (bytes : Go.Bytes) :
    changingDeployment.crypto.sha256 bytes = wordBytes (changingHash bytes) :=
  ofFn_hashBytes _

namespace SelectionSample

variable {sample : SelectionSample} (known : sample = firstSelection ∨ sample = secondSelection)

include known

theorem digest_eq :
    computeAttestationDigest changingDeployment.crypto sample.attestation =
      wordBytes sample.digest := by
  have encoded (bytes : Go.Bytes) : decodePrefix (encodeToString bytes) = bytes :=
    decodePrefix_of_decodeString (decodeString_encodeToString bytes)
  have preimage : attestationPreimage sample.attestation = sample.preimage := by
    simp only [attestationPreimage, attestation, encoded]
    rfl
  rw [computeAttestationDigest, preimage, sha256_changing]
  rcases known with rfl | rfl
  · decide +kernel
  · decide +kernel

theorem evidence_accepted :
    verifyPlatformEvidence changingDeployment.crypto sample.attestation (wordBytes sample.digest)
      sampleEnclave = .ok () := by
  have report : SgxReport changingDeployment.crypto sample.evidence (wordBytes sample.digest)
      sampleKeyX sampleKeyY := by
    rcases known with rfl | rfl
    all_goals
      constructor
      case signed =>
        rw [sha256_changing, sha256_changing]
        decide +kernel
      all_goals decide +kernel
  have slots : replicate 32 0x11 = slot sample.evidence 0 ∧
      replicate 32 0x22 = slot sample.evidence 32 := by
    rcases known with rfl | rfl
    · decide +kernel
    · decide +kernel
  exact report.accepted rfl rfl (congrArg encodeToString slots.1)
    (congrArg encodeToString slots.2) rfl rfl rfl

/-- The sample attestation is accepted whatever nonces are used. -/
theorem checked (nonces : List String) :
    checkAttestation changingDeployment.crypto (registryAfter nonces) sample.attestation =
      .ok () := by
  have named : enclaveIDOf changingDeployment.crypto (replicate 32 0x11) 0 =
      encodeToString sampleEnclaveHash := by
    rw [enclaveIDOf, sha256_changing]
    exact congrArg encodeToString (by decide +kernel)
  have lengths : (replicate 32 (0x11 : UInt8)).length = 32 ∧
      sample.signatureBytes.length = 65 := by
    rcases known with rfl | rfl
    · decide +kernel
    · decide +kernel
  have recovers : recoverSigner changingDeployment.crypto sample.signatureBytes
      (computeAttestationDigest changingDeployment.crypto sample.attestation) =
      some sampleOperator := by
    rw [digest_eq known]
    rcases known with rfl | rfl
    · decide +kernel
    · decide +kernel
  have evidence : verifyPlatformEvidence changingDeployment.crypto sample.attestation
      (computeAttestationDigest changingDeployment.crypto sample.attestation) sampleEnclave =
      .ok () := by
    rw [digest_eq known]
    exact evidence_accepted known
  exact checkAttestation_eq_ok rfl lengths named (AList.lookup_insert _) rfl rfl rfl recovers
    (AList.lookup_insert _) rfl rfl evidence

theorem verified (nonces : List String) (unused : sample.attestation.nonce ∉ nonces) :
    verifyAttestation changingDeployment.crypto (I64.ofInt sampleTime.unix) sample.attestation
      (registryAfter nonces) = (.ok (), registryAfter (sample.attestation.nonce :: nonces)) := by
  have fresh : ¬(Int64.wrap ((I64.ofInt sampleTime.unix).val - (I64.ofInt 1000).val) < 0 ∨
      Int64.wrap ((I64.ofInt sampleTime.unix).val - (I64.ofInt 1000).val) >
        MaxAttestationAgeSec) := by decide
  rw [verifyAttestation_of_fresh changingDeployment.crypto (registryAfter nonces)
    sample.attestation fresh unused, checked known]
  rfl

end SelectionSample

end Sample

end Vault.Store
