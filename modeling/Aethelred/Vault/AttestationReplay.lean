import Aethelred.Lib.Run
import Aethelred.Vault.Attestation

/- Runs of attestation checks. A signed digest is accepted once as long as nonces of 32 bytes are
not spelt in two ways: the nonce is compared as text, but signed as the bytes it decodes to. -/
namespace Vault

open Go Attempt Bytes List Hex

section Preimages

variable {att other : TEEAttestation}

def preimageHead (att : TEEAttestation) : Go.Bytes :=
  "CruzibleTEEAttestation".toUTF8.toList ++ [att.platform] ++
    bigEndian 8 (att.timestamp.val % 2 ^ 64).toNat

theorem length_preimageHead (att : TEEAttestation) :
    (preimageHead att).length = "CruzibleTEEAttestation".toUTF8.toList.length + 9 := by
  simp only [preimageHead, length_append, length_singleton, length_bigEndian]

theorem nonce_of_preimage (same : attestationPreimage att = attestationPreimage other)
    (lengths : (decodePrefix att.nonce).length = (decodePrefix other.nonce).length) :
    decodePrefix att.nonce = decodePrefix other.nonce := by
  have split (item : TEEAttestation) : attestationPreimage item =
      preimageHead item ++ (decodePrefix item.nonce ++ (decodePrefix item.enclaveHash ++
        (decodePrefix item.signerHash ++ decodePrefix item.payloadHash))) := by
    simp only [attestationPreimage, preimageHead, append_assoc]
  rw [split, split] at same
  have heads : (preimageHead att).length = (preimageHead other).length := by
    rw [length_preimageHead, length_preimageHead]
  obtain ⟨-, rest⟩ := append_inj same heads
  exact (append_inj rest lengths).1

end Preimages

section Calls

variable {crypto : Crypto} {registry : Registry} {blockTime : I64} {att : TEEAttestation}

/-- An attestation is accepted, or rejected as too old or replayed, or rejected for what it says
with its nonce used up. -/
theorem verifyAttestation_cases (crypto : Crypto) (registry : Registry) (blockTime : I64)
    (att : TEEAttestation) :
    (∃ reason, verifyAttestation crypto blockTime att registry = (.error reason, registry)) ∨
    att.nonce ∉ registry.usedNonces ∧
      verifyAttestation crypto blockTime att registry =
        (checkAttestation crypto registry att,
          { registry with usedNonces := att.nonce :: registry.usedNonces }) := by
  simp only [verifyAttestation, ensure_bind, read_bind, modify_bind]
  split
  · split
    · rename_i unused
      refine .inr ⟨unused, ?_⟩
      cases checkAttestation crypto registry att <;> rfl
    · exact .inl ⟨_, rfl⟩
  · exact .inl ⟨_, rfl⟩

theorem verifyAttestation_of_fresh (crypto : Crypto) (registry : Registry) (att : TEEAttestation)
    (fresh : ¬(Int64.wrap (blockTime.val - att.timestamp.val) < 0 ∨
      Int64.wrap (blockTime.val - att.timestamp.val) > MaxAttestationAgeSec))
    (unused : att.nonce ∉ registry.usedNonces) :
    verifyAttestation crypto blockTime att registry =
      (checkAttestation crypto registry att,
        { registry with usedNonces := att.nonce :: registry.usedNonces }) := by
  simp only [verifyAttestation, ensure_bind, read_bind, modify_bind, if_pos fresh, if_pos unused]
  cases checkAttestation crypto registry att <;> rfl

theorem fresh_of_ok (accepted : (verifyAttestation crypto blockTime att registry).1 = .ok ()) :
    ¬(Int64.wrap (blockTime.val - att.timestamp.val) < 0 ∨
      Int64.wrap (blockTime.val - att.timestamp.val) > MaxAttestationAgeSec) ∧
    att.nonce ∉ registry.usedNonces ∧ checkAttestation crypto registry att = .ok () := by
  by_cases fresh : ¬(Int64.wrap (blockTime.val - att.timestamp.val) < 0 ∨
      Int64.wrap (blockTime.val - att.timestamp.val) > MaxAttestationAgeSec)
  · by_cases unused : att.nonce ∉ registry.usedNonces
    · rw [verifyAttestation_of_fresh crypto registry att fresh unused] at accepted
      exact ⟨fresh, unused, accepted⟩
    · simp only [verifyAttestation, ensure_bind, read_bind, if_pos fresh, if_neg unused] at accepted
      cases accepted
  · simp only [verifyAttestation, ensure_bind, if_neg fresh] at accepted
    cases accepted

theorem checkAttestation_respelt (crypto : Crypto) (registry : Registry) {nonce : String}
    (same : decodePrefix nonce = decodePrefix att.nonce) (used : List String) :
    computeAttestationDigest crypto { att with nonce } = computeAttestationDigest crypto att ∧
    checkAttestation crypto { registry with usedNonces := used } { att with nonce } =
      checkAttestation crypto registry att := by
  have digest : computeAttestationDigest crypto { att with nonce } =
      computeAttestationDigest crypto att := by
    simp only [computeAttestationDigest, attestationPreimage, same]
  refine ⟨digest, ?_⟩
  simp only [checkAttestation, digest]
  rfl

theorem verifyAttestation_respelt
    (accepted : (verifyAttestation crypto blockTime att registry).1 = .ok ()) {nonce : String}
    (differ : nonce ≠ att.nonce) (unused : nonce ∉ registry.usedNonces)
    (same : decodePrefix nonce = decodePrefix att.nonce) :
    (verifyAttestation crypto blockTime { att with nonce }
      (verifyAttestation crypto blockTime att registry).2).1 = .ok () ∧
    computeAttestationDigest crypto { att with nonce } = computeAttestationDigest crypto att := by
  obtain ⟨fresh, first, checked⟩ := fresh_of_ok accepted
  obtain ⟨digest, again⟩ := checkAttestation_respelt crypto registry same
    (att.nonce :: registry.usedNonces)
  have free : nonce ∉ att.nonce :: registry.usedNonces := by
    intro member
    obtain equal | earlier := mem_cons.mp member
    · exact differ equal
    · exact unused earlier
  have after : (verifyAttestation crypto blockTime att registry).2 =
      { registry with usedNonces := att.nonce :: registry.usedNonces } :=
    congrArg Prod.snd (verifyAttestation_of_fresh crypto registry att fresh first)
  have second := congrArg Prod.fst (verifyAttestation_of_fresh crypto
    { registry with usedNonces := att.nonce :: registry.usedNonces } { att with nonce } fresh free)
  rw [after]
  exact ⟨second.trans (again.trans checked), digest⟩

end Calls

section Acceptance

variable {crypto : Crypto} {registry : Registry} {att : TEEAttestation}

theorem decodeExactly_encodeToString {size : Nat} {bytes : Go.Bytes}
    (length : bytes.length = size) : decodeExactly size (encodeToString bytes) = some bytes := by
  rw [decodeExactly, decodeString_encodeToString]
  exact if_pos (decide_eq_true length)

theorem checkAttestation_eq_ok {measurement sigBytes recovered : Go.Bytes} {id : String}
    {enclave : EnclaveRegistration} {operator : OperatorRegistration}
    (hash : att.enclaveHash = encodeToString measurement)
    (lengths : measurement.length = 32 ∧ sigBytes.length = 65)
    (named : enclaveIDOf crypto measurement att.platform = id)
    (registered : registry.registeredEnclaves.lookup id = some enclave)
    (active : enclave.active = true) (signer : att.signerHash = enclave.signerHash)
    (signature : att.signature = encodeToString sigBytes)
    (recovers : recoverSigner crypto sigBytes (computeAttestationDigest crypto att) =
      some recovered)
    (known : registry.registeredOperators.lookup (encodeToString recovered) = some operator)
    (serving : operator.active = true) (bound : operator.enclaveID = id)
    (evidence : verifyPlatformEvidence crypto att (computeAttestationDigest crypto att) enclave =
      .ok ()) : checkAttestation crypto registry att = .ok () := by
  subst named
  have allowed : checkOperator registry (encodeToString recovered)
      (enclaveIDOf crypto measurement att.platform) = .ok () := by
    simp only [checkOperator, known, serving, bound, reduceCtorEq, ↓reduceIte, ne_eq,
      not_true_eq_false]
  simp only [checkAttestation, hash, signature, decodeExactly_encodeToString lengths.1,
    decodeExactly_encodeToString lengths.2, registered, active, signer, recovers, evidence,
    allowed, reduceCtorEq, ↓reduceIte, ne_eq, not_true_eq_false]
  rfl

/-- Evidence with the digest and the signature of the platform that has the keys. -/
structure SgxReport (crypto : Crypto) (evidence digest x y : Go.Bytes) : Prop where
  keys : x.length = 32 ∧ y.length = 32
  size : sgxLayout.size ≤ evidence.length
  data : slot evidence sgxLayout.dataAt = digest
  fresh : (slot evidence sgxLayout.rawAt).all (· == 0) = false
  signed : crypto.verifyP256 x y (crypto.sha256 (evidence.take (sgxLayout.dataAt + 32) ++
    sgxLayout.suffix ++ crypto.sha256 (slot evidence sgxLayout.rawAt ++ slot evidence 0 ++
      slot evidence 32))) (slot evidence sgxLayout.sigAt) (slot evidence (sgxLayout.sigAt + 32)) =
    true

theorem length_slot {evidence : Go.Bytes} {offset : Nat} (inside : offset + 32 ≤ evidence.length) :
    (slot evidence offset).length = 32 := by
  rw [slot, length_take, length_drop]
  omega

/-- A signed report of a registered enclave is accepted. -/
theorem SgxReport.accepted {evidence digest x y : Go.Bytes} {enclave : EnclaveRegistration}
    (report : SgxReport crypto evidence digest x y) (sgx : att.platform = 0)
    (encoded : att.platformEvidence = encodeToString evidence)
    (measured : att.enclaveHash = encodeToString (slot evidence 0))
    (signer : att.signerHash = encodeToString (slot evidence 32))
    (application : enclave.applicationHash = "")
    (keyX : enclave.platformKeyX = encodeToString x)
    (keyY : enclave.platformKeyY = encodeToString y) :
    verifyPlatformEvidence crypto att digest enclave = .ok () := by
  have size : 256 ≤ evidence.length := report.size
  have decoded : decodeString att.platformEvidence = some evidence := by
    rw [encoded]
    exact decodeString_encodeToString _
  have present : att.platformEvidence ≠ "" := by
    intro empty
    rw [empty] at decoded
    rw [← Option.some.inj decoded] at size
    exact absurd size (by decide)
  have signedBy : verifyReport crypto sgxLayout evidence enclave = .ok () := by
    simp only [verifyReport, keyX, keyY, decodeExactly_encodeToString report.keys.1,
      decodeExactly_encodeToString report.keys.2, report.signed, ↓reduceIte]
  have skipped : verifyApplication sgxLayout evidence enclave = .ok () := by
    simp only [verifyApplication, application, ne_eq, not_true_eq_false, and_false, ↓reduceIte]
  have accepted : verifyEvidence crypto sgxLayout evidence att.enclaveHash att.signerHash digest
      enclave = .ok () := by
    simp only [verifyEvidence, Nat.not_lt.mpr report.size, measured, signer,
      decodeExactly_encodeToString (length_slot (show 0 + 32 ≤ evidence.length by omega)),
      decodeExactly_encodeToString (length_slot (show 32 + 32 ≤ evidence.length by omega)),
      report.data, report.fresh, signedBy, skipped, reduceCtorEq, ↓reduceIte, ne_eq,
      not_true_eq_false]
    rfl
  simp only [verifyPlatformEvidence, present, decoded, sgx, ↓reduceIte]
  exact accepted

end Acceptance

section Runs

variable (crypto : Crypto)

/-- Attestations arrive while the registry changes. -/
inductive AttestationCall
  | verifyAttestation (blockTime : I64) (att : TEEAttestation)
  /-- Enclaves and operators are registered and revoked between the calls. -/
  | register (enclaves : Map String EnclaveRegistration)
      (operators : Map String OperatorRegistration)

/-- The registry and the attestations that have been accepted. -/
structure Verification where
  registry : Registry := {}
  accepted : List TEEAttestation := []

namespace Verification

def noted (accepted : List TEEAttestation) (att : TEEAttestation) :
    Except String Unit × Registry → Verification
  | (.ok _, registry) => ⟨registry, accepted ++ [att]⟩
  | (.error _, registry) => ⟨registry, accepted⟩

variable (state : Verification)

def step : AttestationCall → Verification
  | .verifyAttestation blockTime att =>
    noted state.accepted att (Vault.verifyAttestation crypto blockTime att state.registry)
  | .register enclaves operators =>
    { state with registry := { state.registry with
        registeredEnclaves := enclaves
        registeredOperators := operators } }

variable {crypto} in
theorem step_of_used {state : Verification} {blockTime : I64} {att : TEEAttestation}
    (used : att.nonce ∈ state.registry.usedNonces) :
    step crypto state (.verifyAttestation blockTime att) = state := by
  simp only [step, Vault.verifyAttestation, ensure_bind, read_bind, if_neg (not_not.mpr used)]
  split <;> rfl

variable {crypto} in
theorem step_of_ok {state : Verification} {registry : Registry} {blockTime : I64}
    {att : TEEAttestation}
    (accepted : Vault.verifyAttestation crypto blockTime att state.registry = (.ok (), registry)) :
    step crypto state (.verifyAttestation blockTime att) =
      ⟨registry, state.accepted ++ [att]⟩ := by
  change noted state.accepted att _ = _
  rw [accepted]
  rfl

/-- No two accepted attestations have one digest. -/
def NoReplay : Prop :=
  (state.accepted.map (computeAttestationDigest crypto)).Nodup

/-- The nonce decodes to 32 bytes, and no used nonce that is spelt differently decodes to them. -/
def OneSpelling : AttestationCall → Prop
  | .verifyAttestation _ att =>
    (decodePrefix att.nonce).length = 32 ∧
      ∀ used ∈ state.registry.usedNonces, used ≠ att.nonce →
        decodePrefix used ≠ decodePrefix att.nonce
  | .register _ _ => True

instance (call : AttestationCall) : Decidable (OneSpelling state call) :=
  match call with
  | .verifyAttestation _ _ => inferInstanceAs (Decidable (_ ∧ _))
  | .register _ _ => inferInstanceAs (Decidable True)

/-- Accepted nonces are used and of 32 bytes, and what was signed differs. -/
structure Kept (state : Verification) : Prop where
  used : ∀ att ∈ state.accepted, att.nonce ∈ state.registry.usedNonces
  lengths : ∀ att ∈ state.accepted, (decodePrefix att.nonce).length = 32
  distinct : (state.accepted.map attestationPreimage).Nodup

variable {crypto} {state : Verification}

/-- A nonce of one spelling keeps digests and nonces in step. -/
theorem Kept.verifyAttestation (kept : state.Kept) {blockTime : I64} {att : TEEAttestation}
    (spelling : OneSpelling state (.verifyAttestation blockTime att)) :
    (step crypto state (.verifyAttestation blockTime att)).Kept := by
  obtain ⟨length, respelt⟩ := spelling
  change (noted state.accepted att
    (Vault.verifyAttestation crypto blockTime att state.registry)).Kept
  obtain ⟨reason, failed⟩ | ⟨unused, done⟩ :=
    verifyAttestation_cases crypto state.registry blockTime att
  · rw [failed]
    exact kept
  · rw [done]
    cases checkAttestation crypto state.registry att with
    | error reason =>
      exact ⟨fun other member => mem_cons_of_mem _ (kept.used other member), kept.lengths,
        kept.distinct⟩
    | ok _ =>
      constructor
      · intro other member
        obtain earlier | last := mem_append.mp member
        · exact mem_cons_of_mem _ (kept.used other earlier)
        · rw [mem_singleton.mp last]
          exact mem_cons_self
      · intro other member
        obtain earlier | last := mem_append.mp member
        · exact kept.lengths other earlier
        · rw [mem_singleton.mp last]
          exact length
      · change ((state.accepted ++ [att]).map attestationPreimage).Nodup
        rw [map_append]
        refine Nodup.append kept.distinct (nodup_singleton _) ?_
        refine disjoint_singleton.mpr fun signed => ?_
        obtain ⟨earlier, member, same⟩ := mem_map.mp signed
        have differ : earlier.nonce ≠ att.nonce := by
          intro equal
          exact unused (equal ▸ kept.used earlier member)
        refine respelt earlier.nonce (kept.used earlier member) differ ?_
        exact nonce_of_preimage same ((kept.lengths earlier member).trans length.symm)

theorem Kept.step (kept : state.Kept) {call : AttestationCall} (spelling : OneSpelling state call) :
    (step crypto state call).Kept := by
  cases call with
  | verifyAttestation blockTime att => exact kept.verifyAttestation spelling
  | register enclaves operators => exact ⟨kept.used, kept.lengths, kept.distinct⟩

variable (crypto) in
/-- As long as no nonce is spelt in two ways and the hashes of what is signed do not collide, no
digest is accepted twice; another spelling of an accepted nonce is accepted at once. -/
theorem noReplay_run (calls : List AttestationCall)
    (spelling : Run.Along (step crypto) OneSpelling {} calls)
    (collisionless : ∀ first ∈ (Run.exec (step crypto) {} calls).accepted,
      ∀ second ∈ (Run.exec (step crypto) {} calls).accepted,
        computeAttestationDigest crypto first = computeAttestationDigest crypto second →
        attestationPreimage first = attestationPreimage second) :
    NoReplay crypto (Run.exec (step crypto) {} calls) ∧
    ∀ registry blockTime att nonce,
      (Vault.verifyAttestation crypto blockTime att registry).1 = .ok () → nonce ≠ att.nonce →
      nonce ∉ registry.usedNonces → decodePrefix nonce = decodePrefix att.nonce →
      (Vault.verifyAttestation crypto blockTime { att with nonce }
        (Vault.verifyAttestation crypto blockTime att registry).2).1 = .ok () ∧
      computeAttestationDigest crypto { att with nonce } = computeAttestationDigest crypto att := by
  have kept : (Run.exec (step crypto) {} calls).Kept := by
    refine Run.invariant Kept (fun _ _ fine kept => kept.step fine) ?_ spelling
    exact ⟨forall_mem_nil _, forall_mem_nil _, nodup_nil⟩
  refine ⟨?_, fun registry blockTime att nonce accepted differ unused same =>
    verifyAttestation_respelt accepted differ unused same⟩
  refine Nodup.map_on (fun first member second member' same => ?_) kept.distinct.of_map
  have signed := collisionless first member second member' same
  exact inj_on_of_nodup_map kept.distinct member member' signed

def wordBytes (value : Nat) : Go.Bytes := bigEndian 32 value

def sampleDigest : Go.Bytes :=
  wordBytes 0xf17ae730a3f86841d818a7ec1a6bd56f1436d8fc20d20b08848c50c0ba4f4c18

/-- The evidence of an enclave with measurements 11..11 and 22..22. -/
def sampleEvidence : Go.Bytes :=
  replicate 32 0x11 ++ replicate 32 0x22 ++ sampleDigest ++ replicate 64 0 ++
    replicate 32 0x44 ++
    wordBytes 0xeb6138614f91656993444425fed90079eb6b570be09b10db565f201702d1a1c9 ++
    wordBytes 0x70fc8343e1583a520fbee4b93508428986f0b1dac7d8c5c408032ea17511dd87

def sampleSignature : Go.Bytes :=
  wordBytes 0xf30e4bd8094e53a679ddb8f55b5216b03c44623fc4279ef0791f9aa1f6930d49 ++
    wordBytes 0x2583f959749a354948f53a16775c8a90968fb8e2f876c45f5857213382ea8628 ++ [28]

/-- An attestation at time 1000, with the nonce ab..ab in lower case. -/
def sampleAttestation : TEEAttestation where
  platform := 0
  timestamp := I64.ofInt 1000
  nonce := encodeToString (replicate 32 0xab)
  enclaveHash := encodeToString (replicate 32 0x11)
  signerHash := encodeToString (replicate 32 0x22)
  payloadHash := encodeToString (replicate 32 0x33)
  platformEvidence := encodeToString sampleEvidence
  signature := encodeToString sampleSignature

def upperNonce : String := String.ofList (replicate 32 ['A', 'B']).flatten

def samplePreimage : Go.Bytes :=
  "CruzibleTEEAttestation".toUTF8.toList ++ [0] ++ bigEndian 8 1000 ++
    replicate 32 0xab ++ replicate 32 0x11 ++ replicate 32 0x22 ++
    replicate 32 0x33

def sampleOperator : Go.Bytes :=
  2 :: wordBytes 0xd47644539acec3da5e3ecf5fe8863c628a9c97e8b71e9ea9167a6f4f83c03c32

def sampleKeyX : Go.Bytes :=
  wordBytes 0xce389b44538bcb5b96c250f4347d36af339bb8e44e01e9b772c01423c1d9a2ac

def sampleKeyY : Go.Bytes :=
  wordBytes 0xd60b6a5175612981fc02c44f461fd6ccf18345dfc70ea03f7c7c18f7b0afcb50

def sampleEnclaveHash : Go.Bytes :=
  wordBytes 0xfadbf4edc66569296a08ffc54972d422877697fd412a1add92ceddcfa1366432

def sampleBinding : Go.Bytes :=
  wordBytes 0x13d03cbc4c8cac17ddec2ab473eba2d735d84e4122064cf7fc6018f7a9531fb2

def sampleReportHash : Go.Bytes :=
  wordBytes 0x172cbfd29bace86f7a9d1ac0613a8898b520b694494a9b319736ef757f4b1655

def sampleCrypto : Crypto where
  sha256 bytes :=
    if bytes = replicate 32 0x11 ++ [0] then sampleEnclaveHash
    else if bytes = samplePreimage then sampleDigest
    else if bytes = replicate 32 0x44 ++ replicate 32 0x11 ++ replicate 32 0x22 then
      sampleBinding
    else if bytes = replicate 32 0x11 ++ replicate 32 0x22 ++ sampleDigest ++
        [0, 1, 0, 1] ++ sampleBinding then sampleReportHash
    else []
  recoverCompact compactSig digest :=
    if compactSig = 28 :: sampleSignature.take 64 ∧ digest = sampleDigest then
      some sampleOperator
    else none
  verifyP256 x y hash r s :=
    x = sampleKeyX ∧ y = sampleKeyY ∧ hash = sampleReportHash ∧
      r = wordBytes 0xeb6138614f91656993444425fed90079eb6b570be09b10db565f201702d1a1c9 ∧
      s = wordBytes 0x70fc8343e1583a520fbee4b93508428986f0b1dac7d8c5c408032ea17511dd87

def sampleEnclave : EnclaveRegistration where
  enclaveHash := sampleAttestation.enclaveHash
  signerHash := sampleAttestation.signerHash
  applicationHash := ""
  platform := 0
  active := true
  platformKeyX := encodeToString sampleKeyX
  platformKeyY := encodeToString sampleKeyY

def sampleRegistration : AttestationCall :=
  .register
    ((∅ : Map String EnclaveRegistration).insert (encodeToString sampleEnclaveHash)
      sampleEnclave)
    ((∅ : Map String OperatorRegistration).insert (encodeToString sampleOperator)
      ⟨encodeToString sampleOperator, encodeToString sampleEnclaveHash, true⟩)

def sampleCalls : List AttestationCall :=
  [sampleRegistration, .verifyAttestation (I64.ofInt 1060) sampleAttestation]

def sampleRegistry : Registry := (step sampleCrypto {} sampleRegistration).registry

theorem samplePreimage_eq : attestationPreimage sampleAttestation = samplePreimage := by
  have encoded (bytes : Go.Bytes) : decodePrefix (encodeToString bytes) = bytes :=
    decodePrefix_of_decodeString (decodeString_encodeToString bytes)
  simp only [attestationPreimage, sampleAttestation, encoded]
  rfl

theorem sampleDigest_eq :
    computeAttestationDigest sampleCrypto sampleAttestation = sampleDigest := by
  rw [computeAttestationDigest, samplePreimage_eq]
  decide +kernel

theorem sampleEvidence_accepted {enclave : EnclaveRegistration}
    (application : enclave.applicationHash = "")
    (keyX : enclave.platformKeyX = encodeToString sampleKeyX)
    (keyY : enclave.platformKeyY = encodeToString sampleKeyY) :
    verifyPlatformEvidence sampleCrypto sampleAttestation sampleDigest enclave = .ok () := by
  have report : SgxReport sampleCrypto sampleEvidence sampleDigest sampleKeyX sampleKeyY := by
    constructor
    all_goals decide +kernel
  exact report.accepted rfl rfl (congrArg encodeToString (by decide +kernel))
    (congrArg encodeToString (by decide +kernel)) application keyX keyY

theorem sampleAttestation_checked : checkAttestation sampleCrypto sampleRegistry sampleAttestation =
    .ok () := by
  have named : enclaveIDOf sampleCrypto (replicate 32 0x11) 0 =
      encodeToString sampleEnclaveHash := by
    rw [enclaveIDOf]
    exact congrArg encodeToString (by decide +kernel)
  have recovers : recoverSigner sampleCrypto sampleSignature
      (computeAttestationDigest sampleCrypto sampleAttestation) = some sampleOperator := by
    rw [sampleDigest_eq]
    decide +kernel
  have evidence : verifyPlatformEvidence sampleCrypto sampleAttestation
      (computeAttestationDigest sampleCrypto sampleAttestation) sampleEnclave = .ok () := by
    rw [sampleDigest_eq]
    exact sampleEvidence_accepted rfl rfl rfl
  exact checkAttestation_eq_ok rfl (by decide +kernel) named (AList.lookup_insert _) rfl rfl rfl
    recovers (AList.lookup_insert _) rfl rfl evidence

theorem sampleNonce_eq :
    sampleAttestation.nonce = encodeToString (replicate 32 0xab) := rfl

theorem sampleNonce_decodes :
    decodePrefix sampleAttestation.nonce = replicate 32 0xab := by
  rw [sampleNonce_eq]
  exact decodePrefix_of_decodeString (decodeString_encodeToString _)

theorem toList_upperNonce : upperNonce.toList = (replicate 32 ['A', 'B']).flatten :=
  String.toList_ofList

theorem upperNonce_decodes : decodePrefix upperNonce = replicate 32 0xab := by
  have pairs : decodePairs (replicate 32 ['A', 'B']).flatten = replicate 32 0xab := by
    decide +kernel
  unfold decodePrefix
  rw [toList_upperNonce]
  exact pairs

theorem upperNonce_ne : upperNonce ≠ encodeToString (replicate 32 0xab) := by
  intro same
  have differ : (replicate 32 ['A', 'B']).flatten ≠
      encodeChars (replicate 32 0xab) := by decide +kernel
  have chars := congrArg String.toList same
  rw [toList_upperNonce] at chars
  exact differ (chars.trans String.toList_ofList)

theorem sampleAttestation_accepted :
    verifyAttestation sampleCrypto (I64.ofInt 1060) sampleAttestation sampleRegistry =
      (.ok (), { sampleRegistry with usedNonces := [sampleAttestation.nonce] }) := by
  have unused : sampleAttestation.nonce ∉ sampleRegistry.usedNonces := not_mem_nil
  have fresh : ¬(Int64.wrap ((I64.ofInt 1060).val - sampleAttestation.timestamp.val) < 0 ∨
      Int64.wrap ((I64.ofInt 1060).val - sampleAttestation.timestamp.val) > MaxAttestationAgeSec) := by
    decide
  rw [verifyAttestation_of_fresh sampleCrypto sampleRegistry sampleAttestation fresh unused,
    sampleAttestation_checked]
  rfl

theorem sampleCalls_accepted :
    Run.exec (step sampleCrypto) {} sampleCalls =
      ⟨{ sampleRegistry with usedNonces := [sampleAttestation.nonce] }, [sampleAttestation]⟩ := by
  rw [sampleCalls, Run.exec_cons, Run.exec_cons, Run.exec_nil]
  exact step_of_ok sampleAttestation_accepted

/-- The attestation is accepted, and refused when it comes again ten seconds later. -/
theorem noReplay_sample :
    (Run.exec (step sampleCrypto) {} (sampleCalls ++
        [.verifyAttestation (I64.ofInt 1070) sampleAttestation])).accepted = [sampleAttestation] ∧
      NoReplay sampleCrypto (Run.exec (step sampleCrypto) {} (sampleCalls ++
        [.verifyAttestation (I64.ofInt 1070) sampleAttestation])) := by
  have accepted : (Run.exec (step sampleCrypto) {} (sampleCalls ++
      [.verifyAttestation (I64.ofInt 1070) sampleAttestation])).accepted = [sampleAttestation] := by
    rw [Run.exec_concat, sampleCalls_accepted, step_of_used (mem_singleton_self _)]
  have length : (decodePrefix sampleAttestation.nonce).length = 32 :=
    (congrArg length sampleNonce_decodes).trans length_replicate
  have spelling : Run.Along (step sampleCrypto) OneSpelling {} (sampleCalls ++
      [.verifyAttestation (I64.ofInt 1070) sampleAttestation]) := by
    refine (Run.along_append _ _ _).mpr ⟨⟨trivial, ⟨length, forall_mem_nil _⟩, trivial⟩, ?_⟩
    rw [sampleCalls_accepted]
    exact ⟨⟨length, fun used member other => absurd (mem_singleton.mp member) other⟩, trivial⟩
  refine ⟨accepted, (noReplay_run sampleCrypto _ spelling ?_).1⟩
  intro first member second member' _
  rw [accepted] at member member'
  rw [mem_singleton.mp member, mem_singleton.mp member']

/-- The nonce in upper case is another key of the store and the same bytes to the signature. -/
theorem replay_respelt :
    ¬NoReplay sampleCrypto (Run.exec (step sampleCrypto) {} (sampleCalls ++
      [.verifyAttestation (I64.ofInt 1060) { sampleAttestation with nonce := upperNonce }])) := by
  have same : decodePrefix upperNonce = decodePrefix sampleAttestation.nonce :=
    upperNonce_decodes.trans sampleNonce_decodes.symm
  have first := congrArg Prod.fst sampleAttestation_accepted
  obtain ⟨again, digest⟩ := verifyAttestation_respelt first
    (fun equal => upperNonce_ne (equal.trans sampleNonce_eq)) not_mem_nil same
  rw [sampleAttestation_accepted] at again
  rw [Run.exec_concat, sampleCalls_accepted]
  generalize { sampleAttestation with nonce := upperNonce } = respelt at again digest ⊢
  have both : (step sampleCrypto
      ⟨{ sampleRegistry with usedNonces := [sampleAttestation.nonce] }, [sampleAttestation]⟩
      (.verifyAttestation (I64.ofInt 1060) respelt)).accepted = [sampleAttestation, respelt] :=
    congrArg Verification.accepted (step_of_ok (Prod.ext again rfl))
  unfold NoReplay
  rw [both]
  intro distinct
  exact (nodup_cons.mp distinct).1 (mem_singleton.mpr digest.symm)

end Verification

end Runs

end Vault
