import Aethelred.App.VoteExtension

/- Which extensions the bytes under the hash tell apart. -/
namespace Aethelred.App

open Go Code Bytes List

theorem separates_lenBytes {b b' : Bytes} (first : b.length < 2 ^ 32) (second : b'.length < 2 ^ 32) :
    Separates b b' (lenBytes b) (lenBytes b') := by
  have apart : Distinguished 4 b.length b'.length := .of_lt first second
  exact apart.separates_bigEndian.before_word

theorem separates_int64Bytes {v v' : Int} (first : Int64.Fits v) (second : Int64.Fits v') :
    Separates v v' (int64Bytes v) (int64Bytes v') := by
  unfold Int64.Fits at first second
  have within (number : Int) : (number % 2 ^ 64).toNat < 256 ^ 8 := by omega
  have apart : Separates (v % 2 ^ 64).toNat (v' % 2 ^ 64).toNat (int64Bytes v) (int64Bytes v') :=
    separates_bigEndian (within v) (within v')
  intro rest rest' same
  obtain ⟨numbers, behind⟩ := apart _ _ same
  exact ⟨by omega, behind⟩

theorem separates_I64 (v v' : I64) : Separates v v' (int64Bytes v.val) (int64Bytes v'.val) := by
  intro rest rest' same
  obtain ⟨numbers, behind⟩ := separates_int64Bytes v.fits v'.fits _ _ same
  exact ⟨I64.ext numbers, behind⟩

theorem separates_unixNano {t t' : Instant} (first : Int64.Fits t.unixNano)
    (second : Int64.Fits t'.unixNano) :
    Separates t t' (int64Bytes (unixNano t)) (int64Bytes (unixNano t')) := by
  rw [unixNano, unixNano, Int64.wrap_of_fits first, Int64.wrap_of_fits second]
  intro rest rest' same
  obtain ⟨numbers, behind⟩ := separates_int64Bytes first second _ _ same
  cases t
  cases t'
  exact ⟨congrArg Instant.mk numbers, behind⟩

theorem separates_version (version version' : Int32) :
    Separates version version' (bigEndian 4 version.toBitVec.toNat)
      (bigEndian 4 version'.toBitVec.toNat) := by
  intro rest rest' same
  obtain ⟨numbers, behind⟩ := separates_bigEndian version.toBitVec.isLt version'.toBitVec.isLt _ _
    same
  exact ⟨Int32.toBitVec_inj.mp (BitVec.eq_of_toNat_eq numbers), behind⟩

theorem toUInt8_injective : Function.Injective Bool.toUInt8 := by
  intro flag flag' same
  cases flag <;> cases flag' <;> first | rfl | cases same

/-- The attestation's bytes end where they do, if the chains are told apart. -/
theorem TEEAttestationData.Representable.separates {tee tee' : TEEAttestationData}
    (first : tee.Representable) (second : tee'.Representable)
    (chains : Distinguished 4 tee.certificateChain.length tee'.certificateChain.length) :
    Separates tee tee' tee.hashInput tee'.hashInput := by
  have fits (field : Bytes) (member : field ∈ tee.byteFields) := first.bytes field member
  have fits' (field : Bytes) (member : field ∈ tee'.byteFields) := second.bytes field member
  simp only [byteFields, cons_append, nil_append, mem_cons, forall_eq_or_imp]
    at fits fits'
  obtain ⟨platform, enclave, measurement, quote, user, nonce, chain, certificates⟩ := fits
  obtain ⟨platform', enclave', measurement', quote', user', nonce', chain', certificates'⟩ := fits'
  intro rest rest' same
  simp only [hashInput, append_assoc] at same
  obtain ⟨platforms, same⟩ := separates_lenBytes platform platform' _ _ same
  obtain ⟨enclaves, same⟩ := separates_lenBytes enclave enclave' _ _ same
  obtain ⟨measurements, same⟩ := separates_lenBytes measurement measurement' _ _ same
  obtain ⟨quotes, same⟩ := separates_lenBytes quote quote' _ _ same
  obtain ⟨users, same⟩ := separates_lenBytes user user' _ _ same
  obtain ⟨times, same⟩ := separates_unixNano first.time second.time _ _ same
  obtain ⟨nonces, same⟩ := separates_lenBytes nonce nonce' _ _ same
  obtain ⟨heights, same⟩ := separates_I64 _ _ _ _ same
  obtain ⟨chainIDs, same⟩ := separates_lenBytes chain chain' _ _ same
  obtain ⟨counts, same⟩ := chains.separates_bigEndian _ _ same
  have each : ∀ pair ∈ tee.certificateChain.zip tee'.certificateChain,
      Separates pair.1 pair.2 (lenBytes pair.1) (lenBytes pair.2) := by
    intro pair member
    obtain ⟨inside, inside'⟩ := of_mem_zip member
    exact separates_lenBytes (certificates _ inside) (certificates' _ inside')
  obtain ⟨certificateChains, same⟩ := separates_flatMap counts each _ _ same
  refine ⟨?_, same⟩
  cases tee
  cases tee'
  exact mk.injEq .. ▸ ⟨platforms, enclaves, measurements, quotes, users, certificateChains, times,
    nonces, heights, chainIDs⟩

theorem ZKProofData.Representable.separates {zk zk' : ZKProofData} (first : zk.Representable)
    (second : zk'.Representable) : Separates zk zk' zk.hashInput zk'.hashInput := by
  simp only [Representable, byteFields, mem_cons, forall_eq_or_imp, not_mem_nil,
    IsEmpty.forall_iff, implies_true, and_true] at first second
  obtain ⟨system, proof, inputs, key, circuit⟩ := first
  obtain ⟨system', proof', inputs', key', circuit'⟩ := second
  intro rest rest' same
  simp only [hashInput, append_assoc] at same
  obtain ⟨systems, same⟩ := separates_lenBytes system system' _ _ same
  obtain ⟨proofs, same⟩ := separates_lenBytes proof proof' _ _ same
  obtain ⟨publicInputs, same⟩ := separates_lenBytes inputs inputs' _ _ same
  obtain ⟨keys, same⟩ := separates_lenBytes key key' _ _ same
  obtain ⟨circuits, same⟩ := separates_lenBytes circuit circuit' _ _ same
  obtain ⟨sizes, same⟩ := separates_I64 _ _ _ _ same
  refine ⟨?_, same⟩
  cases zk
  cases zk'
  exact mk.injEq .. ▸ ⟨systems, proofs, publicInputs, keys, circuits, sizes⟩

/-- A verification's bytes end where they do, if the chains are told apart. -/
theorem ComputeVerification.Representable.separates {v v' : ComputeVerification}
    (first : v.Representable) (second : v'.Representable)
    (chains : ∀ tee ∈ v.teeAttestation, ∀ tee' ∈ v'.teeAttestation,
      Distinguished 4 tee.certificateChain.length tee'.certificateChain.length) :
    Separates v v' v.hashInput v'.hashInput := by
  have fits := first.bytes
  have fits' := second.bytes
  simp only [byteFields, mem_cons, forall_eq_or_imp, not_mem_nil, IsEmpty.forall_iff,
    implies_true, and_true] at fits fits'
  obtain ⟨job, model, input, output, type, code, message, nonce⟩ := fits
  obtain ⟨job', model', input', output', type', code', message', nonce'⟩ := fits'
  intro rest rest' same
  simp only [hashInput, append_assoc] at same
  obtain ⟨jobs, same⟩ := separates_lenBytes job job' _ _ same
  obtain ⟨models, same⟩ := separates_lenBytes model model' _ _ same
  obtain ⟨inputs, same⟩ := separates_lenBytes input input' _ _ same
  obtain ⟨outputs, same⟩ := separates_lenBytes output output' _ _ same
  obtain ⟨types, same⟩ := separates_lenBytes type type' _ _ same
  obtain ⟨durations, same⟩ := separates_I64 _ _ _ _ same
  obtain ⟨successes, same⟩ := separates_singleton toUInt8_injective _ _ _ _ same
  obtain ⟨codes, same⟩ := separates_lenBytes code code' _ _ same
  obtain ⟨messages, same⟩ := separates_lenBytes message message' _ _ same
  obtain ⟨nonces, same⟩ := separates_lenBytes nonce nonce' _ _ same
  have teesApart : ∀ tee ∈ v.teeAttestation, ∀ tee' ∈ v'.teeAttestation,
      Separates tee tee' tee.hashInput tee'.hashInput := fun tee given tee' given' =>
    (first.tee tee given).separates (second.tee tee' given') (chains tee given tee' given')
  obtain ⟨tees, same⟩ := separates_flagged teesApart _ _ same
  have zksApart : ∀ zk ∈ v.zkProof, ∀ zk' ∈ v'.zkProof,
      Separates zk zk' zk.hashInput zk'.hashInput := fun zk given zk' given' =>
    (first.zk zk given).separates (second.zk zk' given')
  obtain ⟨zks, same⟩ := separates_flagged zksApart _ _ same
  refine ⟨?_, same⟩
  cases v
  cases v'
  exact mk.injEq .. ▸ ⟨jobs, models, inputs, outputs, types, tees, zks, durations, successes, codes,
    messages, nonces⟩

theorem ComputeVerification.hashInput_ne_nil (v : ComputeVerification) : v.hashInput ≠ [] := by
  intro none
  simp [hashInput] at none

/-- Extensions with short chains that are written alike have the same contents. The number of
verifications may wrap around: nothing is written behind them. -/
theorem VoteExtension.Representable.agrees {ve ve' : VoteExtension} (first : ve.Representable)
    (second : ve'.Representable) {most : Nat} (few : most < 2 ^ 32) (chains : ve.ChainsWithin most)
    (chains' : ve'.ChainsWithin most) (same : ve.hashInput = ve'.hashInput) : ve.Agrees ve' := by
  simp only [hashInput, append_assoc] at same
  have same := append_cancel_left same
  obtain ⟨versions, same⟩ := separates_version _ _ _ _ same
  obtain ⟨heights, same⟩ := separates_I64 _ _ _ _ same
  obtain ⟨addresses, same⟩ :=
    separates_lenBytes first.validatorAddress second.validatorAddress _ _ same
  obtain ⟨times, same⟩ := separates_unixNano first.time second.time _ _ same
  obtain ⟨nonces, same⟩ := separates_lenBytes first.nonce second.nonce _ _ same
  have behind := (append_inj same (by rw [length_bigEndian, length_bigEndian])).2
  have each : ∀ v ∈ ve.verifications, ∀ v' ∈ ve'.verifications,
      Separates v v' v.hashInput v'.hashInput := by
    intro v member v' member'
    apply (first.verifications v member).separates (second.verifications v' member')
    intro tee given tee' given'
    exact .of_lt ((chains v member tee given).trans_lt few)
      ((chains' v' member' tee' given').trans_lt few)
  exact ⟨versions, heights, addresses, times, nonces,
    flatMap_last ComputeVerification.hashInput_ne_nil each behind⟩

section Collision

/- A chain of 2^32 certificates is written with the count of an empty one, so its certificates
can be read as the proof behind an empty chain. -/

theorem lenBytes_of_length {b : Bytes} {size : Nat} (long : b.length = size) :
    lenBytes b = bigEndian 4 (size % 256 ^ 4) ++ b := by
  rw [lenBytes, long]

theorem flatMap_lenBytes_replicate_nil (count : Nat) :
    (replicate count ([] : Bytes)).flatMap lenBytes = replicate (4 * count) 0 := by
  induction count with
  | zero => rfl
  | succ count ih =>
    rw [replicate_succ, flatMap_cons, ih, Nat.mul_succ, Nat.add_comm,
      replicate_add]
    rfl

/-- Empty certificates, and the length of a certificate of four bytes. -/
def emptyCertificates (count : Nat) : Bytes := replicate (4 * count) 0 ++ [0, 0, 0, 4]

def collidingTEE (chain : List Bytes) : TEEAttestationData where
  platform := []
  enclaveID := []
  measurement := []
  quote := []
  userData := []
  certificateChain := chain
  timestamp := ⟨0⟩
  nonce := []
  blockHeight := ⟨0, .zero⟩
  chainID := []

def collidingExtension (chain : List Bytes) (zk : Option ZKProofData) : VoteExtension where
  version := 1
  height := ⟨1, .one⟩
  validatorAddress := []
  verifications := [{
    jobID := []
    modelHash := []
    inputHash := []
    outputHash := []
    attestationType := []
    teeAttestation := some (collidingTEE chain)
    zkProof := zk
    executionTimeMs := ⟨0, .zero⟩
    success := false
    errorCode := []
    errorMessage := []
    nonce := [] }]
  timestamp := ⟨0⟩
  nonce := []
  signature := []
  extensionHash := []

/-- A proof that is written like certificates: `filling` and then `count` empty ones between
its lengths. -/
def chainLikeProof (filling : Bytes) (count : Nat) : ZKProofData where
  proofSystem := filling ++ emptyCertificates 2
  proof := emptyCertificates count
  publicInputs := emptyCertificates count
  verifyingKeyHash := emptyCertificates count
  circuitHash := replicate (4 * count) 0 ++ [0, 0, 0, 7]
  proofSize := ⟨0, .zero⟩

def proofLikeChain (filling : Bytes) (count : Nat) : List Bytes :=
  [12 :: filling] ++ replicate 2 [] ++ [[255, 255, 255, 252]] ++ replicate count [] ++
    [[255, 255, 255, 252]] ++ replicate count [] ++ [[255, 255, 255, 252]] ++
    replicate count [] ++ [[255, 255, 255, 252]] ++ replicate count [] ++
    [[0, 0, 0, 0, 0, 0, 0]]

theorem length_proofLikeChain (filling : Bytes) (count : Nat) :
    (proofLikeChain filling count).length = 4 * count + 8 := by
  simp only [proofLikeChain, length_append, length_cons, length_nil,
    length_replicate]
  omega

variable {filling : Bytes} {count : Nat}

section

variable (filled : filling.length = 16843008) (most : 4 * count + 4 = 4294967292)
include filled most

/-- Certificates chosen to read as a proof. -/
theorem chain_proof_written_alike :
    (proofLikeChain filling count).flatMap lenBytes ++ [0] =
      1 :: (chainLikeProof filling count).hashInput := by
  have first : lenBytes (12 :: filling) = [1, 1, 1, 1, 12] ++ filling := by
    rw [lenBytes_of_length (show (12 :: filling).length = 16843009 by
      rw [length_cons, filled])]
    rfl
  have system : lenBytes (filling ++ emptyCertificates 2) =
      [1, 1, 1, 12] ++ (filling ++ emptyCertificates 2) := by
    rw [lenBytes_of_length (show (filling ++ emptyCertificates 2).length = 16843020 by
      rw [length_append, filled]; rfl)]
    rfl
  have other (last : UInt8) : lenBytes (replicate (4 * count) 0 ++ [0, 0, 0, last]) =
      [255, 255, 255, 252] ++ (replicate (4 * count) 0 ++ [0, 0, 0, last]) := by
    rw [lenBytes_of_length (show (replicate (4 * count) 0 ++ [0, 0, 0, last]).length =
      4294967292 by rw [length_append, length_replicate, ← most]; rfl)]
    rfl
  have four : lenBytes [255, 255, 255, 252] = [0, 0, 0, 4, 255, 255, 255, 252] := by decide
  have seven : lenBytes [0, 0, 0, 0, 0, 0, 0] ++ [0] = [0, 0, 0, 7] ++ int64Bytes 0 := by decide
  simp only [proofLikeChain, flatMap_append, flatMap_singleton,
    flatMap_lenBytes_replicate_nil, first, four, append_assoc, seven]
  rw [ZKProofData.hashInput, chainLikeProof]
  simp only [system]
  simp only [emptyCertificates, other, append_assoc, cons_append, nil_append]

theorem colliding_hashInput :
    (collidingExtension [] (some (chainLikeProof filling count))).hashInput =
      (collidingExtension (proofLikeChain filling count) none).hashInput := by
  have wrapped : (proofLikeChain filling count).length % 256 ^ 4 =
      ([] : List Bytes).length % 256 ^ 4 := by
    rw [length_proofLikeChain, show 4 * count + 8 = 256 ^ 4 by omega, Nat.mod_self]
    rfl
  have tails := chain_proof_written_alike filled most
  simp only [VoteExtension.hashInput, collidingExtension, flatMap_singleton,
    ComputeVerification.hashInput, flagged, TEEAttestationData.hashInput, collidingTEE, wrapped,
    append_assoc, cons_append, flatMap_nil, nil_append, append_nil,
    length_singleton, ← tails]

theorem chainLikeProof_representable : (chainLikeProof filling count).Representable := by
  have empties : (emptyCertificates count).length < 2 ^ 32 := by
    simp only [emptyCertificates, length_append, length_replicate, length_cons,
      length_nil]
    omega
  have last : (replicate (4 * count) 0 ++ [0, 0, 0, 7] : Bytes).length < 2 ^ 32 := by
    simp only [length_append, length_replicate, length_cons, length_nil]
    omega
  have system : (filling ++ emptyCertificates 2).length < 2 ^ 32 := by
    rw [length_append, filled]
    decide
  intro field member
  simp only [ZKProofData.byteFields, chainLikeProof, mem_cons, not_mem_nil,
    or_false] at member
  rcases member with rfl | rfl | rfl | rfl | rfl
  · exact system
  · exact empties
  · exact empties
  · exact empties
  · exact last

end

theorem mem_proofLikeChain {certificate : Bytes}
    (member : certificate ∈ proofLikeChain filling count) :
    certificate.length ≤ filling.length + 7 := by
  simp only [proofLikeChain, mem_append, mem_singleton, mem_replicate, or_assoc]
    at member
  rcases member with rfl | ⟨_, rfl⟩ | rfl | ⟨_, rfl⟩ | rfl | ⟨_, rfl⟩ | rfl | ⟨_, rfl⟩ | rfl |
    ⟨_, rfl⟩ | rfl
  all_goals simp only [length_cons, length_nil]; omega

theorem collidingExtension_representable {chain : List Bytes} {zk : Option ZKProofData}
    (certificates : ∀ certificate ∈ chain, certificate.length < 2 ^ 32)
    (proofs : ∀ proof ∈ zk, proof.Representable) : (collidingExtension chain zk).Representable := by
  have empty (fields : Nat) {field : Bytes} (member : field ∈ replicate fields ([] : Bytes)) :
      field.length < 2 ^ 32 := by
    rw [eq_of_mem_replicate member]
    decide
  have now : Int64.Fits 0 := by decide
  refine ⟨Nat.two_pow_pos 32, Nat.two_pow_pos 32, now, ?_⟩
  intro v member
  obtain rfl := mem_singleton.mp member
  refine ⟨fun field own => empty 8 own, ?_, proofs⟩
  intro tee given
  obtain rfl := Option.some.inj given
  refine ⟨?_, now⟩
  intro field field_mem
  rcases mem_append.mp field_mem with own | certificate
  · exact empty 7 own
  · exact certificates field certificate

theorem colliding_pair (filled : filling.length = 16843008) (most : 4 * count + 4 = 4294967292) :
    (collidingExtension [] (some (chainLikeProof filling count))).Representable ∧
      (collidingExtension (proofLikeChain filling count) none).Representable ∧
      (collidingExtension [] (some (chainLikeProof filling count))).hashInput =
        (collidingExtension (proofLikeChain filling count) none).hashInput ∧
      ¬(collidingExtension [] (some (chainLikeProof filling count))).Agrees
        (collidingExtension (proofLikeChain filling count) none) := by
  refine ⟨collidingExtension_representable ?_ ?_, collidingExtension_representable ?_ ?_,
    colliding_hashInput filled most, ?_⟩
  · intro certificate member
    cases member
  · intro proof given
    obtain rfl := Option.some.inj given
    exact chainLikeProof_representable filled most
  · intro certificate member
    have short := mem_proofLikeChain member
    omega
  · intro proof given
    cases given
  · intro agrees
    have proofs := congrArg (map ComputeVerification.zkProof) agrees.verifications
    exact Option.some_ne_none _ (cons.inj proofs).1

/-- With an empty chain and a proof on one side, and 2^32 certificates and no proof on the other. -/
theorem long_chain_hides_proof :
    let filling : Bytes := replicate 16843008 0
    let proven := collidingExtension [] (some (chainLikeProof filling 1073741822))
    let chained := collidingExtension (proofLikeChain filling 1073741822) none
    proven.Representable ∧ chained.Representable ∧ proven.hashInput = chained.hashInput ∧
      ¬proven.Agrees chained :=
  colliding_pair length_replicate (by decide)

end Collision

/-- Extensions with representable fields and at most `most` certificates in each chain are bound
by the bytes under their hash. -/
def BindsChainsWithin (most : Nat) : Prop :=
  ∀ ve ve' : VoteExtension, ve.Representable → ve'.Representable → ve.ChainsWithin most →
    ve'.ChainsWithin most → ve.hashInput = ve'.hashInput → ve.Agrees ve'

theorem not_bindsChainsWithin {most : Nat} (many : 2 ^ 32 ≤ most) : ¬BindsChainsWithin most := by
  intro binds
  have filled : (replicate 16843008 (0 : UInt8)).length = 16843008 := length_replicate
  generalize replicate 16843008 (0 : UInt8) = filling at filled
  obtain ⟨count, counted⟩ : ∃ count, 4 * count + 4 = 4294967292 := ⟨1073741822, by decide⟩
  obtain ⟨first, second, same, differ⟩ := colliding_pair filled counted
  apply differ
  apply binds _ _ first second _ _ same
  · intro v member tee given
    obtain rfl := mem_singleton.mp member
    obtain rfl := Option.some.inj given
    exact Nat.zero_le most
  · intro v member tee given
    obtain rfl := mem_singleton.mp member
    obtain rfl := Option.some.inj given
    show (proofLikeChain filling count).length ≤ most
    rw [length_proofLikeChain]
    omega

/-- The bytes under the hash bind the whole content exactly as long as the number of certificates
of a chain is not cut when it is written. -/
theorem hashInput_binds_iff (most : Nat) : BindsChainsWithin most ↔ most < 2 ^ 32 := by
  constructor
  · intro binds
    by_contra many
    exact not_bindsChainsWithin (Nat.le_of_not_lt many) binds
  · intro few ve ve' first second chains chains' same
    exact first.agrees second few chains chains' same

end Aethelred.App
