import Aethelred.Core.Transaction

/- Which transactions the signing bytes tell apart. -/
namespace Core

open Code Function Bytes List Option

theorem AddressType.toByte_injective : Injective AddressType.toByte := by
  intro kind kind' same
  cases kind <;> cases kind' <;> first | rfl | cases same

theorem TransactionType.toByte_injective : Injective TransactionType.toByte := by
  intro kind kind' same
  cases kind <;> cases kind' <;> first | rfl | cases same

theorem VerificationMethod.toByte_injective : Injective VerificationMethod.toByte := by
  intro method method' same
  cases method <;> cases method' <;> first | rfl | cases same

theorem HardwareTier.toByte_injective : Injective HardwareTier.toByte := by
  intro tier tier' same
  cases tier <;> cases tier' <;> first | rfl | cases same

theorem ComplianceFramework.toByte_injective :
    Injective ComplianceFramework.toByte := by
  intro framework framework' same
  cases framework <;> cases framework' <;> first | rfl | cases same

theorem toUInt8_injective : Injective Bool.toUInt8 := by
  intro flag flag' same
  cases flag <;> cases flag' <;> first | rfl | cases same

theorem separates_u64 (word word' : UInt64) :
    Separates word word' (littleEndian 8 word.toNat) (littleEndian 8 word'.toNat) := by
  intro rest rest' same
  obtain ⟨numbers, behind⟩ := separates_littleEndian word.toNat_lt word'.toNat_lt _ _ same
  exact ⟨UInt64.toNat_inj.mp numbers, behind⟩

theorem separates_u32 (word word' : UInt32) :
    Separates word word' (littleEndian 4 word.toNat) (littleEndian 4 word'.toNat) := by
  intro rest rest' same
  obtain ⟨numbers, behind⟩ := separates_littleEndian word.toNat_lt word'.toNat_lt _ _ same
  exact ⟨UInt32.toNat_inj.mp numbers, behind⟩

theorem separates_u128 (word word' : BitVec 128) :
    Separates word word' (littleEndian 16 word.toNat)
      (littleEndian 16 word'.toNat) := by
  intro rest rest' same
  obtain ⟨numbers, behind⟩ := separates_littleEndian word.isLt word'.isLt _ _ same
  exact ⟨BitVec.eq_of_toNat_eq numbers, behind⟩

theorem Address.separates (address address' : Address) :
    Separates address address' address.serialize address'.serialize := by
  intro rest rest' same
  simp only [serialize, append_assoc] at same
  obtain ⟨kinds, same⟩ := separates_singleton AddressType.toByte_injective _ _ _ _ same
  obtain ⟨arrays, same⟩ := separates_ofFn _ _ _ _ same
  refine ⟨?_, same⟩
  cases address
  cases address'
  exact mk.injEq .. ▸ ⟨kinds, arrays⟩

/-- A length before bytes that nothing follows tells nothing, and is not needed. -/
theorem lengthPrefixed_injective (width : Nat) : Injective (lengthPrefixed width) := by
  intro bytes bytes' same
  refine (append_inj same ?_).2
  rw [lengthBytes, lengthBytes, length_littleEndian, length_littleEndian]

theorem TransferTx.toBytes_injective : Injective TransferTx.toBytes := by
  intro tx tx' same
  obtain ⟨recipients, same⟩ := Address.separates _ _ _ _ same
  obtain ⟨amounts, same⟩ := separates_u128 _ _ _ _ same
  have memos := flagged_last (lengthPrefixed_injective 2) same
  cases tx
  cases tx'
  exact mk.injEq .. ▸ ⟨recipients, amounts, memos⟩

/-- The numbers of codes are written differently unless they are equal, and codes at one
position are equally long. -/
def ComputeSLA.Aligned (sla sla' : ComputeSLA) : Prop :=
  Distinguished 1 sla.geoRestrictions.length sla'.geoRestrictions.length ∧
    ∀ pair ∈ sla.geoRestrictions.zip sla'.geoRestrictions,
      (ofText pair.1).length = (ofText pair.2).length

theorem ComputeSLA.Aligned.separates {sla sla' : ComputeSLA} (aligned : sla.Aligned sla') :
    Separates sla sla' sla.toBytes sla'.toBytes := by
  intro rest rest' same
  simp only [toBytes, append_assoc] at same
  obtain ⟨latencies, same⟩ := separates_u64 _ _ _ _ same
  obtain ⟨minima, same⟩ := separates_u32 _ _ _ _ same
  obtain ⟨tiers, same⟩ := separates_singleton HardwareTier.toByte_injective _ _ _ _ same
  obtain ⟨counts, same⟩ := aligned.1.separates _ _ same
  have codesApart : ∀ pair ∈ sla.geoRestrictions.zip sla'.geoRestrictions,
      Separates pair.1 pair.2 (ofText pair.1) (ofText pair.2) := by
    intro pair member
    exact .of_length (aligned.2 pair member) fun texts => ofText_injective texts
  obtain ⟨codes, same⟩ := separates_flatMap counts codesApart _ _ same
  refine ⟨?_, same⟩
  cases sla
  cases sla'
  exact mk.injEq .. ▸ ⟨latencies, minima, tiers, codes⟩

/-- The number of frameworks and the length of the residency are written differently unless they
are equal. -/
def ComplianceRequirements.Aligned (compliance compliance' : ComplianceRequirements) : Prop :=
  Distinguished 1 compliance.frameworks.length compliance'.frameworks.length ∧
    ∀ residency ∈ compliance.dataResidency, ∀ residency' ∈ compliance'.dataResidency,
      Distinguished 1 (ofText residency).length (ofText residency').length

/-- Aligned requirements are told apart by their bytes. -/
theorem ComplianceRequirements.Aligned.separates {compliance compliance' : ComplianceRequirements}
    (aligned : compliance.Aligned compliance') :
    Separates compliance compliance' compliance.toBytes compliance'.toBytes := by
  intro rest rest' same
  simp only [toBytes, append_assoc] at same
  obtain ⟨counts, same⟩ := aligned.1.separates _ _ same
  have frameworksApart : ∀ pair ∈ compliance.frameworks.zip compliance'.frameworks,
      Separates pair.1 pair.2 [pair.1.toByte] [pair.2.toByte] := by
    intro pair member
    exact separates_singleton ComplianceFramework.toByte_injective _ _
  obtain ⟨frameworks, same⟩ := separates_flatMap counts frameworksApart _ _ same
  have residenciesApart : ∀ residency ∈ compliance.dataResidency,
      ∀ residency' ∈ compliance'.dataResidency,
        Separates residency residency' (lengthPrefixed 1 (ofText residency))
          (lengthPrefixed 1 (ofText residency')) := by
    intro residency given residency' given' rest rest' same
    obtain ⟨texts, same⟩ := separates_prefixed (aligned.2 residency given residency' given') _ _
      same
    exact ⟨ofText_injective texts, same⟩
  obtain ⟨residencies, same⟩ := separates_flagged residenciesApart _ _ same
  obtain ⟨audits, same⟩ := separates_singleton toUInt8_injective _ _ _ _ same
  refine ⟨?_, same⟩
  cases compliance
  cases compliance'
  exact mk.injEq .. ▸ ⟨frameworks, residencies, audits⟩

/-- The parts without a mark at their end are equally long. -/
def ComputeJobTx.Aligned (tx tx' : ComputeJobTx) : Prop :=
  tx.sla.Aligned tx'.sla ∧ tx.compliance.Aligned tx'.compliance

theorem ComputeJobTx.Aligned.toBytes_inj {tx tx' : ComputeJobTx} (aligned : tx.Aligned tx')
    (same : tx.toBytes = tx'.toBytes) : tx = tx' := by
  obtain ⟨models, same⟩ := separates_ofFn _ _ _ _ same
  obtain ⟨inputs, same⟩ := separates_ofFn _ _ _ _ same
  obtain ⟨methods, same⟩ := separates_singleton VerificationMethod.toByte_injective _ _ _ _ same
  obtain ⟨fees, same⟩ := separates_u128 _ _ _ _ same
  obtain ⟨slas, same⟩ := aligned.1.separates _ _ same
  obtain ⟨compliances, same⟩ := aligned.2.separates _ _ same
  have references := flagged_last (lengthPrefixed_injective 4) same
  cases tx
  cases tx'
  exact mk.injEq .. ▸ ⟨models, inputs, references, methods, fees, slas, compliances⟩

theorem separates_metadata (word word' : Option UInt64) :
    Separates word word' (flagged HybridSignature.metadataBytes word)
      (flagged HybridSignature.metadataBytes word') :=
  separates_flagged fun _ _ _ _ => separates_u64 _ _

variable {bytes : List UInt8}

theorem HybridSignature.toBytes_eq_some {signature : HybridSignature}
    (written : signature.toBytes = some bytes) :
    signature.quantum.length < 65536 ∧
      bytes = [signatureVersionV2, hybridMarker] ++ (signature.classical ++
        ([componentSeparator] ++ ([signature.level.toByte] ++
        ((littleEndian 2 signature.quantum.length ++ signature.quantum) ++
        (flagged metadataBytes signature.timestamp ++
          flagged metadataBytes signature.chainId))))) := by
  rw [toBytes] at written
  split at written
  · exact ⟨by assumption, (some.inj written).symm⟩
  · contradiction

theorem HybridSignature.separates {signature signature' : HybridSignature}
    {bytes bytes' : List UInt8}
    (classical : signature.classical.length = signature'.classical.length)
    (written : signature.toBytes = some bytes) (written' : signature'.toBytes = some bytes') :
    Separates signature signature' bytes bytes' := by
  obtain ⟨short, rfl⟩ := toBytes_eq_some written
  obtain ⟨short', rfl⟩ := toBytes_eq_some written'
  intro rest rest' same
  simp only [append_assoc] at same
  replace same := append_cancel_left same
  obtain ⟨classicals, same⟩ := separates_self classical _ _ same
  replace same := append_cancel_left same
  obtain ⟨levels, same⟩ := separates_singleton DilithiumSecurityLevel.toByte_injective _ _ _ _ same
  obtain ⟨lengths, same⟩ := separates_littleEndian
    (show signature.quantum.length < 256 ^ 2 from short) short' _ _ same
  obtain ⟨quanta, same⟩ := separates_self lengths _ _ same
  obtain ⟨timestamps, same⟩ := separates_metadata _ _ _ _ same
  obtain ⟨chainIds, same⟩ := separates_metadata _ _ _ _ same
  refine ⟨?_, same⟩
  cases signature
  cases signature'
  exact mk.injEq .. ▸ ⟨classicals, quanta, levels, timestamps, chainIds⟩

/-- The lengths of the TEE documents are written differently unless they are equal, and the
classical signatures are equally long. -/
def ValidatorAttestation.Aligned (attestation attestation' : ValidatorAttestation) : Prop :=
  Distinguished 4 attestation.teeAttestation.length attestation'.teeAttestation.length ∧
    attestation.signature.classical.length = attestation'.signature.classical.length

theorem ValidatorAttestation.Aligned.separates {attestation attestation' : ValidatorAttestation}
    (aligned : attestation.Aligned attestation') {bytes bytes' : List UInt8}
    (written : attestation.toBytes = some bytes) (written' : attestation'.toBytes = some bytes') :
    Separates attestation attestation' bytes bytes' := by
  simp only [toBytes, bind_eq_bind, bind_eq_some_iff, some.injEq]
    at written written'
  obtain ⟨part, signed, rfl⟩ := written
  obtain ⟨part', signed', rfl⟩ := written'
  intro rest rest' same
  simp only [append_assoc] at same
  obtain ⟨validators, same⟩ := Address.separates _ _ _ _ same
  obtain ⟨documents, same⟩ := separates_prefixed aligned.1 _ _ same
  obtain ⟨signatures, same⟩ := HybridSignature.separates aligned.2 signed signed' _ _ same
  obtain ⟨timestamps, same⟩ := separates_u64 _ _ _ _ same
  refine ⟨?_, same⟩
  cases attestation
  cases attestation'
  exact mk.injEq .. ▸ ⟨validators, documents, signatures, timestamps⟩

/-- As many attestations, with unmarked parts of the same lengths. -/
def SealTx.Aligned (tx tx' : SealTx) : Prop :=
  Distinguished 1 tx.attestations.length tx'.attestations.length ∧
    ∀ pair ∈ tx.attestations.zip tx'.attestations, pair.1.Aligned pair.2

theorem SealTx.Aligned.toBytes_inj {tx tx' : SealTx} (aligned : tx.Aligned tx')
    (written : tx.toBytes = some bytes) (written' : tx'.toBytes = some bytes) : tx = tx' := by
  simp only [toBytes, bind_eq_bind, bind_eq_some_iff, some.injEq]
    at written written'
  obtain ⟨part, listed, rfl⟩ := written
  obtain ⟨part', listed', same⟩ := written'
  obtain ⟨jobs, same⟩ := separates_ofFn _ _ _ _ same.symm
  obtain ⟨outputs, same⟩ := separates_ofFn _ _ _ _ same
  obtain ⟨counts, same⟩ := aligned.1.separates _ _ same
  obtain ⟨attestations, same⟩ := separates_concatM counts listed listed'
    (fun pair member _ _ => (aligned.2 pair member).separates) _ _ same
  have proofs := flagged_last (lengthPrefixed_injective 4) same
  cases tx
  cases tx'
  exact mk.injEq .. ▸ ⟨jobs, outputs, attestations, proofs⟩

/-- Payloads of one variant whose parts without a mark at their end are equally long. -/
def TransactionPayload.Aligned : TransactionPayload → TransactionPayload → Prop
  | .computeJob tx, .computeJob tx' => tx.Aligned tx'
  | .digitalSeal tx, .digitalSeal tx' => tx.Aligned tx'
  | _, _ => True

def TransactionPayload.SameVariant : TransactionPayload → TransactionPayload → Prop
  | .transfer _, .transfer _ => True
  | .computeJob _, .computeJob _ => True
  | .digitalSeal _, .digitalSeal _ => True
  | .raw _, .raw _ => True
  | _, _ => False

theorem TransactionPayload.Aligned.toBytes_inj {payload payload' : TransactionPayload}
    (aligned : payload.Aligned payload') (variants : payload.SameVariant payload')
    (written : payload.toBytes = some bytes)
    (written' : payload'.toBytes = some bytes) : payload = payload' := by
  have same := written.trans written'.symm
  match payload, payload', variants with
  | .transfer tx, .transfer tx', _ =>
    rw [TransferTx.toBytes_injective (some.inj same)]
  | .computeJob tx, .computeJob tx', _ =>
    rw [ComputeJobTx.Aligned.toBytes_inj aligned (some.inj same)]
  | .digitalSeal tx, .digitalSeal tx', _ =>
    rw [SealTx.Aligned.toBytes_inj aligned written written']
  | .raw data, .raw data', _ => exact congrArg _ (some.inj same)

namespace Transaction

variable (tx tx' : Transaction)

/-- The transactions agree on every field before the payload. -/
def SameHeader : Prop :=
  { tx with payload := tx'.payload } = tx'

/-- Equal signing bytes are the bytes of one header and, within a variant, of one payload. -/
def Authorises : Prop :=
  ∀ bytes, tx.toSigningBytes = some bytes → tx'.toSigningBytes = some bytes →
    tx.SameHeader tx' ∧ (tx.payload.SameVariant tx'.payload → tx.payload = tx'.payload)

theorem toSigningBytes_eq_some {tx : Transaction} {bytes : List UInt8} :
    tx.toSigningBytes = some bytes ↔
      ∃ payload, tx.payloadBytes = some payload ∧ tx.headerBytes ++ payload = bytes := by
  simp only [toSigningBytes, bind_eq_bind, bind_eq_some_iff, some.injEq]

theorem header_separates (payload payload' : List UInt8)
    (same : tx.headerBytes ++ payload = tx'.headerBytes ++ payload') :
    tx.SameHeader tx' ∧ payload = payload' := by
  simp only [headerBytes, append_assoc] at same
  obtain ⟨versions, same⟩ := separates_singleton injective_id _ _ _ _ same
  obtain ⟨kinds, same⟩ := separates_singleton TransactionType.toByte_injective _ _ _ _ same
  obtain ⟨senders, same⟩ := Address.separates _ _ _ _ same
  obtain ⟨nonces, same⟩ := separates_u64 _ _ _ _ same
  obtain ⟨prices, same⟩ := separates_u64 _ _ _ _ same
  obtain ⟨limits, same⟩ := separates_u64 _ _ _ _ same
  obtain ⟨chainIds, same⟩ := separates_u64 _ _ _ _ same
  obtain ⟨expiries, same⟩ := separates_u64 _ _ _ _ same
  refine ⟨?_, same⟩
  cases tx
  cases tx'
  rw [SameHeader, mk.injEq]
  exact ⟨versions, kinds, senders, nonces, prices, limits, chainIds, expiries, rfl⟩

/-- Equal signing bytes have equal headers and equal payload bytes. -/
theorem same_of_toSigningBytes {tx tx' : Transaction} {bytes : List UInt8}
    (written : tx.toSigningBytes = some bytes) (written' : tx'.toSigningBytes = some bytes) :
    tx.SameHeader tx' ∧
      ∃ payload, tx.payloadBytes = some payload ∧ tx'.payloadBytes = some payload := by
  obtain ⟨payload, wrote, rfl⟩ := toSigningBytes_eq_some.mp written
  obtain ⟨payload', wrote', same⟩ := toSigningBytes_eq_some.mp written'
  obtain ⟨headers, rfl⟩ := header_separates tx tx' payload payload' same.symm
  exact ⟨headers, payload, wrote, wrote'⟩

theorem authorises_of_aligned {tx tx' : Transaction}
    (aligned : tx.payload.Aligned tx'.payload) : tx.Authorises tx' := by
  intro bytes written written'
  obtain ⟨headers, payload, wrote, wrote'⟩ := same_of_toSigningBytes written written'
  exact ⟨headers, fun variants => aligned.toBytes_inj variants wrote wrote'⟩

def restricted (tx : Transaction) (job : ComputeJobTx) (codes : List String) : Transaction :=
  { tx with payload := .computeJob { job with sla := { job.sla with geoRestrictions := codes } } }

theorem restricted_toSigningBytes {tx : Transaction} {job : ComputeJobTx} {codes : List String}
    (payload : tx.payload = .computeJob job)
    (counts : codes.length = job.sla.geoRestrictions.length)
    (texts : codes.flatMap ofText = job.sla.geoRestrictions.flatMap ofText) :
    (tx.restricted job codes).toSigningBytes = tx.toSigningBytes := by
  have sameSla : { job.sla with geoRestrictions := codes }.toBytes = job.sla.toBytes := by
    simp only [ComputeSLA.toBytes, counts, texts]
  have sameJob : { job with sla := { job.sla with geoRestrictions := codes } }.toBytes =
      job.toBytes := by
    simp only [ComputeJobTx.toBytes, sameSla]
  simp only [toSigningBytes, payloadBytes, restricted, payload, TransactionPayload.toBytes,
    sameJob, headerBytes]

variable (codes : List String)

def joined : String := codes.foldr (· ++ ·) ""

theorem ofText_joined : ofText (joined codes) = codes.flatMap ofText := by
  induction codes with
  | nil => rfl
  | cons code codes ih =>
    rw [joined, foldr_cons, ofText_append, flatMap_cons]
    exact congrArg _ ih

theorem flatMap_replicate_empty (count : Nat) :
    (replicate count "").flatMap ofText = [] := by
  rw [flatMap_eq_nil_iff]
  intro code member
  rw [eq_of_mem_replicate member]
  rfl

theorem exists_other_cut {codes : List String} (several : 2 ≤ codes.length)
    (written : ∃ code ∈ codes, code ≠ "") :
    ∃ other : List String, other ≠ codes ∧ other.length = codes.length ∧
      other.flatMap ofText = codes.flatMap ofText := by
  obtain ⟨count, long⟩ : ∃ count, codes.length = count + 2 := ⟨codes.length - 2, by omega⟩
  have front : (joined codes :: replicate (count + 1) "").flatMap ofText =
      codes.flatMap ofText := by
    rw [flatMap_cons, flatMap_replicate_empty, append_nil, ofText_joined]
  have back : (replicate (count + 1) "" ++ [joined codes]).flatMap ofText =
      codes.flatMap ofText := by
    rw [flatMap_append, flatMap_replicate_empty, nil_append, flatMap_singleton,
      ofText_joined]
  have nonempty : joined codes ≠ "" := by
    intro empty
    obtain ⟨code, member, filled⟩ := written
    have nothing : codes.flatMap ofText = [] := by rw [← ofText_joined, empty]; rfl
    exact filled (ofText_injective (flatMap_eq_nil_iff.mp nothing code member))
  by_cases first : joined codes :: replicate (count + 1) "" = codes
  · refine ⟨_, fun last => ?_, by simp [long], back⟩
    rw [replicate_succ, cons_append] at last
    exact nonempty (cons.inj (first.trans last.symm)).1
  · exact ⟨_, first, by simp [long], front⟩

/-- Signing bytes determine the header and, where the lengths agree that nothing marks, the
transaction; a job with several codes that are not all empty always shares its bytes with
another job. -/
theorem signing_bytes_authorise (tx : Transaction) :
    (∀ (tx' : Transaction) (bytes : List UInt8), tx.toSigningBytes = some bytes →
      tx'.toSigningBytes = some bytes → tx.SameHeader tx') ∧
    (∀ tx' : Transaction, tx.payload.Aligned tx'.payload → tx.Authorises tx') ∧
    ∀ job : ComputeJobTx, tx.payload = .computeJob job →
      2 ≤ job.sla.geoRestrictions.length → (∃ code ∈ job.sla.geoRestrictions, code ≠ "") →
      ∃ tx' : Transaction, ¬tx.payload.Aligned tx'.payload ∧ ¬tx.Authorises tx' := by
  refine ⟨fun tx' bytes written written' => (same_of_toSigningBytes written written').1,
    fun tx' => authorises_of_aligned, ?_⟩
  intro job payload several written
  obtain ⟨codes, differ, counts, texts⟩ := exists_other_cut several written
  have same := restricted_toSigningBytes payload counts texts
  obtain ⟨bytes, wrote⟩ : ∃ bytes, tx.toSigningBytes = some bytes := by
    simp [toSigningBytes, payloadBytes, payload, TransactionPayload.toBytes]
  have confused : ¬tx.Authorises (tx.restricted job codes) := by
    intro authorised
    have payloads := (authorised bytes wrote (same.trans wrote)).2
    simp only [restricted, payload, TransactionPayload.SameVariant, forall_const,
      TransactionPayload.computeJob.injEq] at payloads
    exact differ (congrArg (·.sla.geoRestrictions) payloads).symm
  exact ⟨_, fun aligned => confused (authorises_of_aligned aligned), confused⟩

/-- `Transaction::compute_job` with the given restrictions, all hashes and the sender zero. -/
def sampleJob : Transaction where
  version := 1
  txType := .computeJob
  sender := { addressType := .user, bytes := fun _ => 0 }
  nonce := 0
  gasPrice := 1
  gasLimit := 100000
  chainId := 1
  expiry := 0
  payload := .computeJob
    { modelHash := fun _ => 0, inputHash := fun _ => 0, encryptedInputRef := none,
      verificationMethod := .hybrid, maxFee := 0,
      sla := { ComputeSLA.default with geoRestrictions := codes },
      compliance := ComplianceRequirements.default }

theorem signing_bytes_authorise_countries :
    (sampleJob ["AE", "US"]).Authorises (sampleJob ["AE", "SA"]) := by
  apply (signing_bytes_authorise _).2.1
  refine ⟨⟨fun _ => rfl, ?_⟩, fun _ => rfl, ?_⟩
  · decide
  · intro residency given
    contradiction

/-- A job for the codes AE and US has the signing bytes of one for the codes AEU and S. -/
theorem geo_codes_run_together :
    ¬(sampleJob ["AE", "US"]).Authorises (sampleJob ["AEU", "S"]) := by
  intro authorised
  have same : (sampleJob ["AEU", "S"]).toSigningBytes = (sampleJob ["AE", "US"]).toSigningBytes := by
    decide +kernel
  obtain ⟨bytes, wrote⟩ : ∃ bytes, (sampleJob ["AE", "US"]).toSigningBytes = some bytes := ⟨_, rfl⟩
  have payloads := (authorised bytes wrote (same.trans wrote)).2 trivial
  injection payloads with jobs
  have codes : ["AE", "US"] = ["AEU", "S"] := congrArg (·.sla.geoRestrictions) jobs
  exact absurd codes (by decide)

end Transaction

end Core
