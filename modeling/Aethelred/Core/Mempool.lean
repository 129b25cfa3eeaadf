import Aethelred.Core.SigningBytes

/- What the wire format of keys and signatures gives back, and when a signature verifies. -/
namespace Core

open Code Bytes List Except Option VerifierConfig

namespace HybridSignature

theorem metadataBytes_length (word : UInt64) : (metadataBytes word).length = 8 :=
  length_littleEndian ..

theorem ofLittleEndian_metadataBytes (word : UInt64) :
    UInt64.ofNat (ofLittleEndian (metadataBytes word)) = word := by
  rw [metadataBytes, ofLittleEndian_littleEndian word.toNat_lt, UInt64.ofNat_toNat]

/-- An optional word is read back whatever follows it. -/
theorem parseFlag_append {front : List UInt8} {cursor : Nat} (starts : front.length = cursor)
    (word : Option UInt64) (behind : List UInt8) :
    parseFlag (front ++ (flagged metadataBytes word ++ behind)) cursor =
      some (word, cursor + (flagged metadataBytes word).length) := by
  cases word with
  | none =>
    have first : byteAt (front ++ ([0] ++ behind)) cursor = 0 := byteAt_append starts
    have inside : ¬(front ++ ([0] ++ behind)).length ≤ cursor := by
      rw [length_append, length_append, length_singleton]
      omega
    rw [parseFlag, flagged, if_neg inside, if_pos first]
    rfl
  | some word =>
    have first : byteAt (front ++ (1 :: metadataBytes word ++ behind)) cursor = 1 :=
      byteAt_append starts
    have long : (front ++ (1 :: metadataBytes word ++ behind)).length =
        cursor + 9 + behind.length := by
      simp only [length_append, length_cons, metadataBytes_length, starts]
      omega
    have read : slice (front ++ (1 :: metadataBytes word ++ behind)) (cursor + 1) 8 =
        metadataBytes word := by
      have shifted : front ++ (1 :: metadataBytes word ++ behind) =
          (front ++ [1]) ++ (metadataBytes word ++ behind) := by simp
      rw [shifted]
      exact slice_append (by simp [starts]) (metadataBytes_length word)
    rw [parseFlag, flagged, if_neg (by omega), if_neg (by rw [first]; decide), if_pos first,
      if_neg (by omega), read, ofLittleEndian_metadataBytes, length_cons,
      metadataBytes_length]

theorem parseLastMetadata_append {front : List UInt8} {offset : Nat}
    (starts : front.length = offset) (timestamp chainId : Option UInt64) :
    parseLastMetadata (front ++ (flagged metadataBytes timestamp ++
      flagged metadataBytes chainId)) offset = .ok (timestamp, chainId) := by
  have next : (front ++ flagged metadataBytes timestamp).length =
      offset + (flagged metadataBytes timestamp).length := by rw [length_append, starts]
  have first := parseFlag_append starts timestamp (flagged metadataBytes chainId)
  have second := parseFlag_append next chainId []
  rw [append_nil, append_assoc] at second
  have parsed : parseSignatureMetadata (front ++ (flagged metadataBytes timestamp ++
      flagged metadataBytes chainId)) offset = some (timestamp, chainId,
        offset + (flagged metadataBytes timestamp).length +
          (flagged metadataBytes chainId).length) := by
    simp only [parseSignatureMetadata, first, second, bind_eq_bind, bind_some]
  rw [parseLastMetadata, parsed]
  dsimp only
  rw [if_neg]
  simp only [length_append, starts]
  omega

theorem parseLevelByte_toByte (level : DilithiumSecurityLevel) :
    parseLevelByte level.toByte = .ok level := by
  cases level <;> rfl

theorem signatureSize_pos (level : DilithiumSecurityLevel) : 0 < level.signatureSize := by
  cases level <;> decide

theorem flagged_length_pos (word : Option UInt64) : 0 < (flagged metadataBytes word).length := by
  cases word with
  | none => decide
  | some word => exact Nat.succ_pos _

/-- The fields of a signature of 64 classical and `quantumLen` quantum bytes, at the offsets where
they are read. -/
structure Layout (signature : HybridSignature) (bytes : List UInt8) : Prop where
  long : 70 + signature.quantum.length + 2 ≤ bytes.length
  version : byteAt bytes 0 = signatureVersionV2
  marker : byteAt bytes 1 = hybridMarker
  classical : slice bytes 2 64 = signature.classical
  separator : byteAt bytes 66 = componentSeparator
  level : byteAt bytes 67 = signature.level.toByte
  quantumLen : ofLittleEndian (slice bytes 68 2) = signature.quantum.length
  quantum : slice bytes 70 signature.quantum.length = signature.quantum
  metadata : parseLastMetadata bytes (70 + signature.quantum.length) =
    .ok (signature.timestamp, signature.chainId)

variable {signature : HybridSignature} {bytes : List UInt8}

/-- Where the parts of a signature stand in its bytes. -/
theorem layout (classical : signature.classical.length = 64)
    (written : signature.toBytes = some bytes) : signature.Layout bytes := by
  obtain ⟨short, rfl⟩ := toBytes_eq_some written
  have lengths : (littleEndian 2 signature.quantum.length).length = 2 :=
    length_littleEndian ..
  have timestamps := flagged_length_pos signature.timestamp
  have chainIds := flagged_length_pos signature.chainId
  have header : [signatureVersionV2, hybridMarker].length = 2 := rfl
  have single (byte : UInt8) : [byte].length = 1 := rfl
  -- each field stands behind a front whose length is its offset
  constructor
  case long =>
    simp only [length_append, length_cons, length_nil, lengths, classical]
    omega
  case version => rfl
  case marker => rfl
  case classical => exact slice_append rfl classical
  case separator =>
    change byteAt _ (2 + (64 + 0)) = _
    rw [byteAt_add header, byteAt_add classical]
    rfl
  case level =>
    change byteAt _ (2 + (64 + (1 + 0))) = _
    rw [byteAt_add header, byteAt_add classical, byteAt_add (single _)]
    rfl
  case quantumLen =>
    change ofLittleEndian (slice _ (2 + (64 + (1 + 1))) 2) = _
    rw [slice_add header, slice_add classical, slice_add (single _),
      append_assoc, slice_append (single _) lengths]
    exact ofLittleEndian_littleEndian short
  case quantum =>
    change slice _ (2 + (64 + (1 + (1 + 2)))) _ = _
    rw [slice_add header, slice_add classical, slice_add (single _),
      slice_add (single _), append_assoc]
    exact slice_append lengths rfl
  case metadata =>
    have starts : ([signatureVersionV2, hybridMarker] ++ (signature.classical ++
        ([componentSeparator] ++ ([signature.level.toByte] ++
        (littleEndian 2 signature.quantum.length ++ signature.quantum))))).length =
        70 + signature.quantum.length := by
      simp only [length_append, length_cons, length_nil, lengths, classical]
      omega
    have read := parseLastMetadata_append starts signature.timestamp signature.chainId
    simpa only [append_assoc] using read

theorem WellFormed.exists_bytes (formed : signature.WellFormed) :
    ∃ bytes, signature.toBytes = some bytes := by
  have short : signature.quantum.length < 65536 := formed.2 ▸ signature.level.signatureSize_lt
  exact ⟨_, if_pos short⟩

theorem fromBytes_of_toBytes
    (classical : signature.classical.length = 64) (positive : 0 < signature.quantum.length)
    (most : signature.quantum.length ≤ signature.level.signatureSize)
    (written : signature.toBytes = some bytes) : fromBytes bytes = .ok signature := by
  have read := layout classical written
  have long := read.long
  have admitted : checkQuantumLength signature.level signature.quantum.length bytes.length =
      .ok () := by
    rw [checkQuantumLength, if_neg (by omega), if_neg (by omega)]
  rw [fromBytes, if_neg (by omega)]
  dsimp only
  rw [if_neg (not_not_intro read.marker), if_pos read.version, parseSignatureV2,
    if_neg (by omega), if_neg (not_not_intro read.separator), read.level, parseLevelByte_toByte]
  dsimp only [bind, Except.bind]
  rw [read.quantumLen, admitted]
  dsimp only [bind, Except.bind]
  rw [read.metadata, read.classical, read.quantum]

theorem WellFormed.fromBytes_toBytes (formed : signature.WellFormed)
    (written : signature.toBytes = some bytes) : fromBytes bytes = .ok signature :=
  fromBytes_of_toBytes formed.1 (formed.2 ▸ signatureSize_pos _) formed.2.le written

variable {platform : Platform} {signature : HybridSignature} {config : VerifierConfig}

/-- The signature is not older than the configuration allows. -/
def Fresh (platform : Platform) (signature : HybridSignature) (maxAge : Option UInt64) : Prop :=
  ∀ most ∈ maxAge, ∀ written ∈ signature.timestamp,
    ∃ now ∈ platform.now, ¬(now > written ∧ now - written > most)

/-- The signature names no chain or this one. -/
def OnChain (signature : HybridSignature) (chainId : UInt64) : Prop :=
  ∀ named ∈ signature.chainId, named = chainId

/-- The libraries accept the components; in the panic mode only Dilithium is asked. -/
def Genuine (platform : Platform) (signature : HybridSignature) (message : List UInt8)
    (pubkey : HybridPublicKey) (panicMode : Bool) : Prop :=
  platform.verifyDilithium signature.level signature.quantum (platform.keccak256 message)
      pubkey.quantum = .ok true ∧
    (panicMode = true ∨ platform.verifyingKey signature.classical (platform.keccak256 message)
      pubkey.classical.bytes = .ok true)

theorem validateFormat_eq_ok : signature.validateFormat = .ok () ↔ signature.WellFormed := by
  simp only [validateFormat, WellFormed, ite_error_eq_ok, not_not, and_true]

theorem checkLevel_eq_ok :
    signature.checkLevel config = .ok () ↔ ¬signature.level < config.minDilithiumLevel := by
  simp only [checkLevel, ite_error_eq_ok, and_true]

theorem checkAge_eq_ok :
    signature.checkAge platform config = .ok () ↔
      signature.Fresh platform config.maxSignatureAgeSecs := by
  rw [checkAge, Fresh]
  cases config.maxSignatureAgeSecs with
  | none => simp
  | some most =>
    cases signature.timestamp with
    | none => simp
    | some written =>
      cases platform.now with
      | none => simp
      | some now => simp

theorem checkChainId_eq_ok :
    signature.checkChainId config = .ok () ↔ signature.OnChain config.chainId := by
  rw [checkChainId, OnChain]
  cases signature.chainId with
  | none => simp
  | some named => simp

theorem bind_verdict_eq_ok {verdict : Except String Bool} {reason : String} :
    (verdict >>= fun valid => if valid then .ok () else .error reason : Except String Unit) =
      .ok () ↔ verdict = .ok true := by
  rw [bind_eq_ok]
  constructor
  · rintro ⟨valid, given, passed⟩
    cases valid with
    | true => exact given
    | false => contradiction
  · intro given
    exact ⟨true, given, rfl⟩

theorem checkClassical_eq_ok {msgHash : List UInt8} {pubkey : EcdsaPublicKey}
    (formed : signature.WellFormed) :
    signature.checkClassical platform msgHash pubkey config = .ok () ↔
      config.panicModeQc = true ∨
        platform.verifyingKey signature.classical msgHash pubkey.bytes = .ok true := by
  rw [checkClassical, verifyEcdsa, if_neg (not_not_intro formed.1)]
  by_cases panicking : config.panicModeQc = true
  · simp [panicking]
  · rw [if_neg panicking, bind_verdict_eq_ok]
    simp [panicking]

theorem verify_eq_ok {message : List UInt8} {pubkey : HybridPublicKey} :
    signature.verify platform message pubkey config = .ok () ↔
      signature.WellFormed ∧ ¬signature.level < config.minDilithiumLevel ∧
      signature.Fresh platform config.maxSignatureAgeSecs ∧ signature.OnChain config.chainId ∧
      signature.Genuine platform message pubkey config.panicModeQc := by
  simp only [verify, checkQuantum, bind_unit_eq_ok, bind_verdict_eq_ok,
    validateFormat_eq_ok, checkLevel_eq_ok, checkAge_eq_ok, checkChainId_eq_ok, Genuine]
  constructor
  · rintro ⟨formed, strong, fresh, chain, quantum, classical⟩
    exact ⟨formed, strong, fresh, chain, quantum, (checkClassical_eq_ok formed).mp classical⟩
  · rintro ⟨formed, strong, fresh, chain, quantum, classical⟩
    exact ⟨formed, strong, fresh, chain, quantum, (checkClassical_eq_ok formed).mpr classical⟩

end HybridSignature

theorem EcdsaPublicKey.fromBytes_eq_ok {platform : Platform} {bytes : List UInt8}
    {read : EcdsaPublicKey} (compressed : bytes.length = 33) :
    EcdsaPublicKey.fromBytes platform bytes = .ok read ↔
      platform.sec1Point bytes = .ok () ∧ read = { bytes } := by
  rw [EcdsaPublicKey.fromBytes, if_neg (by omega)]
  cases platform.sec1Point bytes with
  | error reason => simp
  | ok point => simp [eq_comm]

namespace HybridPublicKey

/-- The parts of a key are what their `from_bytes` accept. -/
def Readable (platform : Platform) (key : HybridPublicKey) : Prop :=
  platform.sec1Point key.classical.bytes = .ok () ∧
    key.quantum.bytes.length = key.quantum.level.publicKeySize

/-- The quantum key is read back behind a compressed one. -/
theorem quantumFromBytes_toBytes {key : HybridPublicKey}
    (compressed : key.classical.bytes.length = 33) {read : DilithiumPublicKey} :
    quantumFromBytes key.toBytes = .ok read ↔
      key.quantum.bytes.length = key.quantum.level.publicKeySize ∧ read = key.quantum := by
  have header : [signatureVersion, hybridMarker].length = 2 := rfl
  have single : [componentSeparator].length = 1 := rfl
  have last : key.toBytes.getLastD 0 = key.quantum.level.toByte := by
    have split : key.toBytes = ([signatureVersion, hybridMarker] ++ (key.classical.bytes ++
        ([componentSeparator] ++ key.quantum.bytes))) ++ [key.quantum.level.toByte] := by
      simp only [toBytes, List.append_assoc]
    rw [split, List.getLastD_concat]
  have long : key.toBytes.length = 36 + key.quantum.bytes.length + 1 := by
    simp only [toBytes, List.length_append, List.length_cons, List.length_nil, compressed]
    omega
  have quantum (size : Nat) (fits : key.quantum.bytes.length = size) :
      slice key.toBytes 36 size = key.quantum.bytes := by
    change slice _ (2 + (33 + (1 + 0))) size = _
    rw [toBytes, slice_add header, slice_add compressed, slice_add single]
    exact slice_append List.length_nil fits
  rw [quantumFromBytes, last, HybridSignature.parseLevelByte_toByte]
  dsimp only [bind, Except.bind]
  rw [long, Except.ite_error_eq_ok]
  constructor
  · rintro ⟨sized, given⟩
    have fits : key.quantum.bytes.length = key.quantum.level.publicKeySize := by omega
    rw [quantum _ fits, DilithiumPublicKey.fromBytes, if_neg (not_not_intro fits)] at given
    exact ⟨fits, (Except.ok.inj given).symm⟩
  · rintro ⟨fits, rfl⟩
    refine ⟨by omega, ?_⟩
    rw [quantum _ fits, DilithiumPublicKey.fromBytes, if_neg (not_not_intro fits)]

theorem fromBytes_toBytes {platform : Platform} {key read : HybridPublicKey}
    (compressed : key.classical.bytes.length = 33) :
    fromBytes platform key.toBytes = .ok read ↔ key.Readable platform ∧ read = key := by
  have header : [signatureVersion, hybridMarker].length = 2 := rfl
  have long : key.toBytes.length = 36 + key.quantum.bytes.length + 1 := by
    simp only [toBytes, length_append, length_cons, length_nil, compressed]
    omega
  have version : byteAt key.toBytes 0 = signatureVersion := rfl
  have marker : byteAt key.toBytes 1 = hybridMarker := rfl
  have classical : slice key.toBytes 2 33 = key.classical.bytes :=
    slice_append header compressed
  have separator : byteAt key.toBytes 35 = componentSeparator := by
    change byteAt _ (2 + (33 + 0)) = _
    rw [toBytes, byteAt_add header, byteAt_add compressed]
    rfl
  rw [fromBytes, if_neg (by omega), if_neg (by simp [version, marker]), classical, separator]
  simp only [bind_eq_ok, EcdsaPublicKey.fromBytes_eq_ok compressed,
    quantumFromBytes_toBytes compressed, ne_eq, not_true_eq_false, if_false, ok.injEq]
  constructor
  · rintro ⟨point, ⟨valid, rfl⟩, quantum, ⟨sized, rfl⟩, rfl⟩
    exact ⟨⟨valid, sized⟩, rfl⟩
  · rintro ⟨⟨valid, sized⟩, rfl⟩
    exact ⟨_, ⟨valid, rfl⟩, _, ⟨sized, rfl⟩, rfl⟩

end HybridPublicKey

/- The signature check of the mempool, `crates/mempool/src/middleware/signature.rs`: it reads a
signed transaction back from its bytes. -/

namespace SignatureMiddleware

def verifierConfig (chainId : UInt64) (quantumThreatLevel : UInt8) : VerifierConfig :=
  let config :=
    if chainId = 9999 then devnet
    else if chainId = 2 then testnet
    else if chainId = 1 then mainnet
    else { default with chainId }
  if 5 ≤ quantumThreatLevel then config.enterPanicMode else config

def u32At (bytes : List UInt8) (offset : Nat) : Nat :=
  ofLittleEndian (slice bytes offset 4)

def sections (txBytes : List UInt8) : Except String (List UInt8 × List UInt8 × List UInt8) :=
  let txLen := u32At txBytes 0
  let sigOffset := 4 + txLen
  let sigLen := u32At txBytes sigOffset
  let pkOffset := sigOffset + 4 + sigLen
  let pkLen := u32At txBytes pkOffset
  if txBytes.length < 8 then
    .error "Transaction too short"
  else if txBytes.length < 4 + txLen + 4 then
    .error "Invalid transaction format"
  else if txBytes.length < sigOffset + 4 + sigLen + 4 then
    .error "Invalid signature section"
  else if txBytes.length < pkOffset + 4 + pkLen then
    .error "Invalid public key section"
  else
    .ok (slice txBytes 4 txLen, slice txBytes (sigOffset + 4) sigLen,
      slice txBytes (pkOffset + 4) pkLen)

def badPublicKey (error : CryptoError) : String :=
  let text := error.toString
  s!"Invalid hybrid public key: {text}"

def badSignature (error : CryptoError) : String :=
  let text := error.toString
  s!"Invalid hybrid signature: {text}"

/-- The sender must be the signer's address and the signature must verify under the configuration
of the chain the transaction names. -/
def verifyParsed (platform : Platform) (txData : List UInt8) (signer : HybridPublicKey)
    (signature : HybridSignature) (quantumThreatLevel : UInt8) : Except String Bool :=
  if (Address.fromPublicKey platform signer).serialize ≠ slice txData 2 21 then
    .ok false
  else if txData.length < 47 + 8 then
    .error "Transaction body missing chain id"
  else
    let chainId := UInt64.ofNat (ofLittleEndian (slice txData 47 8))
    let config := verifierConfig chainId quantumThreatLevel
    let txHash := transactionHash platform txData
    (signature.verify platform (ofFn txHash) signer config).map fun _ => true

def verifySignature (platform : Platform) (txBytes : List UInt8) (quantumThreatLevel : UInt8) :
    Except String Bool := do
  let (txData, signature, publicKey) ← sections txBytes
  if txData.length < 23 then
    .error "Transaction body too short"
  else do
    let signer ← (HybridPublicKey.fromBytes platform publicKey).mapError badPublicKey
    let signature ← (HybridSignature.fromBytes signature).mapError badSignature
    verifyParsed platform txData signer signature quantumThreatLevel

theorem lengthPrefixed_length (bytes : List UInt8) :
    (lengthPrefixed 4 bytes).length = 4 + bytes.length := by
  rw [lengthPrefixed, lengthBytes, length_append, length_littleEndian]

theorem section_append {front : List UInt8} {offset : Nat} (starts : front.length = offset)
    (bytes behind : List UInt8) (fits : bytes.length < 2 ^ 32) :
    u32At (front ++ (lengthPrefixed 4 bytes ++ behind)) offset = bytes.length ∧
      slice (front ++ (lengthPrefixed 4 bytes ++ behind)) (offset + 4) bytes.length =
        bytes := by
  have prefixLong := length_littleEndian 4 (bytes.length % 256 ^ 4)
  have whole : bytes.length % 256 ^ 4 = bytes.length := Nat.mod_eq_of_lt fits
  rw [u32At, slice_add starts, lengthPrefixed, lengthBytes, append_assoc,
    slice_append starts prefixLong, slice_append prefixLong rfl,
    whole]
  exact ⟨ofLittleEndian_littleEndian fits, rfl⟩

/-- Three sections are read back. -/
theorem sections_append {tx signature key : List UInt8} (txFits : tx.length < 2 ^ 32)
    (signatureFits : signature.length < 2 ^ 32) (keyFits : key.length < 2 ^ 32) :
    sections (lengthPrefixed 4 tx ++ (lengthPrefixed 4 signature ++ lengthPrefixed 4 key)) =
      .ok (tx, signature, key) := by
  have txLong := lengthPrefixed_length tx
  have bothLong : (lengthPrefixed 4 tx ++ lengthPrefixed 4 signature).length =
      4 + tx.length + 4 + signature.length := by
    rw [length_append, lengthPrefixed_length, lengthPrefixed_length]
    omega
  have long : (lengthPrefixed 4 tx ++ (lengthPrefixed 4 signature ++ lengthPrefixed 4 key)).length =
      12 + tx.length + signature.length + key.length := by
    simp only [length_append, lengthPrefixed_length]
    omega
  have last : lengthPrefixed 4 tx ++ (lengthPrefixed 4 signature ++ lengthPrefixed 4 key) =
      (lengthPrefixed 4 tx ++ lengthPrefixed 4 signature) ++ (lengthPrefixed 4 key ++ []) := by
    rw [append_nil, append_assoc]
  obtain ⟨txLen, txData⟩ := section_append length_nil tx
    (lengthPrefixed 4 signature ++ lengthPrefixed 4 key) txFits
  rw [nil_append] at txLen txData
  obtain ⟨sigLen, sigData⟩ := section_append txLong signature (lengthPrefixed 4 key) signatureFits
  obtain ⟨pkLen, pkData⟩ := section_append bothLong key [] keyFits
  rw [← last] at pkLen pkData
  simp only [sections]
  rw [txLen, sigLen, pkLen, txData, sigData, pkData, if_neg (by omega), if_neg (by omega),
    if_neg (by omega), if_neg (by omega)]

theorem serialize_length (address : Address) : address.serialize.length = 21 := by
  rw [Address.serialize, length_append, length_ofFn]
  rfl

variable (tx : Transaction)

theorem header_length : tx.headerBytes.length = 63 := by
  simp only [Transaction.headerBytes, length_append, serialize_length,
    length_littleEndian, length_cons, length_nil]

theorem slice_sender (payload : List UInt8) :
    slice (tx.headerBytes ++ payload) 2 21 = tx.sender.serialize := by
  have single (byte : UInt8) : [byte].length = 1 := rfl
  simp only [Transaction.headerBytes, append_assoc]
  change slice _ (1 + 1) 21 = _
  rw [slice_add (single _)]
  exact slice_append (single _) (serialize_length _)

theorem slice_chainId (payload : List UInt8) :
    slice (tx.headerBytes ++ payload) 47 8 = littleEndian 8 tx.chainId.toNat := by
  have single (byte : UInt8) : [byte].length = 1 := rfl
  have word (number : Nat) : (littleEndian 8 number).length = 8 :=
    length_littleEndian ..
  simp only [Transaction.headerBytes, append_assoc]
  change slice _ (1 + (1 + (21 + (8 + (8 + 8))))) 8 = _
  rw [slice_add (single _), slice_add (single _),
    slice_add (serialize_length _), slice_add (word _), slice_add (word _)]
  exact slice_append (word _) (word _)

theorem serialize_inj {address address' : Address} :
    address.serialize = address'.serialize ↔ address = address' := by
  constructor
  · intro same
    exact (Address.separates address address' [] [] (by rw [same])).1
  · exact congrArg _

/-- What the mempool checks of a parsed transaction. -/
theorem verifyParsed_eq_ok {platform : Platform} {tx : Transaction} {payload : List UInt8}
    {signer : HybridPublicKey} {signature : HybridSignature} {threatLevel : UInt8} :
    verifyParsed platform (tx.headerBytes ++ payload) signer signature threatLevel = .ok true ↔
      Address.fromPublicKey platform signer = tx.sender ∧
      signature.verify platform (ofFn (transactionHash platform (tx.headerBytes ++ payload)))
        signer (verifierConfig tx.chainId threatLevel) = .ok () := by
  have long : ¬(tx.headerBytes ++ payload).length < 47 + 8 := by
    rw [length_append, header_length]
    omega
  rw [verifyParsed, slice_sender, slice_chainId,
    ofLittleEndian_littleEndian tx.chainId.toNat_lt, UInt64.ofNat_toNat, if_neg long]
  by_cases sender : Address.fromPublicKey platform signer = tx.sender
  · rw [if_neg (not_not_intro (serialize_inj.mpr sender)), map_eq_ok]
    constructor
    · rintro ⟨_, verified, _⟩
      exact ⟨sender, verified⟩
    · rintro ⟨_, verified⟩
      exact ⟨(), verified, rfl⟩
  · rw [if_pos (fun same => sender (serialize_inj.mp same))]
    constructor
    · intro rejected
      contradiction
    · rintro ⟨same, _⟩
      contradiction

/-- What the mempool checks of a transaction's bytes. -/
theorem verifySignature_eq_ok {platform : Platform} {signed : SignedTransaction}
    {bytes : List UInt8} {threatLevel : UInt8}
    (compressed : signed.publicKey.classical.bytes.length = 33)
    (written : signed.toBytes = some bytes) (fits : bytes.length < 2 ^ 32) :
    verifySignature platform bytes threatLevel = .ok true ↔
      ∃ hash sigBytes read, signed.tx.hash platform = some hash ∧
        signed.signature.toBytes = some sigBytes ∧ HybridSignature.fromBytes sigBytes = .ok read ∧
        signed.publicKey.Readable platform ∧
        Address.fromPublicKey platform signed.publicKey = signed.tx.sender ∧
        read.verify platform (ofFn hash) signed.publicKey
          (verifierConfig signed.tx.chainId threatLevel) = .ok () := by
  simp only [SignedTransaction.toBytes, bind_eq_bind, bind_eq_some_iff,
    some.injEq] at written
  obtain ⟨txBytes, txWritten, sigBytes, sigWritten, rfl⟩ := written
  simp only [length_append, lengthPrefixed_length] at fits
  rw [verifySignature, sections_append (by omega) (by omega) (by omega)]
  obtain ⟨payload, payloadWritten, rfl⟩ := Transaction.toSigningBytes_eq_some.mp txWritten
  have long : ¬(signed.tx.headerBytes ++ payload).length < 23 := by
    rw [length_append, header_length]
    omega
  have hashed : signed.tx.hash platform =
      some (transactionHash platform (signed.tx.headerBytes ++ payload)) := by
    rw [Transaction.hash, txWritten]
    rfl
  rw [bind_eq_ok]
  constructor
  · rintro ⟨_, found, accepted⟩
    obtain rfl := ok.inj found
    dsimp only at accepted
    rw [if_neg long] at accepted
    obtain ⟨signer, keyRead, accepted⟩ := bind_eq_ok.mp accepted
    obtain ⟨read, sigRead, accepted⟩ := bind_eq_ok.mp accepted
    obtain ⟨readable, rfl⟩ := (HybridPublicKey.fromBytes_toBytes compressed).mp
      (mapError_eq_ok_iff.mp keyRead)
    obtain ⟨sender, verified⟩ := verifyParsed_eq_ok.mp accepted
    exact ⟨_, sigBytes, read, hashed, sigWritten, mapError_eq_ok_iff.mp sigRead, readable,
      sender, verified⟩
  · rintro ⟨hash, written, read, hashedAs, writtenAs, sigRead, readable, sender, verified⟩
    obtain rfl := some.inj (hashed.symm.trans hashedAs)
    obtain rfl := some.inj (sigWritten.symm.trans writtenAs)
    refine ⟨_, rfl, ?_⟩
    dsimp only
    rw [if_neg long]
    have keyRead := (HybridPublicKey.fromBytes_toBytes compressed).mpr ⟨readable, rfl⟩
    refine bind_eq_ok.mpr ⟨_, mapError_eq_ok_iff.mpr keyRead, ?_⟩
    refine bind_eq_ok.mpr ⟨read, mapError_eq_ok_iff.mpr sigRead, ?_⟩
    exact verifyParsed_eq_ok.mpr ⟨sender, verified⟩

end SignatureMiddleware

end Core
