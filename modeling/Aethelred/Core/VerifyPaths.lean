import Aethelred.Core.Mempool

/- The three ways to check a signed transaction, and when they agree. -/
namespace Core

open Bytes List Except

theorem toBool_eq_true {outcome : Except String Unit} :
    outcome.toBool = true ↔ outcome = .ok () := by
  cases outcome with
  | error reason => simp [Except.toBool]
  | ok value => simp [Except.toBool]

section Configurations

variable (threatLevel : QuantumThreatLevel) (chainId : UInt64)

theorem verifierConfigFor_chainId : (verifierConfigFor threatLevel chainId).chainId = chainId := by
  cases quantum : quantumOnly threatLevel <;> simp [verifierConfigFor, quantum,
    VerifierConfig.enterPanicMode]

theorem verifierConfigFor_minDilithiumLevel :
    (verifierConfigFor threatLevel chainId).minDilithiumLevel = .level3 := by
  cases quantum : quantumOnly threatLevel <;> simp [verifierConfigFor, quantum,
    VerifierConfig.enterPanicMode, VerifierConfig.default]

theorem verifierConfigFor_maxSignatureAgeSecs :
    (verifierConfigFor threatLevel chainId).maxSignatureAgeSecs = none := by
  cases quantum : quantumOnly threatLevel <;> simp [verifierConfigFor, quantum,
    VerifierConfig.enterPanicMode, VerifierConfig.default]

theorem verifierConfigFor_panicModeQc :
    (verifierConfigFor threatLevel chainId).panicModeQc = quantumOnly threatLevel := by
  cases quantum : quantumOnly threatLevel <;> simp [verifierConfigFor, quantum,
    VerifierConfig.enterPanicMode, VerifierConfig.default]

theorem verifierConfig_chainId :
    (SignatureMiddleware.verifierConfig chainId threatLevel).chainId = chainId := by
  have base : (if chainId = 9999 then VerifierConfig.devnet
      else if chainId = 2 then VerifierConfig.testnet
      else if chainId = 1 then VerifierConfig.mainnet
      else { VerifierConfig.default with chainId }).chainId = chainId := by
    split
    · exact Eq.symm ‹_›
    split
    · exact Eq.symm ‹_›
    split
    · exact Eq.symm ‹_›
    · rfl
  rw [SignatureMiddleware.verifierConfig]
  split
  · exact base
  · exact base

theorem verifierConfig_panicModeQc :
    (SignatureMiddleware.verifierConfig chainId threatLevel).panicModeQc =
      quantumOnly threatLevel := by
  have base : (if chainId = 9999 then VerifierConfig.devnet
      else if chainId = 2 then VerifierConfig.testnet
      else if chainId = 1 then VerifierConfig.mainnet
      else { VerifierConfig.default with chainId }).panicModeQc = false := by
    split
    · rfl
    split
    · rfl
    split
    · rfl
    · rfl
  rw [SignatureMiddleware.verifierConfig, quantumOnly]
  split
  case isTrue quantum => rw [decide_eq_true quantum]; rfl
  case isFalse quantum => rw [decide_eq_false quantum]; exact base

end Configurations

namespace SignedTransaction

variable (platform : Platform)

/-- The sender is the address of the key. -/
def FromSender (signed : SignedTransaction) : Prop :=
  Address.fromPublicKey platform signed.publicKey = signed.tx.sender

/-- All that the crate checks of a signature besides the sender and the chain. -/
def Valid (signed : SignedTransaction) (threatLevel : QuantumThreatLevel) : Prop :=
  ∃ hash, signed.tx.hash platform = some hash ∧ signed.signature.WellFormed ∧
    ¬signed.signature.level < .level3 ∧
    signed.signature.Genuine platform (ofFn hash) signed.publicKey (quantumOnly threatLevel)

variable {platform} {signed : SignedTransaction} {threatLevel : QuantumThreatLevel}

theorem verify_eq_ok {hash : Hash256} {chainId : UInt64} :
    signed.signature.verify platform (ofFn hash) signed.publicKey
        (verifierConfigFor threatLevel chainId) = .ok () ↔
      (signed.signature.WellFormed ∧ ¬signed.signature.level < .level3 ∧
        signed.signature.Genuine platform (ofFn hash) signed.publicKey
          (quantumOnly threatLevel)) ∧ signed.signature.OnChain chainId := by
  rw [HybridSignature.verify_eq_ok, verifierConfigFor_minDilithiumLevel,
    verifierConfigFor_maxSignatureAgeSecs, verifierConfigFor_chainId,
    verifierConfigFor_panicModeQc]
  constructor
  · rintro ⟨formed, strong, _, chain, genuine⟩
    exact ⟨⟨formed, strong, genuine⟩, chain⟩
  · rintro ⟨⟨formed, strong, genuine⟩, chain⟩
    exact ⟨formed, strong, (fun _ given => nomatch given), chain, genuine⟩

theorem verifySignature_eq_ok :
    signed.verifySignature platform threatLevel = some (.ok true) ↔
      signed.Valid platform threatLevel ∧ signed.FromSender platform ∧
        signed.signature.OnChain signed.tx.chainId := by
  rw [verifySignature]
  by_cases sender : Address.fromPublicKey platform signed.publicKey = signed.tx.sender
  · rw [if_neg (not_not_intro sender), Option.bind_eq_bind, Option.bind_eq_some_iff]
    constructor
    · rintro ⟨hash, hashed, accepted⟩
      have verified := toBool_eq_true.mp (ok.inj (Option.some.inj accepted))
      obtain ⟨valid, chain⟩ := verify_eq_ok.mp verified
      exact ⟨⟨hash, hashed, valid⟩, sender, chain⟩
    · rintro ⟨⟨hash, hashed, valid⟩, _, chain⟩
      have verified := verify_eq_ok.mpr ⟨valid, chain⟩
      refine ⟨hash, hashed, ?_⟩
      dsimp only
      rw [toBool_eq_true.mpr verified]
  · rw [if_pos sender]
    constructor
    · intro rejected
      contradiction
    · rintro ⟨_, same, _⟩
      exact absurd same sender

end SignedTransaction

section Batches

variable {platform : Platform} {threatLevel : QuantumThreatLevel}
  {transactions : List SignedTransaction}

/-- All entries of a batch verify, hash by hash. -/
theorem all_verify_iff {config : VerifierConfig} {hashes : List Hash256}
    (hashed : (transactions.mapM fun signed => signed.tx.hash platform) = some hashes) :
    ((((hashes.map ofFn).zip (transactions.map (·.signature))).zip
        (transactions.map (·.publicKey))).all fun entry =>
          (entry.1.2.verify platform entry.1.1 entry.2 config).toBool) = true ↔
      ∀ signed ∈ transactions, ∃ hash, signed.tx.hash platform = some hash ∧
        signed.signature.verify platform (ofFn hash) signed.publicKey config = .ok () := by
  induction transactions generalizing hashes with
  | nil =>
    obtain rfl : [] = hashes := Option.some.inj hashed
    simp
  | cons signed rest ih =>
    rw [mapM_cons, Option.bind_eq_bind, Option.bind_eq_some_iff] at hashed
    obtain ⟨hash, first, hashed⟩ := hashed
    rw [Option.bind_eq_bind, Option.bind_eq_some_iff] at hashed
    obtain ⟨others, later, gathered⟩ := hashed
    obtain rfl := Option.some.inj gathered
    rw [map_cons, map_cons, map_cons, zip_cons_cons, zip_cons_cons,
      all_cons, Bool.and_eq_true, ih later, toBool_eq_true, forall_mem_cons]
    refine and_congr_left fun _ => ?_
    constructor
    · intro verified
      exact ⟨hash, first, verified⟩
    · rintro ⟨_, given, verified⟩
      obtain rfl := Option.some.inj (first.symm.trans given)
      exact verified

theorem exists_hashes
    (each : ∀ signed ∈ transactions, ∃ hash, signed.tx.hash platform = some hash) :
    ∃ hashes, (transactions.mapM fun signed => signed.tx.hash platform) = some hashes := by
  induction transactions with
  | nil => exact ⟨[], rfl⟩
  | cons signed rest ih =>
    obtain ⟨first, later⟩ := forall_mem_cons.mp each
    obtain ⟨hash, hashed⟩ := first
    obtain ⟨hashes, gathered⟩ := ih later
    exact ⟨hash :: hashes, by rw [mapM_cons, hashed, gathered]; rfl⟩

theorem length_of_hashes {hashes : List Hash256}
    (hashed : (transactions.mapM fun signed => signed.tx.hash platform) = some hashes) :
    hashes.length = transactions.length := by
  induction transactions generalizing hashes with
  | nil =>
    obtain rfl : [] = hashes := Option.some.inj hashed
    rfl
  | cons signed rest ih =>
    rw [mapM_cons, Option.bind_eq_bind, Option.bind_eq_some_iff] at hashed
    obtain ⟨hash, first, hashed⟩ := hashed
    rw [Option.bind_eq_bind, Option.bind_eq_some_iff] at hashed
    obtain ⟨others, later, gathered⟩ := hashed
    obtain rfl := Option.some.inj gathered
    rw [length_cons, length_cons, ih later]

def batchChainId (transactions : List SignedTransaction) : UInt64 :=
  (transactions.head?.map (·.tx.chainId)).getD 1

/-- A batch asks for valid signatures on the first transaction's chain. -/
theorem verifyAll_eq_ok :
    verifyAll platform transactions threatLevel = some (.ok true) ↔
      (∀ signed ∈ transactions, signed.Valid platform threatLevel) ∧
        ∀ signed ∈ transactions, signed.signature.OnChain (batchChainId transactions) := by
  have verdict {hashes : List Hash256}
      (hashed : (transactions.mapM fun signed => signed.tx.hash platform) = some hashes) :
      verifyAll platform transactions threatLevel = some (.ok true) ↔
        ∀ signed ∈ transactions, ∃ hash, signed.tx.hash platform = some hash ∧
          signed.signature.verify platform (ofFn hash) signed.publicKey
            (verifierConfigFor threatLevel (batchChainId transactions)) = .ok () := by
    have columns : ¬((hashes.map ofFn).length ≠ (transactions.map (·.signature)).length ∨
        (transactions.map (·.signature)).length ≠ (transactions.map (·.publicKey)).length) := by
      simp only [length_map, length_of_hashes hashed, ne_eq, not_true_eq_false, or_self,
        not_false_iff]
    rw [← all_verify_iff hashed, verifyAll, hashed, Option.bind_eq_bind, Option.bind_some]
    dsimp only
    rw [batchVerify, if_neg columns, Option.some.injEq, mapError_eq_ok_iff,
      ok.injEq]
    rfl
  constructor
  · intro accepted
    cases hashed : transactions.mapM fun signed => signed.tx.hash platform with
    | none =>
      rw [verifyAll, hashed] at accepted
      contradiction
    | some hashes =>
      have each := (verdict hashed).mp accepted
      constructor
      · intro signed member
        obtain ⟨hash, given, verified⟩ := each signed member
        exact ⟨hash, given, (SignedTransaction.verify_eq_ok.mp verified).1⟩
      · intro signed member
        obtain ⟨hash, given, verified⟩ := each signed member
        exact (SignedTransaction.verify_eq_ok.mp verified).2
  · rintro ⟨valid, chains⟩
    obtain ⟨hashes, hashed⟩ := exists_hashes fun signed member =>
      let ⟨hash, given, _⟩ := valid signed member
      ⟨hash, given⟩
    refine (verdict hashed).mpr fun signed member => ?_
    obtain ⟨hash, given, checks⟩ := valid signed member
    exact ⟨hash, given, SignedTransaction.verify_eq_ok.mpr ⟨checks, chains signed member⟩⟩

end Batches

section Mempool

variable (platform : Platform) (signed : SignedTransaction) (threatLevel : QuantumThreatLevel)

/-- The bytes of the signed transaction are fewer than a u32 counts. -/
def SignedTransaction.Fits : Prop := ∀ bytes, signed.toBytes = some bytes → bytes.length < 2 ^ 32

/-- The checks that the crate and the mempool both make of a well-formed signature. -/
def SignedTransaction.Shared : Prop :=
  ∃ hash, signed.tx.hash platform = some hash ∧ signed.FromSender platform ∧
    signed.signature.OnChain signed.tx.chainId ∧
    signed.signature.Genuine platform (ofFn hash) signed.publicKey (quantumOnly threatLevel)

/-- What the mempool's preset for the chain asks for besides. -/
def SignedTransaction.MeetsPreset : Prop :=
  signed.publicKey.Readable platform ∧
    ¬signed.signature.level <
      (SignatureMiddleware.verifierConfig signed.tx.chainId threatLevel).minDilithiumLevel ∧
    signed.signature.Fresh platform
      (SignatureMiddleware.verifierConfig signed.tx.chainId threatLevel).maxSignatureAgeSecs

/-- The mempool reads from the bytes a signature that it accepts. -/
def SignedTransaction.ReadAsAccepted : Prop :=
  ∃ hash sigBytes read, signed.tx.hash platform = some hash ∧
    signed.signature.toBytes = some sigBytes ∧ HybridSignature.fromBytes sigBytes = .ok read ∧
    signed.publicKey.Readable platform ∧ signed.FromSender platform ∧
    read.verify platform (ofFn hash) signed.publicKey
      (SignatureMiddleware.verifierConfig signed.tx.chainId threatLevel) = .ok ()

variable {platform signed threatLevel}

theorem SignedTransaction.exists_bytes {hash : Hash256} {sigBytes : List UInt8}
    (hashed : signed.tx.hash platform = some hash)
    (written : signed.signature.toBytes = some sigBytes) :
    ∃ bytes, signed.toBytes = some bytes := by
  rw [Transaction.hash, Option.bind_eq_bind, Option.bind_eq_some_iff] at hashed
  obtain ⟨txBytes, txWritten, _⟩ := hashed
  exact ⟨_, by rw [toBytes, txWritten, written]; rfl⟩

theorem SignedTransaction.mempool_iff (compressed : signed.publicKey.classical.bytes.length = 33)
    (fits : signed.Fits) :
    (∃ bytes, signed.toBytes = some bytes ∧
      SignatureMiddleware.verifySignature platform bytes threatLevel = .ok true) ↔
      signed.ReadAsAccepted platform threatLevel := by
  constructor
  · rintro ⟨bytes, written, accepted⟩
    exact (SignatureMiddleware.verifySignature_eq_ok compressed written (fits bytes written)).mp
      accepted
  · intro accepted
    obtain ⟨hash, sigBytes, read, hashed, sigWritten, _⟩ := id accepted
    obtain ⟨bytes, written⟩ := exists_bytes hashed sigWritten
    exact ⟨bytes, written, (SignatureMiddleware.verifySignature_eq_ok compressed written
      (fits bytes written)).mpr accepted⟩

theorem SignedTransaction.readAsAccepted_iff (formed : signed.signature.WellFormed) :
    signed.ReadAsAccepted platform threatLevel ↔
      signed.Shared platform threatLevel ∧ signed.MeetsPreset platform threatLevel := by
  constructor
  · rintro ⟨hash, sigBytes, read, hashed, written, given, readable, sender, verified⟩
    obtain rfl := ok.inj (given.symm.trans (formed.fromBytes_toBytes written))
    obtain ⟨_, strong, fresh, chain, genuine⟩ := HybridSignature.verify_eq_ok.mp verified
    rw [verifierConfig_chainId] at chain
    rw [verifierConfig_panicModeQc] at genuine
    exact ⟨⟨hash, hashed, sender, chain, genuine⟩, readable, strong, fresh⟩
  · rintro ⟨⟨hash, hashed, sender, chain, genuine⟩, readable, strong, fresh⟩
    obtain ⟨sigBytes, written⟩ := formed.exists_bytes
    have verified := HybridSignature.verify_eq_ok.mpr ⟨formed, strong, fresh,
      (verifierConfig_chainId threatLevel signed.tx.chainId).symm ▸ chain,
      (verifierConfig_panicModeQc threatLevel signed.tx.chainId).symm ▸ genuine⟩
    exact ⟨hash, sigBytes, _, hashed, written, formed.fromBytes_toBytes written, readable, sender,
      verified⟩

theorem SignedTransaction.verifySignature_iff_shared (formed : signed.signature.WellFormed) :
    signed.verifySignature platform threatLevel = some (.ok true) ↔
      signed.Shared platform threatLevel ∧ ¬signed.signature.level < .level3 := by
  rw [verifySignature_eq_ok]
  constructor
  · rintro ⟨⟨hash, hashed, _, strong, genuine⟩, sender, chain⟩
    exact ⟨⟨hash, hashed, sender, chain, genuine⟩, strong⟩
  · rintro ⟨⟨hash, hashed, sender, chain, genuine⟩, strong⟩
    exact ⟨⟨hash, hashed, formed, strong, genuine⟩, sender, chain⟩

end Mempool

section Agreement

variable (platform : Platform) (transactions : List SignedTransaction)
  (signed : SignedTransaction) (threatLevel : QuantumThreatLevel)

/-- The batch is accepted exactly when each of its transactions is. -/
def BatchAgrees : Prop :=
  verifyAll platform transactions threatLevel = some (.ok true) ↔
    ∀ signed ∈ transactions, signed.verifySignature platform threatLevel = some (.ok true)

/-- The crate accepts the transaction exactly when the mempool accepts its bytes. -/
def MempoolAgrees : Prop :=
  signed.verifySignature platform threatLevel = some (.ok true) ↔
    ∃ bytes, signed.toBytes = some bytes ∧
      SignatureMiddleware.verifySignature platform bytes threatLevel = .ok true

/-- If all signatures are valid, no signature names a chain other than that of the first
transaction exactly when all senders and chains are right. -/
def BatchSafe : Prop :=
  (∀ signed ∈ transactions, signed.Valid platform threatLevel) →
    ((∀ signed ∈ transactions, signed.signature.OnChain (batchChainId transactions)) ↔
      ∀ signed ∈ transactions, signed.FromSender platform ∧
        signed.signature.OnChain signed.tx.chainId)

/-- A well-formed signature that passes the shared checks meets level 3 exactly when it meets the
preset of its chain; a malformed one is not read as another that is accepted. -/
def MempoolSafe : Prop :=
  (signed.signature.WellFormed → signed.Shared platform threatLevel →
    (¬signed.signature.level < .level3 ↔ signed.MeetsPreset platform threatLevel)) ∧
  (¬signed.signature.WellFormed → ¬signed.ReadAsAccepted platform threatLevel)

/-- When a batch passes exactly if each of its transactions does. -/
theorem batchAgrees_iff :
    BatchAgrees platform transactions threatLevel ↔
      BatchSafe platform transactions threatLevel := by
  have single : (∀ signed ∈ transactions,
      signed.verifySignature platform threatLevel = some (.ok true)) ↔
        (∀ signed ∈ transactions, signed.Valid platform threatLevel) ∧
          ∀ signed ∈ transactions, signed.FromSender platform ∧
            signed.signature.OnChain signed.tx.chainId := by
    simp only [SignedTransaction.verifySignature_eq_ok]
    exact forall₂_and
  rw [BatchAgrees, BatchSafe, verifyAll_eq_ok, single, and_congr_right_iff]

variable {signed}

theorem mempoolAgrees_iff (compressed : signed.publicKey.classical.bytes.length = 33)
    (fits : signed.Fits) :
    MempoolAgrees platform signed threatLevel ↔ MempoolSafe platform signed threatLevel := by
  rw [MempoolAgrees, MempoolSafe, SignedTransaction.mempool_iff compressed fits]
  by_cases formed : signed.signature.WellFormed
  · rw [SignedTransaction.verifySignature_iff_shared formed,
      SignedTransaction.readAsAccepted_iff formed, and_congr_right_iff]
    simp [formed]
  · have rejected : ¬signed.verifySignature platform threatLevel = some (.ok true) := by
      rw [SignedTransaction.verifySignature_eq_ok]
      rintro ⟨⟨_, _, wellFormed, _⟩, _⟩
      exact formed wellFormed
    simp [formed, rejected]

/-- When the three paths agree on a batch and, for transactions whose bytes fit, on each
transaction with a compressed ECDSA key. -/
theorem paths_agree_iff :
    (BatchAgrees platform transactions threatLevel ↔
      BatchSafe platform transactions threatLevel) ∧
    ∀ signed : SignedTransaction, signed.publicKey.classical.bytes.length = 33 → signed.Fits →
      (MempoolAgrees platform signed threatLevel ↔ MempoolSafe platform signed threatLevel) :=
  ⟨batchAgrees_iff platform transactions threatLevel,
    fun _ => mempoolAgrees_iff platform threatLevel⟩

end Agreement

def digest (number : Nat) : Fixed 32 := fun i => UInt8.ofNat (number / 256 ^ (31 - i.val))

def keyDigest : Nat := 0xa421005f483d86ae4f0434e9ade4fcb28989a58317480b565c45602c90309540

/-- The quantum part of the sample transactions' signatures. -/
def sampleQuantum : List UInt8 := replicate 3309 1

/-- Dilithium3 where `sampleQuantum` is the one signature of a message hash. -/
def sampleDilithium (messageHash : Nat) (quantum msgHash : List UInt8)
    (pubkey : DilithiumPublicKey) : Except String Bool :=
  if quantum.length ≠ 3309 then .error "Malformed Dilithium signature"
  else if pubkey.bytes.length ≠ 1952 then .error "Malformed Dilithium public key"
  else .ok (quantum = sampleQuantum ∧ msgHash = bigEndian 32 messageHash)

/-- The libraries on the sample transactions: SHA-256 of the key and of the transaction, Keccak-256
of the latter, the generator of secp256k1, and an ECDSA signature of zeros. -/
def samplePlatform (txDigest messageHash : Nat) : Platform where
  keccak256 := fun _ => bigEndian 32 messageHash
  sha256 := fun bytes => digest (if bytes.length = 1989 then keyDigest else txDigest)
  sec1Point := fun _ => .ok ()
  verifyDilithium := fun _ => sampleDilithium messageHash
  verifyingKey := fun _ _ _ => .error "Malformed ECDSA Signature: signature error"
  now := some 1700000000

def generatorX : Nat := 0x79be667ef9dcbbac55a06295ce870b07029bfcdb2dce28d959f2815b16f81798

def sampleKey : HybridPublicKey where
  classical := { bytes := 0x02 :: bigEndian 32 generatorX }
  quantum := { bytes := replicate 1952 0, level := .level3 }

def zeroAddress : Address where
  addressType := .user
  bytes := fun _ => 0

/-- `Transaction::transfer` of one unit to the zero address. -/
def sampleTransfer (sender : Address) : SignedTransaction where
  tx :=
    { version := 1, txType := .transfer, sender, nonce := 0, gasPrice := 1, gasLimit := 21000,
      chainId := 1, expiry := 0,
      payload := .transfer
        { recipient := zeroAddress, amount := 1, memo := none } }
  signature :=
    { classical := replicate 64 0, quantum := sampleQuantum, level := .level3,
      timestamp := none, chainId := none }
  publicKey := sampleKey

def keyAddress : Address where
  addressType := .user
  bytes := fun i => digest keyDigest (i.castLE (Nat.le_add_right 20 12))

def ownPlatform : Platform :=
  samplePlatform 0x8148b3064c743fd37b93709c315b829874c479b6f6682b2fbb8ecd9ac8cbaeec
    0x6f04ff30e7def6842bb1de5b72ba25284f05a995d5f75b3d7441f2a706760624

def forgedPlatform : Platform :=
  samplePlatform 0x4a12477a563462bc04851afd31d27916ae1c60bc1507ae169e75757a5f7fa98d
    0xa47b6945ea56f144183a1d4ecda046f98c6d93945a761f0572be760439ade8d0

theorem paths_agree_on_own_transfer :
    (sampleTransfer keyAddress).verifySignature ownPlatform 5 = some (.ok true) ∧
      BatchAgrees ownPlatform [sampleTransfer keyAddress] 5 ∧
      MempoolAgrees ownPlatform (sampleTransfer keyAddress) 5 := by
  have agree := paths_agree_iff ownPlatform [sampleTransfer keyAddress] 5
  have accepted : (sampleTransfer keyAddress).verifySignature ownPlatform 5 = some (.ok true) := by
    decide +kernel
  obtain ⟨_, sender, chain⟩ := SignedTransaction.verifySignature_eq_ok.mp accepted
  have sized : (sampleTransfer keyAddress).toBytes.map length = some 5483 := by
    decide +kernel
  have fits : (sampleTransfer keyAddress).Fits := by
    intro bytes written
    rw [written] at sized
    rw [Option.some.inj sized]
    decide
  have formed : (sampleTransfer keyAddress).signature.WellFormed := by decide +kernel
  refine ⟨accepted, agree.1.mpr fun _ => ?_, (agree.2 _ (by decide +kernel) fits).mpr ?_⟩
  · simp only [forall_mem_singleton, batchChainId]
    exact ⟨fun _ => ⟨sender, chain⟩, fun right => right.2⟩
  · refine ⟨fun _ _ => ?_, fun malformed => absurd formed malformed⟩
    have preset : (sampleTransfer keyAddress).MeetsPreset ownPlatform 5 := by
      refine ⟨⟨rfl, by decide +kernel⟩, by decide, ?_⟩
      intro most given
      have ageless : (SignatureMiddleware.verifierConfig 1 5).maxSignatureAgeSecs = none := by
        decide
      exact absurd (ageless.symm.trans given) nofun
    exact ⟨fun _ => preset, fun _ => by decide⟩

/-- A transfer from an address that is not the key's passes in a batch. -/
theorem forged_sender_in_batch :
    ¬BatchAgrees forgedPlatform [sampleTransfer zeroAddress] 5 := by
  intro agrees
  have accepted : verifyAll forgedPlatform [sampleTransfer zeroAddress] 5 = some (.ok true) := by
    decide +kernel
  have rejected : (sampleTransfer zeroAddress).verifySignature forgedPlatform 5 =
      some (.ok false) := by
    decide +kernel
  have each := agrees.mp accepted _ mem_cons_self
  exact absurd (ok.inj (Option.some.inj (rejected.symm.trans each))) (by decide)

end Core
