import Aethelred.Core.VerifyPaths
import Aethelred.Lib.Checked

/- The two checks of the mempool that every transaction passes, `crates/mempool/src/middleware`: of
its signature, on its bytes, and of its fee, on what was read of them. -/
namespace Core

open Bytes List Except Nat

structure MiddlewareConfig where
  quantumThreatLevel : UInt8 := 0
  minGasPrice : UInt64 := 1
  maxTxSize : Nat := 1048576
  blockedAddresses : List (List UInt8) := []

structure TxHeader where
  sender : List UInt8
  txType : UInt8
  nonce : UInt64
  gasPrice : UInt64
  gasLimit : UInt64
  chainId : UInt64

structure ParsedTransaction extends TxHeader where
  txId : Hash256
  size : Nat
  signatureValid : Bool := false

namespace SignatureMiddleware

def u64At (bytes : List UInt8) (offset : Nat) : UInt64 :=
  UInt64.ofNat (ofLittleEndian (slice bytes offset 8))

def headerOf (bytes : List UInt8) : TxHeader where
  sender := slice bytes 2 21
  txType := byteAt bytes 1
  nonce := u64At bytes 23
  gasPrice := u64At bytes 31
  gasLimit := u64At bytes 39
  chainId := u64At bytes 47

variable (txBytes : List UInt8)

def headerOffset : Nat :=
  if 0 < u32At txBytes 0 ∧ u32At txBytes 0 < txBytes.length then 4 else 0

def parseTransaction (platform : Platform) (txBytes : List UInt8) : Option ParsedTransaction :=
  if txBytes.length < 100 then none
  else if txBytes.length < headerOffset txBytes + 63 then none
  else
    some { headerOf (txBytes.drop (headerOffset txBytes)) with
      txId := transactionHash platform txBytes
      size := txBytes.length }

def process (platform : Platform) (config : MiddlewareConfig) (txBytes : List UInt8) :
    Except String ParsedTransaction := do
  if config.maxTxSize < txBytes.length then
    let size := txBytes.length
    let most := config.maxTxSize
    .error s!"Transaction size {size} exceeds maximum {most}"
  else match parseTransaction platform txBytes with
  | none => .error "Failed to parse transaction"
  | some parsed =>
    if parsed.sender ∈ config.blockedAddresses then .error "Sender address is blocked"
    else match verifySignature platform txBytes config.quantumThreatLevel with
    | .error reason => .error s!"Signature verification error: {reason}"
    | .ok false => .error "Signature verification failed"
    | .ok true => .ok { parsed with signatureValid := true }

def announced : Nat :=
  12 + u32At txBytes 0 + u32At txBytes (4 + u32At txBytes 0) +
    u32At txBytes (4 + u32At txBytes 0 + 4 + u32At txBytes (4 + u32At txBytes 0))

/-- The fields are those of the signed body, and the bytes are its framing and no more. -/
def Faithful (parsed : ParsedTransaction) : Prop :=
  ∃ body signature publicKey, sections txBytes = .ok (body, signature, publicKey) ∧
    parsed.toTxHeader = headerOf body ∧
    txBytes =
      lengthPrefixed 4 body ++ (lengthPrefixed 4 signature ++ lengthPrefixed 4 publicKey)

variable {platform : Platform} {config : MiddlewareConfig} {bytes bytes' : List UInt8}
  {parsed parsed' : ParsedTransaction}

theorem lengthPrefixed_slice {offset : Nat}
    (inside : offset + 4 + u32At bytes offset ≤ bytes.length) :
    lengthPrefixed 4 (slice bytes (offset + 4) (u32At bytes offset)) =
      slice bytes offset (4 + u32At bytes offset) := by
  have length : (slice bytes offset 4).length = 4 := length_slice (by omega)
  have small := ofLittleEndian_lt (slice bytes offset 4)
  have back := littleEndian_ofLittleEndian (slice bytes offset 4)
  rw [length] at small back
  rw [lengthPrefixed, lengthBytes, length_slice inside, ← slice_append_slice]
  unfold u32At
  rw [mod_eq_of_lt small, back]

/-- Sections that are read were announced, and make up the transaction. -/
theorem sections_eq_ok {body signature publicKey : List UInt8}
    (read : sections bytes = .ok (body, signature, publicKey)) :
    announced bytes ≤ bytes.length ∧ body = slice bytes 4 (u32At bytes 0) ∧
      12 + body.length + signature.length + publicKey.length = announced bytes ∧
      lengthPrefixed 4 body ++ (lengthPrefixed 4 signature ++ lengthPrefixed 4 publicKey) =
        bytes.take (announced bytes) := by
  simp only [sections, ite_error_eq_ok, ok.injEq, Prod.mk.injEq, not_lt] at read
  obtain ⟨-, -, -, long, rfl, rfl, rfl⟩ := read
  have whole : announced bytes ≤ bytes.length := by
    unfold announced
    omega
  refine ⟨whole, rfl, ?_, ?_⟩
  · rw [length_slice (by omega), length_slice (by omega),
      length_slice (by omega), announced]
  · have first := @lengthPrefixed_slice bytes 0 (by omega)
    rw [zero_add] at first
    rw [first, lengthPrefixed_slice (by omega), lengthPrefixed_slice (by omega), announced]
    generalize u32At bytes (4 + u32At bytes 0 + 4 + u32At bytes (4 + u32At bytes 0)) = keyLength
    have joined := slice_append_slice bytes 0 (4 + u32At bytes 0)
    rw [zero_add] at joined
    rw [add_assoc (4 + u32At bytes 0), slice_append_slice, joined, slice,
      drop_zero]
    congr 1
    omega

theorem slice_take {start width more : Nat} (inside : start + width ≤ more) :
    slice (bytes.take more) start width = slice bytes start width := by
  rw [slice, slice, drop_take, take_take, min_eq_left (by omega)]

theorem headerOf_take {more : Nat} (inside : 55 ≤ more) :
    headerOf (bytes.take more) = headerOf bytes := by
  unfold headerOf u64At byteAt
  simp only [slice_take (show 2 + 21 ≤ more by omega), slice_take (show 23 + 8 ≤ more by omega),
    slice_take (show 31 + 8 ≤ more by omega), slice_take (show 39 + 8 ≤ more by omega),
    slice_take (show 47 + 8 ≤ more by omega), getD_eq_getElem?_getD,
    getElem?_take_of_lt (show 1 < more by omega)]

section

variable (accepted : process platform config bytes = .ok parsed)
include accepted

theorem process_eq_ok :
    ∃ body signature publicKey, sections bytes = .ok (body, signature, publicKey) ∧
      parsed.toTxHeader = headerOf body ∧ parsed.txId = transactionHash platform bytes := by
  unfold process at accepted
  split at accepted
  · cases accepted
  split at accepted
  · cases accepted
  rename_i read found
  split at accepted
  · cases accepted
  split at accepted
  · cases accepted
  · cases accepted
  rename_i verified
  obtain rfl := ok.inj accepted
  obtain ⟨⟨body, signature, publicKey⟩, cut, verified⟩ := bind_eq_ok.mp verified
  rw [ite_error_eq_ok] at verified
  obtain ⟨signer, -, verified⟩ := bind_eq_ok.mp verified.2
  obtain ⟨hybrid, -, verified⟩ := bind_eq_ok.mp verified
  have chained : 55 ≤ body.length := by
    unfold verifyParsed at verified
    split at verified
    · cases verified
    rw [ite_error_eq_ok] at verified
    omega
  obtain ⟨long, same, length, -⟩ := sections_eq_ok cut
  have named : body.length = u32At bytes 0 := by
    rw [same]
    exact length_slice (by unfold announced at long; omega)
  have offset : headerOffset bytes = 4 := if_pos (by omega)
  rw [parseTransaction, offset] at found
  split at found
  · cases found
  split at found
  · cases found
  obtain rfl := Option.some.inj found
  refine ⟨body, signature, publicKey, cut, ?_, rfl⟩
  rw [same, slice, headerOf_take (by omega)]

/-- Accepted bytes are faithful exactly if nothing follows their last section. -/
theorem faithful_iff_whole :
    Faithful bytes parsed ↔ bytes.length = announced bytes := by
  obtain ⟨body, signature, publicKey, cut, header, -⟩ := process_eq_ok accepted
  obtain ⟨-, -, length, joined⟩ := sections_eq_ok cut
  constructor
  · rintro ⟨_, _, _, again, -, framed⟩
    obtain ⟨rfl, rfl, rfl⟩ : _ ∧ _ ∧ _ := by simpa using again.symm.trans cut
    have size := congrArg List.length framed
    simp only [length_append, lengthPrefixed_length] at size
    omega
  · intro whole
    refine ⟨body, signature, publicKey, cut, header, ?_⟩
    rw [joined, ← whole, take_length]

end

/-- Accepted bytes are faithful, and of one identifier where they have the same sections, exactly if
nothing stands behind the public key. -/
theorem process_faithful_iff (accepted : process platform config bytes = .ok parsed)
    (accepted' : process platform config bytes' = .ok parsed') :
    (Faithful bytes parsed ∧ Faithful bytes' parsed' ∧
        (sections bytes = sections bytes' → parsed.txId = parsed'.txId)) ↔
      bytes.length = announced bytes ∧ bytes'.length = announced bytes' := by
  rw [faithful_iff_whole accepted, faithful_iff_whole accepted', and_congr_right_iff,
    and_iff_left_iff_imp]
  intro whole whole' same
  obtain ⟨_, _, _, cut, -, hash⟩ := process_eq_ok accepted
  obtain ⟨_, _, _, cut', -, hash'⟩ := process_eq_ok accepted'
  obtain ⟨-, -, -, joined⟩ := sections_eq_ok cut
  obtain ⟨-, -, -, joined'⟩ := sections_eq_ok (same ▸ cut)
  rw [← whole, take_length] at joined
  rw [← whole', take_length] at joined'
  rw [hash, hash', ← joined, ← joined']

/-- The bytes of a transfer that the key has signed. -/
def sampleBytes : List UInt8 := ((sampleTransfer keyAddress).toBytes).getD []

def panicConfig : MiddlewareConfig where quantumThreatLevel := 5

theorem sampleBytes_faithful : ∃ parsed, process ownPlatform panicConfig sampleBytes = .ok parsed ∧
    Faithful sampleBytes parsed := by
  have accepted : (process ownPlatform panicConfig sampleBytes).isOk = true := by decide +kernel
  cases done : process ownPlatform panicConfig sampleBytes with
  | error reason => rw [done] at accepted; cases accepted
  | ok parsed =>
    have whole : sampleBytes.length = announced sampleBytes := by decide +kernel
    exact ⟨parsed, rfl, ((process_faithful_iff done done).mpr ⟨whole, whole⟩).1⟩

/-- One more byte behind the key is accepted. -/
theorem trailing_byte_accepted : ∃ parsed,
    process ownPlatform panicConfig (sampleBytes ++ [0]) = .ok parsed ∧
      ¬Faithful (sampleBytes ++ [0]) parsed := by
  have accepted : (process ownPlatform panicConfig (sampleBytes ++ [0])).isOk = true := by
    decide +kernel
  cases done : process ownPlatform panicConfig (sampleBytes ++ [0]) with
  | error reason => rw [done] at accepted; cases accepted
  | ok parsed =>
    refine ⟨parsed, rfl, fun faithful => ?_⟩
    have whole := (faithful_iff_whole done).mp faithful
    revert whole
    decide +kernel

end SignatureMiddleware

structure FeeMiddleware where
  minGasPrice : UInt64 := 1
  maxGasLimit : UInt64 := 10000000

namespace FeeMiddleware

def getBaseGas (txType : UInt8) : Nat :=
  match txType with
  | 0x01 => 21000
  | 0x02 => 100000
  | 0x03 => 50000
  | 0x04 => 30000
  | 0x05 => 30000
  | 0x06 => 200000
  | 0x07 => 25000
  | 0x08 => 50000
  | 0x09 => 500000
  | 0x0A => 21000
  | _ => 21000

variable (middleware : FeeMiddleware)

/-- `none` where a product or a sum overflows. -/
def calculateMinFee (txType : UInt8) (dataSize : Nat) : Option Nat := do
  let dataGas ← Checked.mul 128 dataSize 16
  let gas ← Checked.add 128 (getBaseGas txType) dataGas
  Checked.mul 128 gas middleware.minGasPrice.toNat

def estimateGas (txType : UInt8) (dataSize : Nat) : Option Nat := do
  let dataGas ← Checked.mul 64 dataSize 16
  Checked.add 64 (getBaseGas txType) dataGas

def calculatePriorityScore (gasPrice : UInt64) (size : Nat) : Option Nat :=
  let efficiencyBonus :=
    if 0 < size then (Checked.mul 64 gasPrice.toNat 100).map (· / size) else some 0
  efficiencyBonus.map fun bonus => min (gasPrice.toNat + bonus) (2 ^ 64 - 1)

variable (config : MiddlewareConfig)

def effectiveMin : UInt64 :=
  max config.minGasPrice middleware.minGasPrice

def feeTooLow (totalFee minRequired : Nat) : String :=
  s!"Total fee {totalFee} below minimum required {minRequired}"

variable (tx : ParsedTransaction)

def process : Option (Except String Nat) :=
  let price := tx.gasPrice
  let limit := tx.gasLimit
  let base := getBaseGas tx.txType
  if price < middleware.effectiveMin config then
    let least := middleware.effectiveMin config
    some (.error s!"Gas price {price} below minimum {least}")
  else if limit.toNat < base then
    let kind := tx.txType
    some (.error s!"Gas limit {limit} below minimum {base} for transaction type {kind}")
  else if middleware.maxGasLimit < limit then
    let most := middleware.maxGasLimit
    some (.error s!"Gas limit {limit} exceeds maximum {most}")
  else do
    -- an estimate above the limit is a warning only
    let _ ← estimateGas tx.txType tx.size
    let totalFee ← Checked.mul 128 price.toNat limit.toNat
    let minRequired ← middleware.calculateMinFee tx.txType tx.size
    if totalFee < minRequired then some (.error (feeTooLow totalFee minRequired))
    else (calculatePriorityScore price tx.size).map .ok

def gasOf : Nat := getBaseGas tx.txType + 16 * tx.size

/-- Nothing overflows, and what goes on pays for its gas at the effective minimum. -/
def Complies : Prop :=
  middleware.process config tx ≠ none ∧ ∀ score, middleware.process config tx = some (.ok score) →
    middleware.effectiveMin config ≤ tx.gasPrice ∧
      gasOf tx * (middleware.effectiveMin config).toNat ≤ tx.gasPrice.toNat * tx.gasLimit.toNat

/-- The checks of price and gas. -/
def Passes : Prop :=
  middleware.effectiveMin config ≤ tx.gasPrice ∧ getBaseGas tx.txType ≤ tx.gasLimit.toNat ∧
    tx.gasLimit ≤ middleware.maxGasLimit

/-- Where price and limit pass, the gas fits into 64 bits; and where the fee passes too, it covers
the gas at the effective minimum, and a hundred times the price fits or the size is 0. -/
def Sound : Prop :=
  middleware.Passes config tx → gasOf tx < 2 ^ 64 ∧
    (gasOf tx * middleware.minGasPrice.toNat ≤ tx.gasPrice.toNat * tx.gasLimit.toNat →
      gasOf tx * (middleware.effectiveMin config).toNat ≤ tx.gasPrice.toNat * tx.gasLimit.toNat ∧
        (tx.size = 0 ∨ tx.gasPrice.toNat * 100 < 2 ^ 64))

variable {middleware} {config : MiddlewareConfig} {tx : ParsedTransaction}

theorem calculatePriorityScore_eq (price : UInt64) (size : Nat) :
    calculatePriorityScore price size =
      if size = 0 ∨ price.toNat * 100 < 2 ^ 64 then
        some (min (price.toNat + price.toNat * 100 / size) (2 ^ 64 - 1))
      else none := by
  unfold calculatePriorityScore Checked.mul
  by_cases empty : size = 0
  · simp [empty]
  · by_cases fits : price.toNat * 100 < 2 ^ 64
    · simp only [Nat.pos_of_ne_zero empty, fits, ↓reduceIte, or_true, Option.map_some]
    · simp only [Nat.pos_of_ne_zero empty, fits, empty, ↓reduceIte, or_self, Option.map_none]

theorem estimateGas_eq : estimateGas tx.txType tx.size =
    if gasOf tx < 2 ^ 64 then some (gasOf tx) else none := by
  unfold estimateGas gasOf
  by_cases fits : tx.size * 16 < 2 ^ 64
  · rw [Checked.mul_of_lt fits, Option.bind_eq_bind, Option.bind_some, Checked.add, mul_comm 16]
  · rw [Checked.mul, if_neg fits, if_neg (by omega)]
    rfl

theorem calculateMinFee_eq (fits : gasOf tx < 2 ^ 64) :
    middleware.calculateMinFee tx.txType tx.size =
      some (gasOf tx * middleware.minGasPrice.toNat) := by
  have product : gasOf tx * middleware.minGasPrice.toNat < 2 ^ 64 * 2 ^ 64 :=
    mul_lt_mul'' fits middleware.minGasPrice.toNat_lt
  unfold calculateMinFee
  unfold gasOf at *
  rw [Checked.mul_of_lt (by omega), Option.bind_eq_bind, Option.bind_some,
    Checked.add_of_lt (by omega), Option.bind_some, mul_comm tx.size, Checked.mul_of_lt product]

theorem process_of_passes (passes : middleware.Passes config tx) :
    middleware.process config tx =
      if gasOf tx < 2 ^ 64 then
        if tx.gasPrice.toNat * tx.gasLimit.toNat < gasOf tx * middleware.minGasPrice.toNat then
          some (.error (feeTooLow (tx.gasPrice.toNat * tx.gasLimit.toNat)
            (gasOf tx * middleware.minGasPrice.toNat)))
        else (calculatePriorityScore tx.gasPrice tx.size).map .ok
      else none := by
  obtain ⟨price, limit, most⟩ := passes
  have product : tx.gasPrice.toNat * tx.gasLimit.toNat < 2 ^ 64 * 2 ^ 64 :=
    mul_lt_mul'' tx.gasPrice.toNat_lt tx.gasLimit.toNat_lt
  unfold process
  dsimp only
  rw [if_neg (UInt64.not_lt.mpr price), if_neg (not_lt.mpr limit),
    if_neg (UInt64.not_lt.mpr most), estimateGas_eq, Checked.mul_of_lt product]
  split
  · rename_i fits
    rw [calculateMinFee_eq fits]
    rfl
  · rfl

theorem process_of_not_passes (fails : ¬middleware.Passes config tx) :
    ∃ reason, middleware.process config tx = some (.error reason) := by
  unfold process
  dsimp only
  split
  · exact ⟨_, rfl⟩
  split
  · exact ⟨_, rfl⟩
  split
  · exact ⟨_, rfl⟩
  · rename_i price limit most
    exact absurd ⟨UInt64.not_lt.mp price, Nat.le_of_not_lt limit, UInt64.not_lt.mp most⟩ fails

theorem complies_iff : middleware.Complies config tx ↔ middleware.Sound config tx := by
  unfold Complies Sound
  by_cases passes : middleware.Passes config tx
  · rw [process_of_passes passes]
    by_cases fits : gasOf tx < 2 ^ 64
    · by_cases short : tx.gasPrice.toNat * tx.gasLimit.toNat <
          gasOf tx * middleware.minGasPrice.toNat
      · simp [-reducePow, passes, fits, short, not_le.mpr short]
      · rw [if_pos fits, if_neg short, calculatePriorityScore_eq]
        by_cases room : tx.size = 0 ∨ tx.gasPrice.toNat * 100 < 2 ^ 64
        · simp [-Nat.reducePow, passes, fits, Nat.le_of_not_lt short, room, passes.1]
        · simp [-Nat.reducePow, passes, fits, Nat.le_of_not_lt short, room]
    · simp [-reducePow, passes, fits]
  · obtain ⟨reason, refused⟩ := process_of_not_passes passes
    rw [refused]
    simp [passes]

theorem process_eq_ok {score : Nat} (done : middleware.process config tx = some (.ok score)) :
    score = min (tx.gasPrice.toNat + tx.gasPrice.toNat * 100 / tx.size) (2 ^ 64 - 1) := by
  by_cases passes : middleware.Passes config tx
  · rw [process_of_passes passes, calculatePriorityScore_eq] at done
    split at done
    · split at done
      · cases done
      · split at done
        · cases done
          rfl
        · cases done
    · cases done
  · obtain ⟨reason, refused⟩ := process_of_not_passes passes
    rw [refused] at done
    cases done

/-- A transaction and the same one at a higher price are admitted as they should be, with scores in
that order, exactly if the arithmetic of both has room and their fees cover the effective minimum. -/
theorem admission_iff {higher : UInt64} (raised : tx.gasPrice ≤ higher) :
    (middleware.Complies config tx ∧ middleware.Complies config { tx with gasPrice := higher } ∧
      ∀ score score', middleware.process config tx = some (.ok score) →
        middleware.process config { tx with gasPrice := higher } = some (.ok score') →
        score ≤ score') ↔
    middleware.Sound config tx ∧ middleware.Sound config { tx with gasPrice := higher } := by
  rw [← complies_iff, ← complies_iff, ← and_assoc, and_iff_left_iff_imp]
  intro _ score score' done done'
  rw [process_eq_ok done, process_eq_ok done']
  have more : tx.gasPrice.toNat ≤ higher.toNat := raised
  have bonus : tx.gasPrice.toNat * 100 / tx.size ≤ higher.toNat * 100 / tx.size :=
    Nat.div_le_div_right (Nat.mul_le_mul_right _ more)
  dsimp only
  omega

/-- A transfer of 100 bytes. -/
def sampleParsed (gasPrice : UInt64) : ParsedTransaction where
  sender := []
  txType := 1
  nonce := 0
  gasPrice := gasPrice
  gasLimit := 21000
  chainId := 1
  txId := fun _ => 0
  size := 100

theorem admission_iff_cheap :
    FeeMiddleware.Complies {} {} (sampleParsed 2) ∧ FeeMiddleware.Complies {} {} (sampleParsed 3) :=
  have both := (@admission_iff {} {} (sampleParsed 2) 3 (by decide)).mpr
    ⟨fun _ => by decide, fun _ => by decide⟩
  ⟨both.1, both.2.1⟩

/-- The highest price overflows, and the node's minimum is not asked of the fee. -/
theorem highest_price_overflows :
    FeeMiddleware.process {} {} (sampleParsed (2 ^ 64 - 1)) = none ∧
      ¬FeeMiddleware.Complies {} { minGasPrice := 1000 } (sampleParsed 1000) := by
  refine ⟨by decide +kernel, fun complies => ?_⟩
  have covered := (complies.2 2000 (by decide +kernel)).2
  revert covered
  decide

end FeeMiddleware

end Core
