import Aethelred.Lib.Bytes
import Aethelred.Lib.Checked

/- The batch precompile for Groth16 proofs (`precompiles/zkp.rs`), with the verification of a single
proof as a parameter. `none` is an overflow or a range outside the input. -/
namespace Vm.BatchGroth16

open Bytes Checked List Option

def BATCH_GROTH16_BASE : Nat := 100000

def BATCH_GROTH16_PER_PROOF : Nat := 80000

def BATCH_GROTH16_PER_PUBLIC_INPUT : Nat := 12000

structure ExecutionResult where
  output : List UInt8
  gasUsed : Nat
  success : Bool := true
  deriving DecidableEq

inductive PrecompileError
  | InvalidInputLength (expected actual : Nat)
  | InvalidInputFormat (reason : String)
  | OutOfGas (required available : Nat)
  deriving DecidableEq

section Parsing

variable (input : List UInt8)

def range (start stop : Nat) : Option (List UInt8) :=
  if start ≤ stop ∧ stop ≤ input.length then some (slice input start (stop - start)) else none

def word (offset : Nat) : Option Nat := (range input offset (offset + 4)).map ofLittleEndian

structure Header where
  vkSize : Nat
  proofSize : Nat
  numInputs : Nat

def header (offset : Nat) : Option Header := do
  let vkSize ← word input offset
  let proofSize ← word input (offset + 4)
  let numInputs ← word input (offset + 8)
  some ⟨vkSize, proofSize, numInputs⟩

/-- `start + vk_size + proof_size + num_inputs * 32`. -/
def Header.sizeFrom (h : Header) (start : Nat) : Option Nat := do
  let key ← add 64 start h.vkSize
  let proof ← add 64 key h.proofSize
  let inputs ← mul 64 h.numInputs 32
  add 64 proof inputs

/-- The inputs that the entries announce; `visited` is not kept by the code. -/
def countLoop : (remaining offset total visited : Nat) → Option (Nat × Nat)
  | 0, _, total, visited => some (total, visited)
  | remaining + 1, offset, total, visited => do
    let needed ← add 64 offset 12
    if input.length < needed then some (total, visited)
    else
      let h ← header input offset
      let total ← add 64 total h.numInputs
      let size ← h.sizeFrom 12
      let next ← add 64 offset size
      countLoop remaining next total (visited + 1)

/-- The number of proofs, of their public inputs, and of the entries visited to count these. -/
def countTotalPublicInputs : Option (Nat × Nat × Nat) :=
  if input.length < 4 then some (0, 0, 0)
  else do
    let numProofs ← word input 0
    let (total, visited) ← countLoop input numProofs 4 0 0
    some (numProofs, total, visited)

def gasCost : Option Nat := do
  let (numProofs, totalInputs, _) ← countTotalPublicInputs input
  if numProofs = 0 then some BATCH_GROTH16_BASE
  else
    let proofs ← mul 64 numProofs BATCH_GROTH16_PER_PROOF
    let sum ← add 64 BATCH_GROTH16_BASE proofs
    let inputs ← mul 64 totalInputs BATCH_GROTH16_PER_PUBLIC_INPUT
    add 64 sum inputs

variable (verify : List UInt8 → List UInt8 → List UInt8 → Except String Bool)

def verifyLoop : (remaining i offset : Nat) → Option (Except PrecompileError Bool)
  | 0, _, _ => some (.ok true)
  | remaining + 1, i, offset => do
    let dataStart ← add 64 offset 12
    if input.length < dataStart then
      some (.error (.InvalidInputFormat s!"Truncated header for proof {i} at offset {offset}"))
    else
      let h ← header input offset
      let size ← h.sizeFrom 0
      let stop ← add 64 dataStart size
      if input.length < stop then
        let left := input.length - dataStart
        some (.error (.InvalidInputFormat
          s!"Truncated data for proof {i} (need {size} bytes at offset {dataStart}, have {left})"))
      else
        let vk ← range input dataStart (dataStart + h.vkSize)
        let proof ← range input (dataStart + h.vkSize) (dataStart + h.vkSize + h.proofSize)
        let publicInputs ← range input (dataStart + h.vkSize + h.proofSize) stop
        match verify vk proof publicInputs with
        | .ok true => verifyLoop remaining (i + 1) stop
        | _ => some (.ok false)

def outputOf (valid : Bool) : List UInt8 := replicate 31 0 ++ [if valid then 1 else 0]

def execute (gasLimit : Nat) : Option (Except PrecompileError ExecutionResult) := do
  let gas ← gasCost input
  if gasLimit < gas then some (.error (.OutOfGas gas gasLimit))
  else if input.length < 4 then some (.error (.InvalidInputLength 4 input.length))
  else
    let numProofs ← word input 0
    if numProofs = 0 then
      some (.error (.InvalidInputFormat "Batch must contain at least 1 proof"))
    else if 256 < numProofs then
      some (.error (.InvalidInputFormat "Batch size exceeds maximum of 256 proofs"))
    else
      let outcome ← verifyLoop input verify numProofs 0 4
      some (outcome.map fun valid => { output := outputOf valid, gasUsed := gas })

end Parsing

section Entries

variable (input : List UInt8)

structure Entry where
  vk : List UInt8
  proof : List UInt8
  publicInputs : List UInt8
  numInputs : Nat

variable (offset : Nat)

def size : Nat := ofLittleEndian (slice input offset 4)

/-- The offset behind the entry that is announced at an offset. -/
def stop : Nat :=
  offset + 12 + (size input offset + size input (offset + 4) + size input (offset + 8) * 32)

def entryAt : Entry where
  vk := slice input (offset + 12) (size input offset)
  proof := slice input (offset + 12 + size input offset) (size input (offset + 4))
  publicInputs := slice input (offset + 12 + size input offset + size input (offset + 4))
    (size input (offset + 8) * 32)
  numInputs := size input (offset + 8)

/-- As many entries from an offset on, all of them complete, with the offset behind the last. -/
def entriesFrom : (count offset : Nat) → Option (List Entry × Nat)
  | 0, offset => some ([], offset)
  | count + 1, offset =>
    if offset + 12 ≤ input.length ∧ stop input offset ≤ input.length then
      (entriesFrom count (stop input offset)).map fun rest =>
        (entryAt input offset :: rest.1, rest.2)
    else none

def gasOf (entries : List Entry) : Nat :=
  BATCH_GROTH16_BASE + entries.length * BATCH_GROTH16_PER_PROOF +
    (entries.map Entry.numInputs).sum * BATCH_GROTH16_PER_PUBLIC_INPUT

variable (verify : List UInt8 → List UInt8 → List UInt8 → Except String Bool)

/-- Every proof of the batch verifies. -/
def AllVerify (entries : List Entry) : Prop :=
  ∀ e ∈ entries, verify e.vk e.proof e.publicInputs = .ok true

/-- A count from 1 to 256 and as many complete entries, which all verify; `last` is behind them. -/
structure Batch (entries : List Entry) (last : Nat) : Prop where
  counted : 4 ≤ input.length
  some' : 1 ≤ size input 0
  few : size input 0 ≤ 256
  parsed : entriesFrom input (size input 0) 4 = some (entries, last)
  verified : AllVerify verify entries

variable (gasLimit : Nat)

/-- The gas estimate looks at no more entries than a batch may have. -/
def Few : Prop :=
  ∀ numProofs total visited, countTotalPublicInputs input = some (numProofs, total, visited) →
    visited ≤ 256

/-- Nothing overflows, output 1 stands for a batch that is the whole input and is charged for, every
such batch has it, and at most 256 entries are visited for the gas. -/
structure Reliable : Prop where
  defined : ∃ outcome, execute input verify gasLimit = some outcome
  sound : ∀ result, execute input verify gasLimit = some (.ok result) →
    result.success = true → result.output = outputOf true →
    ∃ entries, Batch input verify entries input.length ∧ result.gasUsed = gasOf entries
  complete : ∀ entries, Batch input verify entries input.length → gasOf entries ≤ gasLimit →
    execute input verify gasLimit =
      some (.ok { output := outputOf true, gasUsed := gasOf entries })
  few : Few input

/-- At most 256 entries are announced, or the one after these has no header in the input, and nothing
stands behind a batch that can be paid for. -/
structure Plain : Prop where
  few : size input 0 ≤ 256 ∨ input.length < (stop input)^[256] 4 + 12
  whole : ∀ entries last, Batch input verify entries last → gasOf entries ≤ gasLimit →
    last = input.length

end Entries

section Loops

variable {input : List UInt8} {offset : Nat}
  {verify : List UInt8 → List UInt8 → List UInt8 → Except String Bool}

theorem range_eq {start width : Nat} (inside : start + width ≤ input.length) :
    range input start (start + width) = some (slice input start width) := by
  rw [range, if_pos ⟨Nat.le_add_right .., inside⟩, Nat.add_sub_cancel_left]

theorem word_eq (inside : offset + 4 ≤ input.length) : word input offset = some (size input offset) :=
  congrArg (Option.map ofLittleEndian) (range_eq inside)

theorem size_lt (inside : offset + 4 ≤ input.length) : size input offset < 2 ^ 32 := by
  have small := ofLittleEndian_lt (slice input offset 4)
  rwa [length_slice inside] at small

section

variable (inside : offset + 12 ≤ input.length)
include inside

theorem header_eq : header input offset =
    some ⟨size input offset, size input (offset + 4), size input (offset + 8)⟩ := by
  rw [header, word_eq (by omega), word_eq (by omega), word_eq (by omega)]
  rfl

theorem sizeFrom_eq {start : Nat} (small : start ≤ 12) :
    Header.sizeFrom ⟨size input offset, size input (offset + 4), size input (offset + 8)⟩ start =
      some (start + size input offset + size input (offset + 4) +
        size input (offset + 8) * 32) := by
  have key := size_lt (by omega : offset + 4 ≤ input.length)
  have proof := size_lt (by omega : offset + 4 + 4 ≤ input.length)
  have inputs := size_lt (by omega : offset + 8 + 4 ≤ input.length)
  simp only [Header.sizeFrom, bind_eq_bind]
  rw [add_of_lt (by omega), bind_some, add_of_lt (by omega), bind_some,
    mul_of_lt (by omega), bind_some, add_of_lt (by omega)]

theorem stop_lt :
    offset + 12 ≤ stop input offset ∧ stop input offset < input.length + 2 ^ 39 := by
  have key := size_lt (by omega : offset + 4 ≤ input.length)
  have proof := size_lt (by omega : offset + 4 + 4 ≤ input.length)
  have inputs := size_lt (by omega : offset + 8 + 4 ≤ input.length)
  unfold stop
  omega

end

/-- The loop ends, and passes exactly if as many entries are complete and verify. -/
theorem verifyLoop_spec (allocated : input.length < 2 ^ 63) (count i offset : Nat)
    (inside : offset ≤ input.length) :
    ∃ outcome, verifyLoop input verify count i offset = some outcome ∧
      (outcome = .ok true ↔ ∃ entries last, entriesFrom input count offset = some (entries, last) ∧
        AllVerify verify entries) := by
  induction count generalizing i offset with
  | zero => exact ⟨_, rfl, iff_of_true rfl ⟨[], offset, rfl, nofun⟩⟩
  | succ count ih =>
    simp only [verifyLoop, entriesFrom, bind_eq_bind]
    rw [add_of_lt (by omega), bind_some]
    by_cases headed : input.length < offset + 12
    · rw [if_pos headed, if_neg (by omega)]
      exact ⟨_, rfl, iff_of_false nofun (by simp)⟩
    · have inside := Nat.le_of_not_lt headed
      have bound := (stop_lt inside).2
      rw [if_neg headed, header_eq inside, bind_some, sizeFrom_eq inside (Nat.zero_le _),
        bind_some, Nat.zero_add, add_of_lt (by unfold stop at bound; omega),
        bind_some]
      change ∃ outcome, (if input.length < stop input offset then _ else _) = some outcome ∧ _
      by_cases short : input.length < stop input offset
      · rw [if_pos short, if_neg (by omega)]
        exact ⟨_, rfl, iff_of_false nofun (by simp)⟩
      · have whole := Nat.le_of_not_lt short
        have last : offset + 12 + size input offset + size input (offset + 4) +
            size input (offset + 8) * 32 = stop input offset := by
          unfold stop
          omega
        rw [if_neg short, if_pos ⟨inside, whole⟩]
        change ∃ outcome, ((range input _ _).bind fun vk => (range input _ _).bind fun proof =>
          (range input _ (stop input offset)).bind _) = _ ∧ _
        rw [← last] at whole ⊢
        rw [range_eq (by dsimp only; omega), bind_some, range_eq (by dsimp only; omega),
          bind_some, range_eq whole, bind_some]
        rw [last]
        change ∃ outcome, (match verify (entryAt input offset).vk (entryAt input offset).proof
          (entryAt input offset).publicInputs with
            | .ok true => verifyLoop input verify count (i + 1) (stop input offset)
            | _ => some (.ok false)) = some outcome ∧ _
        have refused (failed : verify (entryAt input offset).vk (entryAt input offset).proof
            (entryAt input offset).publicInputs ≠ .ok true) :
            ¬∃ entries end', (entriesFrom input count (stop input offset)).map (fun rest =>
              (entryAt input offset :: rest.1, rest.2)) = some (entries, end') ∧
                AllVerify verify entries := by
          rintro ⟨_, _, parsed, all⟩
          obtain ⟨_, -, ⟨⟩⟩ := map_eq_some_iff.mp parsed
          exact failed (all _ mem_cons_self)
        split
        next judged =>
          obtain ⟨outcome, ended, passes⟩ := ih (i + 1) _ (last ▸ whole)
          refine ⟨outcome, ended, passes.trans ⟨?_, ?_⟩⟩
          · rintro ⟨entries, end', parsed, all⟩
            exact ⟨_, end', by rw [parsed]; rfl, forall_mem_cons.mpr ⟨judged, all⟩⟩
          · rintro ⟨_, _, parsed, all⟩
            obtain ⟨⟨entries, end'⟩, others, ⟨⟩⟩ := map_eq_some_iff.mp parsed
            exact ⟨entries, end', others, (forall_mem_cons.mp all).2⟩
        next judged => exact ⟨_, rfl, iff_of_false nofun (refused judged)⟩

theorem le_iterate_stop (input : List UInt8) (k offset : Nat) :
    offset ≤ (stop input)^[k] offset := by
  induction k generalizing offset with
  | zero => exact Nat.le_refl offset
  | succ k ih =>
    rw [Function.iterate_succ_apply]
    exact Nat.le_trans (Nat.le_add_right_of_le (Nat.le_add_right offset 12)) (ih _)

section

variable (allocated : input.length < 2 ^ 63)
include allocated

theorem countLoop_succ (count : Nat) {total : Nat}
    (visited : Nat) (inside : offset + 12 ≤ input.length) (fits : total + 2 ^ 32 ≤ 2 ^ 64) :
    countLoop input (count + 1) offset total visited = countLoop input count (stop input offset)
      (total + size input (offset + 8)) (visited + 1) := by
  have bound := (stop_lt inside).2
  have more := size_lt (by omega : offset + 8 + 4 ≤ input.length)
  have next : stop input offset = offset + (12 + size input offset + size input (offset + 4) +
      size input (offset + 8) * 32) := by
    unfold stop
    omega
  simp only [countLoop, bind_eq_bind]
  rw [add_of_lt (by omega), bind_some, if_neg (by omega), header_eq inside,
    bind_some, add_of_lt (by dsimp only; omega), bind_some,
    sizeFrom_eq inside (Nat.le_refl 12), bind_some, add_of_lt (by omega),
    bind_some, ← next]

/-- The loop counts less than `2 ^ 32` inputs in each entry it visits, and visits more than `k` of
them where more are announced and have a header. -/
theorem countLoop_spec (count offset total visited : Nat)
    (near : offset < 2 ^ 63 + 2 ^ 40) (fits : total + count * 2 ^ 32 ≤ 2 ^ 64) :
    ∃ total' visited', countLoop input count offset total visited = some (total', visited') ∧
      visited ≤ visited' ∧ total' + visited * 2 ^ 32 ≤ total + visited' * 2 ^ 32 ∧
      ∀ k, visited' ≤ visited + k ↔ count ≤ k ∨ input.length < (stop input)^[k] offset + 12 := by
  induction count generalizing offset total visited with
  | zero =>
    exact ⟨total, visited, rfl, Nat.le_refl _, Nat.le_refl _, fun k =>
      iff_of_true (Nat.le_add_right ..) (.inl (Nat.zero_le k))⟩
  | succ count ih =>
    by_cases headed : input.length < offset + 12
    · have ends : countLoop input (count + 1) offset total visited = some (total, visited) := by
        simp only [countLoop, bind_eq_bind]
        rw [add_of_lt (by omega), bind_some, if_pos headed]
      refine ⟨total, visited, ends, Nat.le_refl _, Nat.le_refl _, fun k =>
        iff_of_true (Nat.le_add_right ..) (.inr ?_)⟩
      have grown := le_iterate_stop input k offset
      omega
    · have inside := Nat.le_of_not_lt headed
      have more := size_lt (by omega : offset + 8 + 4 ≤ input.length)
      have bound := (stop_lt inside).2
      obtain ⟨total', visited', counted, later, most, visits⟩ := ih (stop input offset)
        (total + size input (offset + 8)) (visited + 1) (by omega) (by omega)
      refine ⟨total', visited', (countLoop_succ allocated count visited inside (by omega)).trans
        counted, Nat.le_of_succ_le later, ?_, fun k => ?_⟩
      · rw [Nat.add_mul, Nat.one_mul] at most
        generalize 2 ^ 32 = limit at more most ⊢
        omega
      · cases k with
        | zero => exact iff_of_false (Nat.not_le.mpr later) (not_or.mpr ⟨nofun, headed⟩)
        | succ k =>
          rw [Function.iterate_succ_apply, Nat.add_le_add_iff_right, ← visits k, Nat.add_right_comm,
            ← Nat.add_assoc]

/-- Complete entries are all visited, and their inputs counted. -/
theorem countLoop_of_parsed {count last : Nat}
    {entries : List Entry} (parsed : entriesFrom input count offset = some (entries, last))
    (total visited : Nat) (fits : total + count * 2 ^ 32 ≤ 2 ^ 64) :
    countLoop input count offset total visited =
        some (total + (entries.map Entry.numInputs).sum, visited + count) ∧
      entries.length = count := by
  induction count generalizing offset total visited entries with
  | zero =>
    cases parsed
    exact ⟨rfl, rfl⟩
  | succ count ih =>
    unfold entriesFrom at parsed
    split at parsed
    next both =>
      obtain ⟨inside, -⟩ := both
      obtain ⟨⟨entries, last⟩, others, ⟨⟩⟩ := map_eq_some_iff.mp parsed
      have more := size_lt (by omega : offset + 8 + 4 ≤ input.length)
      obtain ⟨counted, many⟩ := ih others (total + size input (offset + 8)) (visited + 1) (by omega)
      rw [countLoop_succ allocated count visited inside (by omega)]
      refine ⟨counted.trans (congrArg some (Prod.ext ?_ ?_)), by rw [length_cons, many]⟩
      · simp only [map_cons, sum_cons, entryAt, Nat.add_assoc]
      · dsimp only
        omega
    · cases parsed

/-- What is counted, and that few entries leave no room for an overflow of the gas. -/
theorem countTotal_eq (counted : 4 ≤ input.length) :
    ∃ total visited, countTotalPublicInputs input = some (size input 0, total, visited) ∧
      countLoop input (size input 0) 4 0 0 = some (total, visited) ∧
      (visited ≤ 256 ↔ size input 0 ≤ 256 ∨ input.length < (stop input)^[256] 4 + 12) ∧
      (visited ≤ 256 → gasCost input = some (if size input 0 = 0 then BATCH_GROTH16_BASE
        else BATCH_GROTH16_BASE + size input 0 * BATCH_GROTH16_PER_PROOF +
          total * BATCH_GROTH16_PER_PUBLIC_INPUT)) := by
  have small := size_lt (by omega : 0 + 4 ≤ input.length)
  obtain ⟨total, visited, loop, -, bound, visits⟩ := countLoop_spec allocated (size input 0) 4 0 0
    (by omega) (by omega)
  have total_eq : countTotalPublicInputs input = some (size input 0, total, visited) := by
    rw [countTotalPublicInputs, if_neg (by omega), word_eq (by omega), bind_eq_bind,
      bind_some, loop]
    rfl
  refine ⟨total, visited, total_eq, loop, Nat.zero_add 256 ▸ visits 256, fun few => ?_⟩
  have most : total ≤ 256 * 2 ^ 32 := by omega
  unfold gasCost
  rw [total_eq, bind_eq_bind, bind_some]
  dsimp only
  unfold BATCH_GROTH16_BASE BATCH_GROTH16_PER_PROOF BATCH_GROTH16_PER_PUBLIC_INPUT
  split
  · rfl
  · simp only [bind_eq_bind]
    rw [mul_of_lt (by omega), bind_some, add_of_lt (by omega), bind_some,
      mul_of_lt (by omega), bind_some, add_of_lt (by omega)]

theorem few_iff :
    Few input ↔ size input 0 ≤ 256 ∨ input.length < (stop input)^[256] 4 + 12 := by
  by_cases short : input.length < 4
  · have none : countTotalPublicInputs input = some (0, 0, 0) := if_pos short
    have far := le_iterate_stop input 256 4
    refine iff_of_true (fun _ _ _ counted => ?_) (.inr (by omega))
    cases none.symm.trans counted
    exact Nat.zero_le _
  · obtain ⟨total, visited, counted, -, visits, -⟩ :=
      countTotal_eq allocated (Nat.le_of_not_lt short)
    rw [← visits]
    refine ⟨fun few => few _ _ _ counted, fun few _ _ _ counted' => ?_⟩
    cases counted.symm.trans counted'
    exact few

end

variable {gasLimit last : Nat} {entries : List Entry}

section

variable (batch : Batch input verify entries last) (allocated : input.length < 2 ^ 63)
include batch allocated

theorem Batch.gasCost_eq : gasCost input = some (gasOf entries) := by
  have some' := batch.some'
  have few := batch.few
  obtain ⟨total, visited, -, loop, -, cost⟩ := countTotal_eq allocated batch.counted
  obtain ⟨counted, many⟩ := countLoop_of_parsed allocated batch.parsed 0 0 (by omega)
  cases some.inj (loop.symm.trans counted)
  rw [cost (by omega), if_neg (by omega), gasOf, many, Nat.zero_add]

/-- What is behind a batch does not keep it from being accepted. -/
theorem Batch.execute_eq (paid : gasOf entries ≤ gasLimit) :
    execute input verify gasLimit =
      some (.ok { output := outputOf true, gasUsed := gasOf entries }) := by
  have some' := batch.some'
  have few := batch.few
  obtain ⟨outcome, ended, passes⟩ := verifyLoop_spec allocated (size input 0) 0 4
    batch.counted
  rw [passes.mpr ⟨entries, last, batch.parsed, batch.verified⟩] at ended
  unfold execute
  rw [batch.gasCost_eq allocated, bind_eq_bind, bind_some, if_neg (by omega),
    if_neg (Nat.not_lt.mpr batch.counted), word_eq batch.counted, bind_some,
    if_neg (by omega), if_neg (by omega), ended]
  rfl

end

/-- A batch that is accepted is one, with its gas within the limit. -/
theorem batch_of_execute (allocated : input.length < 2 ^ 63) {result : ExecutionResult}
    (ran : execute input verify gasLimit = some (.ok result))
    (one : result.output = outputOf true) :
    ∃ entries last, Batch input verify entries last ∧ gasOf entries ≤ gasLimit ∧
      result.gasUsed = gasOf entries := by
  unfold execute at ran
  obtain ⟨gas, cost, ran⟩ := bind_eq_some_iff.mp ran
  split at ran
  · cases some.inj ran
  next paid =>
  split at ran
  · cases some.inj ran
  next long =>
  rw [word_eq (by omega), bind_eq_bind, bind_some] at ran
  split at ran
  · cases some.inj ran
  next some' =>
  split at ran
  · cases some.inj ran
  next few =>
  obtain ⟨outcome, ended, passes⟩ := verifyLoop_spec allocated (size input 0) 0 4
    (by omega)
  rw [ended] at ran
  obtain ⟨valid, rfl, rfl⟩ := Except.map_eq_ok.mp (some.inj ran)
  cases valid with
  | false => exact absurd one (by change outputOf false ≠ _; decide)
  | true =>
    obtain ⟨entries, last, parsed, verified⟩ := passes.mp rfl
    have batch : Batch input verify entries last :=
      ⟨by omega, by omega, by omega, parsed, verified⟩
    cases some.inj (cost.symm.trans (batch.gasCost_eq allocated))
    exact ⟨entries, last, batch, by omega, rfl⟩

end Loops

/-- The precompile is reliable on an input exactly if it announces few entries or has few
headers, and nothing stands behind a batch it accepts. -/
theorem reliable_iff (input : List UInt8) (allocated : input.length < 2 ^ 63)
    (verify : List UInt8 → List UInt8 → List UInt8 → Except String Bool) (gasLimit : Nat) :
    Reliable input verify gasLimit ↔ Plain input verify gasLimit := by
  constructor
  · intro reliable
    refine ⟨(few_iff allocated).mp reliable.few, fun entries last batch paid => ?_⟩
    obtain ⟨others, whole, -⟩ := reliable.sound _ (batch.execute_eq allocated paid) rfl rfl
    cases some.inj (batch.parsed.symm.trans whole.parsed)
    rfl
  · intro plain
    refine ⟨?_, fun result ran _ one => ?_, fun entries batch => batch.execute_eq allocated,
      (few_iff allocated).mpr plain.few⟩
    · by_cases short : input.length < 4
      · have cost : gasCost input = some BATCH_GROTH16_BASE := by
          rw [gasCost, countTotalPublicInputs, if_pos short]
          rfl
        rw [execute, cost, bind_eq_bind, bind_some, if_pos short]
        split <;> exact ⟨_, rfl⟩
      · have long := Nat.le_of_not_lt short
        obtain ⟨total, visited, -, -, visits, cost⟩ := countTotal_eq allocated long
        obtain ⟨outcome, ended, -⟩ :=
          verifyLoop_spec allocated (size input 0) 0 4 long
        rw [execute, cost (visits.mpr plain.few), bind_eq_bind, bind_some,
          if_neg short, word_eq long, bind_some, ended]
        generalize (if size input 0 = 0 then BATCH_GROTH16_BASE else _) = gas
        split
        · exact ⟨_, rfl⟩
        split
        · exact ⟨_, rfl⟩
        split
        · exact ⟨_, rfl⟩
        · exact ⟨_, rfl⟩
    · obtain ⟨entries, last, batch, paid, gas⟩ := batch_of_execute allocated ran one
      exact ⟨entries, plain.whole entries last batch paid ▸ batch, gas⟩

/-- A batch of one proof with nothing behind it, and gas for it. -/
theorem reliable_single :
    execute (1 :: replicate 15 0) (fun _ _ _ => .ok true) 180000 =
        some (.ok { output := outputOf true, gasUsed := 180000 }) ∧
      Reliable (1 :: replicate 15 0) (fun _ _ _ => .ok true) 180000 := by
  refine ⟨by decide +kernel, (reliable_iff _ (by decide) _ _).mpr
    ⟨.inl (by decide +kernel), fun entries last batch _ => ?_⟩⟩
  have stops : (entriesFrom (1 :: replicate 15 0) 1 4).map Prod.snd = some last :=
    congrArg (Option.map Prod.snd) batch.parsed
  refine some.inj (stops.symm.trans ?_)
  decide +kernel

/-- A batch of one proof, with one byte behind it. -/
theorem extra_byte_accepted :
    ¬Reliable (1 :: replicate 16 0) (fun _ _ _ => .ok true) 180000 := by
  intro reliable
  obtain ⟨entries, batch, -⟩ := reliable.sound { output := outputOf true, gasUsed := 180000 }
    (by decide +kernel) rfl rfl
  have last : (entriesFrom (1 :: replicate 16 0) 1 4).map Prod.snd = some 17 :=
    congrArg (Option.map Prod.snd) batch.parsed
  revert last
  decide +kernel

end Vm.BatchGroth16
