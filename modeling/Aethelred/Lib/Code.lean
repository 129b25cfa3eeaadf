import Aethelred.Lib.Bytes

/- Encodings that are written one after the other: when the words of two values can be told
apart whatever is written behind them. -/
namespace Code

open Bytes List Option

variable {α σ : Type}

/-- The words `word` of `value` and `word'` of `value'` separate: if strings that begin with
them are equal, the values are equal and so is what comes behind. -/
def Separates (value value' : α) (word word' : List σ) : Prop :=
  ∀ rest rest', word ++ rest = word' ++ rest' → value = value' ∧ rest = rest'

variable {word word' : List σ}

theorem Separates.of_length {value value' : α} (lengths : word.length = word'.length)
    (determined : word = word' → value = value') : Separates value value' word word' := by
  intro rest rest' same
  obtain ⟨words, behind⟩ := append_inj same lengths
  exact ⟨determined words, behind⟩

theorem separates_singleton {encode : α → σ} (injective : Function.Injective encode)
    (value value' : α) : Separates value value' [encode value] [encode value'] :=
  .of_length rfl fun same => injective (singleton_inj.mp same)

theorem separates_self (lengths : word.length = word'.length) : Separates word word' word word' :=
  .of_length lengths id

theorem separates_ofFn {width : Nat} (array array' : Fin width → σ) :
    Separates array array' (ofFn array) (ofFn array') :=
  .of_length (by rw [length_ofFn, length_ofFn]) fun same => ofFn_injective same

section

variable {width number number' : Nat} (first : number < 256 ^ width)
  (second : number' < 256 ^ width)
include first second

theorem separates_littleEndian :
    Separates number number' (littleEndian width number)
      (littleEndian width number') :=
  .of_length (by rw [length_littleEndian, length_littleEndian])
    (littleEndian_inj first second)

theorem separates_bigEndian :
    Separates number number' (bigEndian width number) (bigEndian width number') :=
  .of_length (by rw [length_bigEndian, length_bigEndian])
    (bigEndian_inj first second)

end

/-- Two counts that are written in `width` bytes and are equal or written differently. -/
def Distinguished (width count count' : Nat) : Prop :=
  count % 256 ^ width = count' % 256 ^ width → count = count'

instance (width count count' : Nat) : Decidable (Distinguished width count count') :=
  inferInstanceAs (Decidable (_ → _))

variable {width count count' : Nat}

theorem Distinguished.of_lt (first : count < 256 ^ width)
    (second : count' < 256 ^ width) : Distinguished width count count' := by
  intro same
  rwa [Nat.mod_eq_of_lt first, Nat.mod_eq_of_lt second] at same

theorem mod_width_lt (width number : Nat) : number % 256 ^ width < 256 ^ width :=
  Nat.mod_lt _ (Nat.pow_pos (by decide))

theorem Distinguished.separates (apart : Distinguished width count count') :
    Separates count count' (littleEndian width (count % 256 ^ width))
      (littleEndian width (count' % 256 ^ width)) := by
  intro rest rest' same
  obtain ⟨counts, behind⟩ :=
    separates_littleEndian (mod_width_lt width count) (mod_width_lt width count') _ _ same
  exact ⟨apart counts, behind⟩

theorem Distinguished.separates_bigEndian (apart : Distinguished width count count') :
    Separates count count' (bigEndian width (count % 256 ^ width))
      (bigEndian width (count' % 256 ^ width)) := by
  intro rest rest' same
  obtain ⟨counts, behind⟩ :=
    Code.separates_bigEndian (mod_width_lt width count) (mod_width_lt width count') _ _ same
  exact ⟨apart counts, behind⟩

theorem Separates.before_word {word word' length length' : List σ}
    (lengths : Separates word.length word'.length length length') :
    Separates word word' (length ++ word) (length' ++ word') := by
  intro rest rest' same
  rw [append_assoc, append_assoc] at same
  obtain ⟨equal, behind⟩ := lengths _ _ same
  exact separates_self equal _ _ behind

theorem separates_prefixed {width : Nat} {word word' : List UInt8}
    (apart : Distinguished width word.length word'.length) :
    Separates word word' (littleEndian width (word.length % 256 ^ width) ++ word)
      (littleEndian width (word'.length % 256 ^ width) ++ word') :=
  apart.separates.before_word

/-- The words of a list one behind the other, where some values have none. -/
def concatM (encode : α → Option (List σ)) : List α → Option (List σ)
  | [] => some []
  | value :: values => do
      let word ← encode value
      let words ← concatM encode values
      some (word ++ words)

theorem concatM_some (encode : α → List σ) (values : List α) :
    concatM (fun value => some (encode value)) values = some (values.flatMap encode) := by
  induction values with
  | nil => rfl
  | cons value values ih => simp [concatM, ih]

variable {values values' : List α}

/-- A list of separated parts of known number is separated. -/
theorem separates_concatM {encode : α → Option (List σ)} (lengths : values.length = values'.length)
    (first : concatM encode values = some word) (second : concatM encode values' = some word')
    (each : ∀ pair ∈ values.zip values', ∀ part part', encode pair.1 = some part →
      encode pair.2 = some part' → Separates pair.1 pair.2 part part') :
    Separates values values' word word' := by
  induction values generalizing values' word word' with
  | nil =>
    obtain rfl := length_eq_zero_iff.mp lengths.symm
    obtain rfl : word = word' := some.inj (first.symm.trans second)
    intro rest rest' same
    exact ⟨rfl, append_cancel_left same⟩
  | cons value values ih =>
    cases values' with
    | nil => contradiction
    | cons value' values' =>
      simp only [concatM, bind_eq_bind, bind_eq_some_iff,
        some.injEq] at first second
      obtain ⟨part, encoded, tail, tailEncoded, rfl⟩ := first
      obtain ⟨part', encoded', tail', tailEncoded', rfl⟩ := second
      intro rest rest' same
      rw [append_assoc, append_assoc] at same
      obtain ⟨heads, behind⟩ := each (value, value') mem_cons_self part part' encoded
        encoded' _ _ same
      obtain ⟨tails, after⟩ := ih (Nat.succ.inj lengths) tailEncoded tailEncoded'
        (fun pair member => each pair (mem_cons_of_mem _ member)) _ _ behind
      exact ⟨cons_eq_cons.mpr ⟨heads, tails⟩, after⟩

theorem separates_flatMap {encode : α → List σ} (lengths : values.length = values'.length)
    (each : ∀ pair ∈ values.zip values',
      Separates pair.1 pair.2 (encode pair.1) (encode pair.2)) :
    Separates values values' (values.flatMap encode) (values'.flatMap encode) := by
  apply separates_concatM lengths (concatM_some encode values) (concatM_some encode values')
  intro pair member part part' encoded encoded'
  obtain rfl := some.inj encoded
  obtain rfl := some.inj encoded'
  exact each pair member

/-- Words that nothing follows need no count, if none of them is empty. -/
theorem flatMap_last {encode : α → List σ} (nonempty : ∀ value, encode value ≠ [])
    (each : ∀ value ∈ values, ∀ value' ∈ values',
      Separates value value' (encode value) (encode value'))
    (same : values.flatMap encode = values'.flatMap encode) : values = values' := by
  induction values generalizing values' with
  | nil =>
    cases values' with
    | nil => rfl
    | cons value' values' =>
      rw [flatMap_nil, flatMap_cons] at same
      exact absurd (append_eq_nil_iff.mp same.symm).1 (nonempty value')
  | cons value values ih =>
    cases values' with
    | nil =>
      rw [flatMap_nil, flatMap_cons] at same
      exact absurd (append_eq_nil_iff.mp same).1 (nonempty value)
    | cons value' values' =>
      rw [flatMap_cons, flatMap_cons] at same
      obtain ⟨heads, behind⟩ :=
        each value mem_cons_self value' mem_cons_self _ _ same
      have tails := ih (fun value member value' member' =>
        each value (mem_cons_of_mem _ member) value'
          (mem_cons_of_mem _ member')) behind
      rw [heads, tails]

def flagged (encode : α → List UInt8) : Option α → List UInt8
  | none => [0]
  | some value => 1 :: encode value

theorem separates_flagged {encode : α → List UInt8} {value value' : Option α}
    (each : ∀ inner ∈ value, ∀ inner' ∈ value',
      Separates inner inner' (encode inner) (encode inner')) :
    Separates value value' (flagged encode value) (flagged encode value') := by
  intro rest rest' same
  cases value with
  | none =>
    cases value' with
    | none => exact ⟨rfl, append_cancel_left same⟩
    | some inner' => cases head_eq_of_cons_eq same
  | some inner =>
    cases value' with
    | none => cases head_eq_of_cons_eq same
    | some inner' =>
      obtain ⟨rfl, behind⟩ := each inner rfl inner' rfl _ _ (cons.inj same).2
      exact ⟨rfl, behind⟩

theorem flagged_last {encode : α → List UInt8} (injective : Function.Injective encode)
    {value value' : Option α} (same : flagged encode value = flagged encode value') :
    value = value' := by
  cases value with
  | none =>
    cases value' with
    | none => rfl
    | some inner' => cases head_eq_of_cons_eq same
  | some inner =>
    cases value' with
    | none => cases head_eq_of_cons_eq same
    | some inner' => exact congrArg some (injective (cons.inj same).2)

end Code
