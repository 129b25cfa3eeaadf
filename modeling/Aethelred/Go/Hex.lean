import Mathlib.Data.UInt

abbrev Go.Bytes := List UInt8

/- Lower-case hexadecimal text, two digits a byte, high half first. -/
namespace Go.Hex

open Option

def digit (value : Nat) : Char :=
  if value < 10 then Char.ofNat (48 + value) else Char.ofNat (87 + value)

def value (c : Char) : Option Nat :=
  if '0' ≤ c ∧ c ≤ '9' then some (c.toNat - 48)
  else if 'a' ≤ c ∧ c ≤ 'f' then some (c.toNat - 87)
  else if 'A' ≤ c ∧ c ≤ 'F' then some (c.toNat - 55)
  else none

theorem value_digit {n : Nat} (small : n < 16) : value (digit n) = some n := by
  have every : ∀ m : Fin 16, value (digit m) = some m.val := by decide
  exact every ⟨n, small⟩

def encodeChars : Bytes → List Char
  | [] => []
  | byte :: rest => digit (byte.toNat / 16) :: digit (byte.toNat % 16) :: encodeChars rest

variable (bytes : Bytes)

def encodeToString : String := String.ofList (encodeChars bytes)

def decodeChars : List Char → Option Bytes
  | [] => some []
  | high :: low :: rest => do
      let upper ← value high
      let lower ← value low
      let tail ← decodeChars rest
      return UInt8.ofNat (16 * upper + lower) :: tail
  | [_] => none

def decodeString (text : String) : Option Bytes := decodeChars text.toList

/-- The bytes `hex.DecodeString` returns also with an error: those before the first pair that is not
two digits. -/
def decodePairs : List Char → Bytes
  | high :: low :: rest =>
    match value high, value low with
    | some upper, some lower => UInt8.ofNat (16 * upper + lower) :: decodePairs rest
    | _, _ => []
  | _ => []

/-- `hex.DecodeString` with the error discarded. -/
def decodePrefix (text : String) : Bytes := decodePairs text.toList

theorem decodePairs_of_decodeChars {chars : List Char} {bytes : Bytes}
    (decoded : decodeChars chars = some bytes) : decodePairs chars = bytes := by
  fun_induction decodePairs chars generalizing bytes with
  | case1 high low rest upper lower first second ih =>
    simp only [decodeChars, first, second, bind_eq_bind, bind_some,
      pure_def] at decoded
    obtain ⟨tail, later, whole⟩ := bind_eq_some_iff.mp decoded
    cases whole
    rw [ih later]
  | case2 high low rest bad =>
    simp only [decodeChars, bind_eq_bind] at decoded
    obtain ⟨upper, first, decoded⟩ := bind_eq_some_iff.mp decoded
    obtain ⟨lower, second, _⟩ := bind_eq_some_iff.mp decoded
    exact absurd second (bad upper lower first)
  | case3 chars short =>
    unfold decodeChars at decoded
    split at decoded
    · cases decoded
      rfl
    · exact absurd rfl (short _ _ _)
    · cases decoded

theorem decodePrefix_of_decodeString {text : String} {bytes : Bytes}
    (decoded : decodeString text = some bytes) : decodePrefix text = bytes :=
  decodePairs_of_decodeChars decoded

theorem decodeChars_encodeChars : decodeChars (encodeChars bytes) = some bytes := by
  induction bytes with
  | nil => rfl
  | cons byte rest ih =>
    have bound : byte.toNat < 256 := byte.toNat_lt
    have whole : 16 * (byte.toNat / 16) + byte.toNat % 16 = byte.toNat := by omega
    simp only [encodeChars, decodeChars, value_digit (show byte.toNat / 16 < 16 by omega),
      value_digit (show byte.toNat % 16 < 16 by omega), ih, whole, UInt8.ofNat_toNat,
      bind_eq_bind, bind_some, pure_def]

@[simp] theorem decodeString_encodeToString : decodeString (encodeToString bytes) = some bytes := by
  rw [decodeString, encodeToString, String.toList_ofList, decodeChars_encodeChars]

theorem encodeToString_injective : Function.Injective encodeToString := by
  intro left right same
  have decoded := congrArg decodeString same
  simpa only [decodeString_encodeToString, some.injEq] using decoded

@[simp] theorem encodeToString_inj {left right : Bytes} :
    encodeToString left = encodeToString right ↔ left = right :=
  encodeToString_injective.eq_iff

theorem length_encodeChars : (encodeChars bytes).length = 2 * bytes.length := by
  induction bytes with
  | nil => rfl
  | cons byte rest ih =>
    simp only [encodeChars, List.length_cons, ih]
    omega

@[simp] theorem length_encodeToString : (encodeToString bytes).length = 2 * bytes.length := by
  rw [encodeToString, String.length_ofList, length_encodeChars]

end Go.Hex

/- Standard base64 with padding, as the JSON form of a byte string. The reader skips
line breaks and ignores the unused low bits of the last digit. -/
namespace Go.Base64

def digit (n : Nat) : Char :=
  if n < 26 then Char.ofNat (65 + n)
  else if n < 52 then Char.ofNat (71 + n)
  else if n < 62 then Char.ofNat (n - 4)
  else if n = 62 then '+' else '/'

def value (c : Char) : Option Nat :=
  if 'A' ≤ c ∧ c ≤ 'Z' then some (c.toNat - 65)
  else if 'a' ≤ c ∧ c ≤ 'z' then some (c.toNat - 71)
  else if '0' ≤ c ∧ c ≤ '9' then some (c.toNat + 4)
  else if c = '+' then some 62
  else if c = '/' then some 63
  else none

theorem digit_facts {n : Nat} (small : n < 64) :
    value (digit n) = some n ∧ digit n ≠ '=' ∧ digit n ≠ '\r' ∧ digit n ≠ '\n' := by
  have every : ∀ m : Fin 64, value (digit m) = some m.val ∧ digit m ≠ '=' ∧
      digit m ≠ '\r' ∧ digit m ≠ '\n' := by decide
  exact every ⟨n, small⟩

def encodeChars : Bytes → List Char
  | [] => []
  | [a] => [digit (a.toNat / 4), digit (a.toNat % 4 * 16), '=', '=']
  | [a, b] => [digit (a.toNat / 4), digit (a.toNat % 4 * 16 + b.toNat / 16),
      digit (b.toNat % 16 * 4), '=']
  | a :: b :: c :: rest =>
    digit (a.toNat / 4) :: digit (a.toNat % 4 * 16 + b.toNat / 16) ::
      digit (b.toNat % 16 * 4 + c.toNat / 64) :: digit (c.toNat % 64) :: encodeChars rest

/-- The bytes of two digits, of three, and of four. -/
def first (w x : Nat) : UInt8 := UInt8.ofNat (w * 4 + x / 16)
def second (x y : Nat) : UInt8 := UInt8.ofNat (x % 16 * 16 + y / 4)
def third (y z : Nat) : UInt8 := UInt8.ofNat (y % 4 * 64 + z)

def decodeChars : List Char → Option Bytes
  | [] => some []
  | w :: x :: y :: z :: rest =>
    if y = '=' then
      if z = '=' ∧ rest = [] then do
        let w ← value w
        let x ← value x
        return [first w x]
      else none
    else if z = '=' then
      if rest = [] then do
        let w ← value w
        let x ← value x
        let y ← value y
        return [first w x, second x y]
      else none
    else do
      let w ← value w
      let x ← value x
      let y ← value y
      let z ← value z
      let tail ← decodeChars rest
      return first w x :: second x y :: third y z :: tail
  | _ => none

variable (bytes : Bytes)

/-- `base64.StdEncoding.EncodeToString`. -/
def encodeToString : String := String.ofList (encodeChars bytes)

/-- `base64.StdEncoding.DecodeString`. -/
def decodeString (text : String) : Option Bytes :=
  decodeChars (text.toList.filter fun c => c ≠ '\r' ∧ c ≠ '\n')

private theorem first_digits (a b : Nat) (hb : b < 256) :
    first (a / 4) (a % 4 * 16 + b / 16) = UInt8.ofNat a := by
  unfold first
  congr 1
  omega

private theorem second_digits (a b c : Nat) (hb : b < 256) (hc : c < 256) :
    second (a % 4 * 16 + b / 16) (b % 16 * 4 + c / 64) = UInt8.ofNat b := by
  unfold second
  congr 1
  omega

private theorem third_digits (b c : Nat) (hc : c < 256) :
    third (b % 16 * 4 + c / 64) (c % 64) = UInt8.ofNat c := by
  unfold third
  congr 1
  omega

/-- Digits are read back, and none is a line break. -/
theorem encodeChars_spec : decodeChars (encodeChars bytes) = some bytes ∧
    ∀ c ∈ encodeChars bytes, c ≠ '\r' ∧ c ≠ '\n' := by
  have padding : '=' ≠ '\r' ∧ '=' ≠ '\n' := by decide
  induction bytes using encodeChars.induct with
  | case1 => exact ⟨rfl, nofun⟩
  | case2 a =>
    have ha : a.toNat < 256 := a.toNat_lt
    have w := digit_facts (show a.toNat / 4 < 64 by omega)
    have x := digit_facts (show a.toNat % 4 * 16 < 64 by omega)
    have byte := first_digits a.toNat 0 (by omega)
    simp only [Nat.zero_div, Nat.add_zero, UInt8.ofNat_toNat] at byte
    refine ⟨by simp [encodeChars, decodeChars, w.1, x.1, byte], ?_⟩
    simp only [encodeChars, List.mem_cons, List.not_mem_nil, or_false]
    rintro c (rfl | rfl | rfl | rfl)
    exacts [w.2.2, x.2.2, padding, padding]
  | case3 a b =>
    have ha : a.toNat < 256 := a.toNat_lt
    have hb : b.toNat < 256 := b.toNat_lt
    have w := digit_facts (show a.toNat / 4 < 64 by omega)
    have x := digit_facts (show a.toNat % 4 * 16 + b.toNat / 16 < 64 by omega)
    have y := digit_facts (show b.toNat % 16 * 4 < 64 by omega)
    have byte := first_digits a.toNat b.toNat hb
    have next := second_digits a.toNat b.toNat 0 hb (by omega)
    simp only [Nat.zero_div, Nat.add_zero, UInt8.ofNat_toNat] at byte next
    refine ⟨by simp [encodeChars, decodeChars, w.1, x.1, y.1, y.2.1, byte, next], ?_⟩
    simp only [encodeChars, List.mem_cons, List.not_mem_nil, or_false]
    rintro c (rfl | rfl | rfl | rfl)
    exacts [w.2.2, x.2.2, y.2.2, padding]
  | case4 a b c rest ih =>
    have ha : a.toNat < 256 := a.toNat_lt
    have hb : b.toNat < 256 := b.toNat_lt
    have hc : c.toNat < 256 := c.toNat_lt
    have w := digit_facts (show a.toNat / 4 < 64 by omega)
    have x := digit_facts (show a.toNat % 4 * 16 + b.toNat / 16 < 64 by omega)
    have y := digit_facts (show b.toNat % 16 * 4 + c.toNat / 64 < 64 by omega)
    have z := digit_facts (show c.toNat % 64 < 64 by omega)
    have byte := first_digits a.toNat b.toNat hb
    have next := second_digits a.toNat b.toNat c.toNat hb hc
    have last := third_digits b.toNat c.toNat hc
    simp only [UInt8.ofNat_toNat] at byte next last
    refine ⟨by simp [encodeChars, decodeChars, w.1, x.1, y.1, y.2.1, z.1, z.2.1, byte, next, last,
      ih.1], ?_⟩
    simp only [encodeChars, List.mem_cons]
    rintro d (rfl | rfl | rfl | rfl | member)
    exacts [w.2.2, x.2.2, y.2.2, z.2.2, ih.2 d member]

@[simp] theorem decodeString_encodeToString : decodeString (encodeToString bytes) = some bytes := by
  have kept : (encodeChars bytes).filter (fun c => c ≠ '\r' ∧ c ≠ '\n') = encodeChars bytes := by
    apply List.filter_eq_self.mpr
    intro c member
    simpa using (encodeChars_spec bytes).2 c member
  rw [decodeString, encodeToString, String.toList_ofList, kept, (encodeChars_spec bytes).1]

end Go.Base64
