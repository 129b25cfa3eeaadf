import Aethelred.Lib.Result

/- Numbers as byte strings, highest byte first, and arrays of bytes that are combined byte by
byte. -/
namespace Bytes

open List Nat

/-- The bytes of a number, lowest first. -/
def littleEndian : (width number : Nat) → List UInt8
  | 0, _ => []
  | width + 1, number => UInt8.ofNat (number % 256) :: littleEndian width (number / 256)

variable (width number : Nat)

/-- The bytes of a number, highest first. -/
def bigEndian : List UInt8 := (littleEndian width number).reverse

@[simp] theorem length_littleEndian : (littleEndian width number).length = width := by
  induction width generalizing number with
  | zero => rfl
  | succ width ih => simp only [littleEndian, length_cons, ih]

@[simp] theorem length_bigEndian : (bigEndian width number).length = width := by
  rw [bigEndian, length_reverse, length_littleEndian]

theorem littleEndian_zero (width : Nat) : littleEndian width 0 = replicate width 0 := by
  induction width with
  | zero => rfl
  | succ width ih => rw [littleEndian, replicate_succ, Nat.zero_div, ih]; rfl

variable {width number : Nat}

theorem littleEndian_add (fits : number < 256 ^ width) (more : Nat) :
    littleEndian (width + more) number = littleEndian width number ++ replicate more 0 := by
  induction width generalizing number with
  | zero =>
    obtain rfl : number = 0 := lt_one_iff.mp fits
    rw [zero_add, littleEndian_zero]
    rfl
  | succ width ih =>
    have rest : number / 256 < 256 ^ width := by
      rw [pow_succ] at fits
      exact Nat.div_lt_of_lt_mul (by omega)
    rw [succ_add, littleEndian, littleEndian, ih rest, cons_append]

theorem bigEndian_add (fits : number < 256 ^ width) (more : Nat) :
    bigEndian (width + more) number = replicate more 0 ++ bigEndian width number := by
  rw [bigEndian, littleEndian_add fits, reverse_append, reverse_replicate, bigEndian]

section

variable {width a b : Nat} (first : a < 256 ^ width) (second : b < 256 ^ width)
include first second

theorem littleEndian_inj
    (same : littleEndian width a = littleEndian width b) : a = b := by
  induction width generalizing a b with
  | zero =>
    have zeros : a < 1 ∧ b < 1 := ⟨first, second⟩
    omega
  | succ width ih =>
    rw [pow_succ] at first second
    obtain ⟨low, high⟩ := cons.inj same
    have rest := ih (Nat.div_lt_of_lt_mul (by omega)) (Nat.div_lt_of_lt_mul (by omega)) high
    have digit := congrArg UInt8.toNat low
    simp only [UInt8.toNat_ofNat', reducePow, mod_mod] at digit
    omega

theorem bigEndian_inj
    (same : bigEndian width a = bigEndian width b) : a = b :=
  littleEndian_inj first second (reverse_inj.mp same)

end

/-- The number that bytes stand for, lowest first. -/
def ofLittleEndian : List UInt8 → Nat
  | [] => 0
  | byte :: bytes => byte.toNat + 256 * ofLittleEndian bytes

theorem ofLittleEndian_littleEndian (fits : number < 256 ^ width) :
    ofLittleEndian (littleEndian width number) = number := by
  induction width generalizing number with
  | zero => exact (lt_one_iff.mp fits).symm
  | succ width ih =>
    have rest : number / 256 < 256 ^ width := by
      rw [pow_succ] at fits
      exact Nat.div_lt_of_lt_mul (by omega)
    have digit : (UInt8.ofNat (number % 256)).toNat = number % 256 := by
      simp only [UInt8.toNat_ofNat', reducePow, mod_mod]
    rw [littleEndian, ofLittleEndian, ih rest, digit]
    omega

theorem ofLittleEndian_lt (bytes : List UInt8) : ofLittleEndian bytes < 256 ^ bytes.length := by
  induction bytes with
  | nil => exact one_pos
  | cons byte bytes ih =>
    have small : byte.toNat < 256 := byte.toNat_lt
    rw [ofLittleEndian, length_cons, pow_succ]
    omega

theorem littleEndian_ofLittleEndian (bytes : List UInt8) :
    littleEndian bytes.length (ofLittleEndian bytes) = bytes := by
  induction bytes with
  | nil => rfl
  | cons byte bytes ih =>
    have small : byte.toNat < 256 := byte.toNat_lt
    have low : (byte.toNat + 256 * ofLittleEndian bytes) % 256 = byte.toNat := by omega
    have high : (byte.toNat + 256 * ofLittleEndian bytes) / 256 = ofLittleEndian bytes := by omega
    rw [length_cons, littleEndian, ofLittleEndian, low, high, ih, UInt8.ofNat_toNat]

theorem ofLittleEndian_concat (bytes : List UInt8) (last : UInt8) :
    ofLittleEndian (bytes ++ [last]) = ofLittleEndian bytes + 256 ^ bytes.length * last.toNat := by
  induction bytes with
  | nil => simp only [nil_append, ofLittleEndian, length_nil]; omega
  | cons byte bytes ih =>
    rw [cons_append, ofLittleEndian, ofLittleEndian, ih, length_cons, pow_succ',
      mul_add, mul_assoc, add_assoc]

/-- The number that bytes stand for, highest first. -/
def ofBigEndian (bytes : List UInt8) : Nat := ofLittleEndian bytes.reverse

theorem ofBigEndian_bigEndian (fits : number < 256 ^ width) :
    ofBigEndian (bigEndian width number) = number := by
  rw [ofBigEndian, bigEndian, reverse_reverse, ofLittleEndian_littleEndian fits]

theorem ofBigEndian_lt (bytes : List UInt8) : ofBigEndian bytes < 256 ^ bytes.length := by
  have small := ofLittleEndian_lt bytes.reverse
  rwa [length_reverse] at small

theorem ofBigEndian_cons (byte : UInt8) (bytes : List UInt8) :
    ofBigEndian (byte :: bytes) = 256 ^ bytes.length * byte.toNat + ofBigEndian bytes := by
  rw [ofBigEndian, reverse_cons, ofLittleEndian_concat, length_reverse, add_comm]
  rfl

theorem bigEndian_ofBigEndian (bytes : List UInt8) :
    bigEndian bytes.length (ofBigEndian bytes) = bytes := by
  have same := littleEndian_ofLittleEndian bytes.reverse
  rw [length_reverse] at same
  rw [bigEndian, ofBigEndian, same, reverse_reverse]

/-- The `width` bytes from `start` on. -/
def slice (bytes : List UInt8) (start width : Nat) : List UInt8 := (bytes.drop start).take width

variable {start width : Nat}

theorem slice_append {front word behind : List UInt8} (starts : front.length = start)
    (long : word.length = width) : slice (front ++ (word ++ behind)) start width = word := by
  rw [slice, drop_left' starts, take_left' long]

theorem slice_add {front : List UInt8} {start : Nat} (starts : front.length = start)
    (bytes : List UInt8) (more width : Nat) :
    slice (front ++ bytes) (start + more) width = slice bytes more width := by
  rw [slice, slice, ← drop_drop, drop_left' starts]

variable {bytes : List UInt8}

theorem length_slice
    (inside : start + width ≤ bytes.length) : (slice bytes start width).length = width := by
  rw [slice, length_take, length_drop]
  omega

theorem slice_append_slice (bytes : List UInt8) (start width more : Nat) :
    slice bytes start width ++ slice bytes (start + width) more =
      slice bytes start (width + more) := by
  rw [slice, slice, slice, ← drop_drop, ← take_add]

theorem bigEndian_ofBigEndian_slice (inside : start + width ≤ bytes.length) :
    bigEndian width (ofBigEndian (slice bytes start width)) = slice bytes start width := by
  have back := bigEndian_ofBigEndian (slice bytes start width)
  rwa [length_slice inside] at back

def byteAt (bytes : List UInt8) (index : Nat) : UInt8 := bytes.getD index 0

theorem drop_eq_byteAt_cons {index : Nat} (inside : index < bytes.length) :
    bytes.drop index = byteAt bytes index :: bytes.drop (index + 1) := by
  rw [drop_eq_getElem_cons inside]
  simp [byteAt, inside]

theorem drop_eq_slice_append (bytes : List UInt8) (start width : Nat) :
    bytes.drop start = slice bytes start width ++ bytes.drop (start + width) := by
  rw [slice, ← drop_drop, take_append_drop]

theorem byteAt_append {front behind : List UInt8} {byte : UInt8} {index : Nat}
    (starts : front.length = index) : byteAt (front ++ byte :: behind) index = byte := by
  subst starts
  simp [byteAt]

theorem byteAt_add {front : List UInt8} {start : Nat} (starts : front.length = start)
    (bytes : List UInt8) (more : Nat) :
    byteAt (front ++ bytes) (start + more) = byteAt bytes more := by
  rw [byteAt, byteAt, getD_eq_getElem?_getD, getElem?_append_right (by omega), starts,
    Nat.add_sub_cancel_left, getD_eq_getElem?_getD]

/-- The bytes of a text. -/
def ofText (text : String) : List UInt8 := text.toByteArray.data.toList

theorem ofText_injective : Function.Injective ofText := by
  intro text text' same
  apply String.toByteArray_inj.mp
  apply ByteArray.ext
  exact Array.toList_inj.mp same

theorem ofText_append (text text' : String) :
    ofText (text ++ text') = ofText text ++ ofText text' := by
  simp [ofText]

theorem replicate_append_dropWhile (bytes : List UInt8) :
    replicate (bytes.length - (bytes.dropWhile (· = 0)).length) 0 ++ bytes.dropWhile (· = 0) =
      bytes := by
  induction bytes with
  | nil => rfl
  | cons byte rest ih =>
    by_cases zero : byte = 0
    · subst zero
      have shorter := (dropWhile_sublist (l := rest) (· = (0 : UInt8))).length_le
      rw [dropWhile_cons_of_pos (by simp), length_cons, succ_sub shorter,
        replicate_succ, cons_append, ih]
    · rw [dropWhile_cons_of_neg (by simpa using zero), Nat.sub_self]
      rfl

variable (width : Nat)

abbrev Fixed := Fin width → UInt8

/-- The number an array of bytes stands for. -/
def value : (width : Nat) → Fixed width → Nat
  | 0, _ => 0
  | width + 1, bytes => 256 * value width (fun i => bytes i.castSucc) + (bytes (Fin.last width)).toNat

theorem value_lt (bytes : Fixed width) : value width bytes < 256 ^ width := by
  induction width with
  | zero => exact one_pos
  | succ width ih =>
    have rest := ih fun i => bytes i.castSucc
    have last := (bytes (Fin.last width)).toNat_lt
    rw [value, pow_succ]
    omega

/-- Byte by byte, as `for i in 0..width { left[i] ^= right[i] }` does. -/
def xor {width : Nat} (left right : Fixed width) : Fixed width := fun i => left i ^^^ right i

theorem xor_right_comm {width : Nat} (a b c : Fixed width) : xor (xor a b) c = xor (xor a c) b := by
  funext i
  simp only [xor, UInt8.xor_assoc, UInt8.xor_comm (b i)]

theorem xor_right_inj {width : Nat} {a b c : Fixed width} : xor a b = xor a c ↔ b = c := by
  constructor
  · intro same
    funext i
    exact UInt8.xor_right_inj (a i) |>.mp (congrFun same i)
  · intro same
    rw [same]

theorem xor_xor_self {width : Nat} (a b : Fixed width) : xor (xor a b) b = a := by
  funext i
  simp only [xor, UInt8.xor_assoc, UInt8.xor_self, UInt8.xor_zero]

theorem xor_digits {a b x y : Nat} (first : x < 2 ^ 8) (second : y < 2 ^ 8) :
    2 ^ 8 * (a ^^^ b) + (x ^^^ y) = (2 ^ 8 * a + x) ^^^ (2 ^ 8 * b + y) := by
  have high : ((2 ^ 8 * a + x) ^^^ (2 ^ 8 * b + y)) / 2 ^ 8 = a ^^^ b := by
    rw [xor_div_two_pow]
    congr 1 <;> omega
  have low : ((2 ^ 8 * a + x) ^^^ (2 ^ 8 * b + y)) % 2 ^ 8 = x ^^^ y := by
    rw [xor_mod_two_pow]
    congr 1 <;> omega
  rw [← high, ← low]
  exact div_add_mod _ _

theorem value_xor (left right : Fixed width) :
    value width (xor left right) = value width left ^^^ value width right := by
  induction width with
  | zero => exact (Nat.xor_self 0).symm
  | succ width ih =>
    have rest := ih (fun i => left i.castSucc) fun i => right i.castSucc
    have first := (left (Fin.last width)).toNat_lt
    have second := (right (Fin.last width)).toNat_lt
    simp only [value, xor, UInt8.toNat_xor] at rest ⊢
    exact (congrArg (256 * · + _) rest).trans (xor_digits first second)

/-- The word whose bytes these are. -/
def word (bytes : Fixed 32) : Fin (2 ^ 256) := ⟨value 32 bytes, value_lt 32 bytes⟩

def xorWord (a b : Fin (2 ^ 256)) : Fin (2 ^ 256) := a ^^^ b

instance : Std.Commutative xorWord where
  comm a b := Fin.ext (by
    simp only [xorWord, Fin.xor_val_of_two_pow]
    exact Nat.xor_comm _ _)

instance : Std.Associative xorWord where
  assoc a b c := Fin.ext (by
    simp only [xorWord, Fin.xor_val_of_two_pow]
    exact Nat.xor_assoc _ _ _)

instance : Std.LawfulIdentity xorWord 0 where
  left_id a := Fin.ext (by
    simp only [xorWord, Fin.xor_val_of_two_pow]
    exact Nat.zero_xor _)
  right_id a := Fin.ext (by
    simp only [xorWord, Fin.xor_val_of_two_pow]
    exact Nat.xor_zero _)

theorem xorWord_self (a : Fin (2 ^ 256)) : xorWord a a = 0 := by
  apply Fin.ext
  rw [xorWord, Fin.xor_val_of_two_pow]
  exact Nat.xor_self _

theorem xorWord_cancel (a b : Fin (2 ^ 256)) : a ^^^ b ^^^ b = a := by
  apply Fin.ext
  simp only [Fin.xor_val_of_two_pow]
  rw [Nat.xor_assoc, Nat.xor_self, Nat.xor_zero]

theorem word_xor (left right : Fixed 32) :
    word (xor left right) = xorWord (word left) (word right) := by
  apply Fin.ext
  rw [xorWord, Fin.xor_val_of_two_pow]
  exact value_xor 32 left right

end Bytes
