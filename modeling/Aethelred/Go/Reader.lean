import Aethelred.Lib.Bytes

/- Reading from a byte string. The reader is what is left of it. A plain read takes what there
is, so that it may fill less than it was asked for, and fails only at the end. -/
namespace Go.Reader

open Except Bytes List

inductive ReadError where
  | eof
  | unexpectedEOF
deriving DecidableEq

def readByte : List UInt8 → Except ReadError (UInt8 × List UInt8)
  | [] => .error .eof
  | byte :: rest => .ok (byte, rest)

/-- An unsigned number of `width` bytes, highest first, which all have to be there. -/
def readUint (width : Nat) (reader : List UInt8) : Except ReadError (Nat × List UInt8) :=
  if reader.length = 0 then .error .eof
  else if reader.length < width then .error .unexpectedEOF
  else .ok (ofBigEndian (reader.take width), reader.drop width)

/-- A fresh array of `size` bytes, filled as far as the reader goes. -/
def read (size : Nat) (reader : List UInt8) : Except ReadError (List UInt8 × List UInt8) :=
  if reader.length = 0 then .error .eof
  else .ok (reader.take size ++ replicate (size - reader.length) 0, reader.drop size)

variable {reader rest word : List UInt8} {byte : UInt8} {size width number : Nat}

theorem readByte_eq_ok : readByte reader = .ok (byte, rest) ↔ reader = byte :: rest := by
  cases reader with
  | nil => simp [readByte]
  | cons first others => simp [readByte]

theorem readUint_eq_ok (wide : 0 < width) : readUint width reader = .ok (number, rest) ↔
    number < 256 ^ width ∧ reader = bigEndian width number ++ rest := by
  unfold readUint
  rw [ite_error_eq_ok, ite_error_eq_ok, Except.ok.injEq, Prod.mk.injEq]
  constructor
  · rintro ⟨_, long, rfl, rfl⟩
    have taken : (reader.take width).length = width := by
      rw [length_take]
      omega
    constructor
    · have small := ofBigEndian_lt (reader.take width)
      rwa [taken] at small
    · have back := bigEndian_ofBigEndian (reader.take width)
      rw [taken] at back
      rw [back, take_append_drop]
  · rintro ⟨small, rfl⟩
    have length := length_bigEndian width number
    rw [length_append, length, take_left' length, drop_left' length,
      ofBigEndian_bigEndian small]
    exact ⟨by omega, by omega, rfl, rfl⟩

theorem read_eq_ok (more : rest ≠ []) : read size reader = .ok (word, rest) ↔
    word.length = size ∧ reader = word ++ rest := by
  unfold read
  rw [ite_error_eq_ok, Except.ok.injEq, Prod.mk.injEq]
  constructor
  · rintro ⟨_, rfl, rfl⟩
    have long : size < reader.length := by
      by_contra short
      exact more (drop_eq_nil_of_le (Nat.le_of_not_lt short))
    rw [Nat.sub_eq_zero_of_le (by omega), replicate_zero, append_nil,
      take_append_drop, length_take]
    exact ⟨by omega, rfl⟩
  · rintro ⟨rfl, rfl⟩
    have some := length_pos_iff.mpr more
    rw [length_append, take_left, drop_left,
      Nat.sub_eq_zero_of_le (by omega), replicate_zero, append_nil]
    exact ⟨by omega, rfl, rfl⟩

/-- A field behind its length in two bytes. -/
def readField (reader : List UInt8) : Except ReadError (List UInt8 × List UInt8) := do
  let (size, reader) ← readUint 2 reader
  read size reader

theorem readField_eq_ok (more : rest ≠ []) : readField reader = .ok (word, rest) ↔
    word.length < 2 ^ 16 ∧ reader = bigEndian 2 (word.length % 2 ^ 16) ++ word ++ rest := by
  unfold readField
  rw [bind_eq_ok]
  constructor
  · rintro ⟨⟨size, behind⟩, sized, filled⟩
    obtain ⟨small, rfl⟩ := (readUint_eq_ok (by decide)).mp sized
    obtain ⟨rfl, rfl⟩ := (read_eq_ok more).mp filled
    have whole : word.length % 2 ^ 16 = word.length := Nat.mod_eq_of_lt small
    rw [whole, append_assoc]
    exact ⟨small, rfl⟩
  · rintro ⟨small, rfl⟩
    refine ⟨(word.length, word ++ rest), ?_, (read_eq_ok more).mpr ⟨rfl, rfl⟩⟩
    rw [readUint_eq_ok (by decide), Nat.mod_eq_of_lt small, append_assoc]
    exact ⟨small, rfl⟩

end Go.Reader
