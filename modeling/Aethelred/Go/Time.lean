import Mathlib.Data.UInt

/- Instants in UTC, in nanoseconds since the epoch, and the layouts they are printed in. -/
namespace Go

structure Instant where
  unixNano : Int
deriving DecidableEq

namespace Instant

variable (t : Instant)

def seconds : Int := t.unixNano / 1000000000

def nanosecond : Nat := (t.unixNano % 1000000000).toNat

def secondOfDay : Nat := (t.seconds % 86400).toNat

/-- Year, month and day. Years are counted from March, in eras of 400 of them. -/
def civil : Int × Nat × Nat :=
  let days := t.seconds / 86400 + 719468
  let era := days / 146097
  let dayOfEra := (days % 146097).toNat
  let yearOfEra := (dayOfEra - dayOfEra / 1460 + dayOfEra / 36524 - dayOfEra / 146096) / 365
  let dayOfYear := dayOfEra - (365 * yearOfEra + yearOfEra / 4 - yearOfEra / 100)
  let shifted := (5 * dayOfYear + 2) / 153
  let day := dayOfYear - (153 * shifted + 2) / 5 + 1
  let month := if shifted < 10 then shifted + 3 else shifted - 9
  (yearOfEra + era * 400 + (if month ≤ 2 then 1 else 0), month, day)

/-- At least `width` digits. -/
def pad (width n : Nat) : String :=
  let digits := toString n
  String.ofList (List.replicate (width - digits.length) '0') ++ digits

def date : String :=
  let (year, month, day) := t.civil
  (if year < 0 then "-" else "") ++ pad 4 year.natAbs ++ "-" ++ pad 2 month ++ "-" ++ pad 2 day

def clock : String :=
  pad 2 (t.secondOfDay / 3600) ++ ":" ++ pad 2 (t.secondOfDay / 60 % 60) ++ ":" ++
    pad 2 (t.secondOfDay % 60)

/-- The fraction `.999999999`: trailing zeros and an empty fraction are left out. -/
def fraction : String :=
  if t.nanosecond = 0 then ""
  else "." ++ String.ofList ((pad 9 t.nanosecond).toList.reverse.dropWhile (· = '0')).reverse

/-- `time.Time.String`. -/
def string : String := t.date ++ " " ++ t.clock ++ t.fraction ++ " +0000 UTC"

/-- The layout `2006-01-02T15:04:05.999999999Z07:00`. -/
def rfc3339Nano : String := t.date ++ "T" ++ t.clock ++ t.fraction ++ "Z"

/-- The layout `2006-01-02T15:04:05Z`. -/
def rfc3339Seconds : String := t.date ++ "T" ++ t.clock ++ "Z"

example : (⟨1709210096789000000⟩ : Instant).string = "2024-02-29 12:34:56.789 +0000 UTC" := by
  decide +kernel

end Instant

/- Instants, by the text a document carries for them. -/

namespace RFC3339

/-- A number of exactly `width` digits, and what follows it. -/
def number : Nat → List Char → Option (Nat × List Char) :=
  fun width chars =>
    let digits := chars.take width
    if digits.length = width ∧ digits.all Char.isDigit then
      some (digits.foldl (fun value c => 10 * value + (c.toNat - 48)) 0, chars.drop width)
    else none

def expect (c : Char) : List Char → Option (List Char)
  | first :: rest => if first = c then some rest else none
  | [] => none

def daysIn (year month : Nat) : Nat :=
  if month = 2 then if year % 4 = 0 ∧ (year % 100 ≠ 0 ∨ year % 400 = 0) then 29 else 28
  else if month = 4 ∨ month = 6 ∨ month = 9 ∨ month = 11 then 30
  else 31

def fraction : List Char → Option (List Char)
  | '.' :: rest =>
    if (rest.takeWhile Char.isDigit).length = 0 then none
    else some (rest.dropWhile Char.isDigit)
  | chars => some chars

def zone : List Char → Bool
  | ['Z'] => true
  | sign :: rest =>
    (sign = '+' || sign = '-') &&
      ((do
        let (hour, rest) ← number 2 rest
        let rest ← expect ':' rest
        let (minute, rest) ← number 2 rest
        return decide (hour < 24 ∧ minute < 60 ∧ rest = [])).getD false)
  | [] => false

def accepts (text : String) : Bool :=
  (do
    let (year, rest) ← number 4 text.toList
    let rest ← expect '-' rest
    let (month, rest) ← number 2 rest
    let rest ← expect '-' rest
    let (day, rest) ← number 2 rest
    let rest ← expect 'T' rest
    let (hour, rest) ← number 2 rest
    let rest ← expect ':' rest
    let (minute, rest) ← number 2 rest
    let rest ← expect ':' rest
    let (second, rest) ← number 2 rest
    let rest ← fraction rest
    return decide (1 ≤ month ∧ month ≤ 12 ∧ 1 ≤ day ∧ day ≤ daysIn year month ∧ hour < 24 ∧
      minute < 60 ∧ second < 60) && zone rest).getD false

end RFC3339

structure Time where
  text : String
  valid : RFC3339.accepts text = true

namespace Time

def parse (text : String) : Option Time :=
  if valid : RFC3339.accepts text = true then some ⟨text, valid⟩ else none

@[simp] theorem parse_text (t : Time) : parse t.text = some t := by
  simp only [parse, t.valid, ↓reduceDIte]

def zero : Time := ⟨"0001-01-01T00:00:00Z", by decide⟩

end Time

end Go
