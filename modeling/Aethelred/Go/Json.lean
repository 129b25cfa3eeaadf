import Aethelred.Go.Hex
import Aethelred.Go.Time
import Aethelred.Go.Strings

/- JSON documents and their decoding into typed records. A document is what its text
says: decoding the text of an encoded document gives that document back. -/
namespace Go

open List

inductive Json where
  | null
  | bool (value : Bool)
  | num (value : Int)
  /-- A number with a fraction or an exponent. -/
  | real (literal : String)
  | str (value : String)
  | arr (items : List Json)
  | obj (fields : List (String × Json))

namespace Json

def foldRune (c : Char) : Char :=
  if 'a' ≤ c ∧ c ≤ 'z' then Char.ofNat (c.toNat - 32)
  else if c.toNat = 0x17F then 'S'
  else if c.toNat = 0x212A then 'K'
  else c

def foldName (name : String) : List Char := name.toList.map foldRune

variable {α : Type}

/-- A field of an object: each matching entry overwrites the one before, `null` leaves the
value as it is, and an entry of the wrong type fails the whole decoding. -/
def field (fields : List (String × Json)) (name : String) (zero : α)
    (decode : Json → Option α) : Option α :=
  fields.foldlM (fun current entry =>
    if foldName entry.1 = foldName name then
      match entry.2 with
      | .null => some current
      | value => decode value
    else some current) zero

def decodeString : Json → Option String
  | .str value => some value
  | _ => none

def decodeInt64 : Json → Option I64
  | .num value => if fits : Int64.Fits value then some ⟨value, fits⟩ else none
  | _ => none

def decodeTime : Json → Option Time
  | .str text => Time.parse text
  | _ => none

def decodeByte : Json → Option UInt8
  | .null => some 0
  | .num value => if 0 ≤ value ∧ value < 256 then some (UInt8.ofNat value.toNat) else none
  | _ => none

/-- A byte slice is a base64 string, or an array of small numbers. -/
def decodeBytes : Json → Option Bytes
  | .str value => Base64.decodeString value
  | .arr items => items.mapM decodeByte
  | _ => none

/-- A slice of records, `null` standing for the zero record. -/
def decodeList (zero : α) (decode : Json → Option α) : Json → Option (List α)
  | .arr items => items.mapM fun
      | .null => some zero
      | item => decode item
  | _ => none

/-- A record: the zero record for `null`, else one field after the other. -/
def decodeRecord (zero : α) (decode : List (String × Json) → Option α) : Json → Option α
  | .null => some zero
  | .obj fields => decode fields
  | _ => none

def encodeBytes (bytes : Bytes) : Json := .str (Base64.encodeToString bytes)

variable {decode : Json → Option α}

@[simp] theorem decodeBytes_encodeBytes (bytes : Bytes) :
    decodeBytes (encodeBytes bytes) = some bytes := by
  simp only [decodeBytes, encodeBytes, Base64.decodeString_encodeToString]

@[simp] theorem decodeInt64_num (value : I64) : decodeInt64 (.num value.val) = some value := by
  simp only [decodeInt64, value.fits, ↓reduceDIte]

@[simp] theorem decodeTime_str (t : Time) : decodeTime (.str t.text) = some t := Time.parse_text t

variable {fields : List (String × Json)}

theorem field_absent {name : String} {zero : α}
    (absent : foldName name ∉ fields.map fun entry => foldName entry.1) :
    field fields name zero decode = some zero := by
  unfold field
  induction fields generalizing zero with
  | nil => rfl
  | cons entry rest ih =>
    obtain ⟨other, absent⟩ := not_or.mp (fun both => absent (mem_cons.mpr both))
    rw [foldlM_cons, if_neg (Ne.symm other)]
    exact ih absent

theorem field_of_mem {name : String} {value : Json} {zero result : α}
    (distinct : (fields.map fun entry => foldName entry.1).Nodup) (member : (name, value) ∈ fields)
    (decoded : decode value = some result) (present : value ≠ .null) :
    field fields name zero decode = some result := by
  induction fields generalizing zero with
  | nil => cases member
  | cons entry rest ih =>
    obtain ⟨fresh, distinct⟩ := nodup_cons.mp distinct
    rcases mem_cons.mp member with rfl | later
    · have here : field ((name, value) :: rest) name zero decode =
          field rest name result decode := by
        cases value <;> simp_all [field]
      rw [here]
      exact field_absent fresh
    · have other : foldName entry.1 ≠ foldName name := by
        intro same
        exact fresh (mem_map.mpr ⟨_, later, same.symm⟩)
      have rest := @ih zero distinct later
      unfold field at rest ⊢
      rw [foldlM_cons, if_neg other]
      exact rest

theorem field_null {name : String} {zero : α}
    (distinct : (fields.map fun entry => foldName entry.1).Nodup)
    (member : (name, Json.null) ∈ fields) : field fields name zero decode = some zero := by
  induction fields with
  | nil => cases member
  | cons entry rest ih =>
    obtain ⟨fresh, distinct⟩ := nodup_cons.mp distinct
    rcases mem_cons.mp member with rfl | later
    · have here : field ((name, Json.null) :: rest) name zero decode =
          field rest name zero decode := by
        simp [field]
      rw [here]
      exact field_absent fresh
    · have other : foldName entry.1 ≠ foldName name := by
        intro same
        exact fresh (mem_map.mpr ⟨_, later, same.symm⟩)
      have rest := ih distinct later
      unfold field at rest ⊢
      rw [foldlM_cons, if_neg other]
      exact rest

section Scalars

variable {fields : List (String × Json)} {name : String}

section

variable (distinct : (fields.map fun entry => foldName entry.1).Nodup)
include distinct

theorem field_str {value : String}
    (member : (name, .str value) ∈ fields) : field fields name "" decodeString = some value :=
  field_of_mem distinct member rfl (by simp)

theorem field_bytes {value : Bytes}
    (member : (name, encodeBytes value) ∈ fields) : field fields name [] decodeBytes = some value :=
  field_of_mem distinct member (decodeBytes_encodeBytes value) (by simp [encodeBytes])

theorem field_num {value zero : I64} (member : (name, .num value.val) ∈ fields) :
    field fields name zero decodeInt64 = some value :=
  field_of_mem distinct member (decodeInt64_num value) (by simp)

theorem field_time {value zero : Time}
    (member : (name, .str value.text) ∈ fields) : field fields name zero decodeTime = some value :=
  field_of_mem distinct member (decodeTime_str value) (by simp)

end

end Scalars

theorem decodeList_arr (zero : α) (decode : Json → Option α) (encode : α → Json)
    (present : ∀ item, encode item ≠ .null) (roundTrip : ∀ item, decode (encode item) = some item)
    (items : List α) : decodeList zero decode (.arr (items.map encode)) = some items := by
  have each : ∀ item, (match encode item with
      | .null => some zero
      | json => decode json) = some item := by
    intro item
    have decoded := roundTrip item
    have notNull := present item
    cases encoded : encode item <;> simp_all
  induction items with
  | nil => rfl
  | cons item rest ih =>
    simp only [decodeList] at ih
    simp only [decodeList, map_cons, mapM_cons, each, ih]
    rfl

end Json

end Go

/- The text of a document, where one is kept as text. -/
namespace Go.Json

/-- The four digits of a `\u` escape. -/
def hexEscape (code : Nat) : List Char :=
  ['\\', 'u', Hex.digit (code / 4096 % 16), Hex.digit (code / 256 % 16),
    Hex.digit (code / 16 % 16), Hex.digit (code % 16)]

def escapeRune (c : Char) : List Char :=
  if c = '"' then ['\\', '"']
  else if c = '\\' then ['\\', '\\']
  else if c = '\n' then ['\\', 'n']
  else if c = '\r' then ['\\', 'r']
  else if c = '\t' then ['\\', 't']
  else if c.toNat = 8 then ['\\', 'b']
  else if c.toNat = 12 then ['\\', 'f']
  else if c.toNat < 32 ∨ c = '<' ∨ c = '>' ∨ c = '&' ∨ c.toNat = 0x2028 ∨ c.toNat = 0x2029 then
    hexEscape c.toNat
  else [c]

def renderString (text : String) : List Char :=
  '"' :: (text.toList.flatMap escapeRune ++ ['"'])

def commas : List (List Char) → List Char
  | [] => []
  | [only] => only
  | first :: rest => first ++ ',' :: commas rest

mutual

def render : Json → List Char
  | .null => "null".toList
  | .bool true => "true".toList
  | .bool false => "false".toList
  | .num value => (Strconv.formatInt value).toList
  | .real literal => literal.toList
  | .str value => renderString value
  | .arr items => '[' :: (commas (renderItems items) ++ [']'])
  | .obj fields => '\x7b' :: (commas (renderFields fields) ++ ['\x7d'])

def renderItems : List Json → List (List Char)
  | [] => []
  | item :: rest => render item :: renderItems rest

def renderFields : List (String × Json) → List (List Char)
  | [] => []
  | (name, value) :: rest => (renderString name ++ ':' :: render value) :: renderFields rest

end

def isBlank (c : Char) : Bool := c = ' ' || c = '\t' || c = '\r' || c = '\n'

variable (chars : List Char)

def skipBlank : List Char := chars.dropWhile isBlank

def fourDigits : List Char → Option (Nat × List Char)
  | a :: b :: c :: d :: rest => do
      let a ← Hex.value a
      let b ← Hex.value b
      let c ← Hex.value c
      let d ← Hex.value d
      return (4096 * a + 256 * b + 16 * c + d, rest)
  | _ => none

def runeOf (code : Nat) : Char := if 0xD800 ≤ code ∧ code ≤ 0xDFFF then '\uFFFD' else Char.ofNat code

/-- The rune of a `\u` escape, which may take a second escape to complete. -/
def unicodeEscape : Option (Char × List Char) := do
  let (high, rest) ← fourDigits chars
  if 0xD800 ≤ high ∧ high < 0xDC00 then
    match rest with
    | '\\' :: 'u' :: more =>
      match fourDigits more with
      | some (low, after) =>
        if 0xDC00 ≤ low ∧ low < 0xE000 then
          return (Char.ofNat (0x10000 + (high - 0xD800) * 0x400 + (low - 0xDC00)), after)
        else return ('\uFFFD', rest)
      | none => return ('\uFFFD', rest)
    | _ => return ('\uFFFD', rest)
  else return (runeOf high, rest)

def parseString : Nat → List Char → Option (List Char × List Char)
  | 0, _ => none
  | fuel + 1, chars =>
    match chars with
    | '"' :: rest => some ([], rest)
    | '\\' :: 'u' :: rest => do
        let (c, rest) ← unicodeEscape rest
        let (tail, rest) ← parseString fuel rest
        return (c :: tail, rest)
    | '\\' :: escaped :: rest => do
        let c ← simpleEscape escaped
        let (tail, rest) ← parseString fuel rest
        return (c :: tail, rest)
    | '\\' :: [] => none
    | c :: rest =>
      if c.toNat < 32 then none else do
        let (tail, rest) ← parseString fuel rest
        return (c :: tail, rest)
    | [] => none
where
  simpleEscape (c : Char) : Option Char :=
    if c = '"' ∨ c = '\\' ∨ c = '/' then some c
    else if c = 'b' then some (Char.ofNat 8)
    else if c = 'f' then some (Char.ofNat 12)
    else if c = 'n' then some '\n'
    else if c = 'r' then some '\r'
    else if c = 't' then some '\t'
    else none

def digits1 : Option (List Char × List Char) :=
  let digits := chars.takeWhile Char.isDigit
  if digits = [] then none else some (digits, chars.dropWhile Char.isDigit)

def parseNumber : Option (Json × List Char) := do
  let (sign, chars) := match chars with
    | '-' :: rest => (['-'], rest)
    | rest => ([], rest)
  let (whole, rest) ← match chars with
    | '0' :: rest => some (['0'], rest)
    | rest => digits1 rest
  let (fraction, rest) ← match rest with
    | '.' :: rest => (digits1 rest).map fun (digits, rest) => ('.' :: digits, rest)
    | rest => some ([], rest)
  let (exponent, rest) ← match rest with
    | e :: rest =>
      if e = 'e' ∨ e = 'E' then
        match rest with
        | '+' :: rest => (digits1 rest).map fun (digits, rest) => (e :: '+' :: digits, rest)
        | '-' :: rest => (digits1 rest).map fun (digits, rest) => (e :: '-' :: digits, rest)
        | rest => (digits1 rest).map fun (digits, rest) => (e :: digits, rest)
      else some ([], e :: rest)
    | [] => some ([], [])
  if fraction = [] ∧ exponent = [] then
    let magnitude : Int := Nat.ofDigitChars 10 whole 0
    return (.num (if sign = [] then magnitude else -magnitude), rest)
  else return (.real (String.ofList (sign ++ whole ++ fraction ++ exponent)), rest)

def literal (word : String) (value : Json) (chars : List Char) : Option (Json × List Char) :=
  if word.toList.isPrefixOf chars then some (value, chars.drop word.toList.length) else none

mutual

def parseValue : Nat → List Char → Option (Json × List Char)
  | 0, _ => none
  | fuel + 1, chars =>
    match skipBlank chars with
    | '"' :: rest => do
        let (text, rest) ← parseString (rest.length + 1) rest
        return (.str (String.ofList text), rest)
    | '[' :: rest =>
      match skipBlank rest with
      | ']' :: rest => some (.arr [], rest)
      | rest => do
          let (items, rest) ← parseItems fuel rest
          return (.arr items, rest)
    | '\x7b' :: rest =>
      match skipBlank rest with
      | '\x7d' :: rest => some (.obj [], rest)
      | rest => do
          let (fields, rest) ← parseFields fuel rest
          return (.obj fields, rest)
    | chars =>
      (literal "null" .null chars).orElse fun _ =>
        (literal "true" (.bool true) chars).orElse fun _ =>
          (literal "false" (.bool false) chars).orElse fun _ => parseNumber chars

def parseItems : Nat → List Char → Option (List Json × List Char)
  | 0, _ => none
  | fuel + 1, chars => do
      let (item, rest) ← parseValue fuel chars
      match skipBlank rest with
      | ',' :: rest =>
        let (items, rest) ← parseItems fuel rest
        return (item :: items, rest)
      | ']' :: rest => return ([item], rest)
      | _ => none

def parseFields : Nat → List Char → Option (List (String × Json) × List Char)
  | 0, _ => none
  | fuel + 1, chars =>
    match skipBlank chars with
    | '"' :: rest => do
        let (name, rest) ← parseString (rest.length + 1) rest
        match skipBlank rest with
        | ':' :: rest =>
          let (value, rest) ← parseValue fuel rest
          match skipBlank rest with
          | ',' :: rest =>
            let (fields, rest) ← parseFields fuel rest
            return ((String.ofList name, value) :: fields, rest)
          | '\x7d' :: rest => return ([(String.ofList name, value)], rest)
          | _ => none
        | _ => none
    | _ => none

end

def parse (text : String) : Option Json := do
  let (value, rest) ← parseValue (2 * text.length + 2) text.toList
  if skipBlank rest = [] then some value else none

end Go.Json
