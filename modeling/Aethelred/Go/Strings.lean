import Aethelred.Go.Int64

/- The string functions used on identifiers: trimming, lower case, prefixes. -/
namespace Go.Strings

/-- `unicode.IsSpace`. -/
def isSpace (c : Char) : Bool :=
  let n := c.toNat
  (9 ≤ n && n ≤ 13) || n == 0x20 || n == 0x85 || n == 0xA0 || n == 0x1680 ||
    (0x2000 ≤ n && n ≤ 0x200A) || n == 0x2028 || n == 0x2029 || n == 0x202F ||
    n == 0x205F || n == 0x3000

def trimSpace (s : String) : String :=
  String.ofList ((s.toList.dropWhile isSpace).reverse.dropWhile isSpace).reverse

/-- The lower case of a rune, exact where the lower case is ASCII. The runes beyond are
kept: nothing compared with a lower-cased string lies outside ASCII. -/
def toLowerRune (c : Char) : Char :=
  if 'A' ≤ c ∧ c ≤ 'Z' then Char.ofNat (c.toNat + 32)
  else if c.toNat = 0x130 then 'i'
  else if c.toNat = 0x212A then 'k'
  else c

def toLower (s : String) : String := String.ofList (s.toList.map toLowerRune)

def hasPrefix (s start : String) : Bool := start.toList.isPrefixOf s.toList

def trimPrefix (s start : String) : String :=
  if hasPrefix s start then String.ofList (s.toList.drop start.toList.length) else s

/-- `strings.Contains`. -/
def contains (s part : String) : Bool := s.toList.tails.any (part.toList.isPrefixOf ·)

end Go.Strings

/- Decimal text of machine integers. -/
namespace Go.Strconv

def formatUint (n : Nat) : String := String.ofList (Nat.toDigits 10 n)

/-- `strconv.FormatInt(x, 10)`, and `strconv.Itoa`. -/
def formatInt (x : Int) : String :=
  if x < 0 then String.ofList ('-' :: Nat.toDigits 10 x.natAbs)
  else String.ofList (Nat.toDigits 10 x.natAbs)

def parseDigits (chars : List Char) : Option Nat :=
  if chars ≠ [] ∧ chars.all Char.isDigit then some (Nat.ofDigitChars 10 chars 0) else none

/-- `strconv.ParseUint(text, 10, 64)`. -/
def parseUint (text : String) : Option Nat := do
  let n ← parseDigits text.toList
  if n < 2 ^ 64 then some n else none

def fitted (x : Int) : Option Int := if Int64.Fits x then some x else none

/-- `strconv.ParseInt(text, 10, 64)`, and `strconv.Atoi`. -/
def parseInt (text : String) : Option Int :=
  match text.toList with
  | '-' :: digits => do fitted (-(← parseDigits digits))
  | '+' :: digits => do fitted (← parseDigits digits)
  | digits => do fitted (← parseDigits digits)

theorem parseDigits_toDigits (n : Nat) : parseDigits (Nat.toDigits 10 n) = some n := by
  have digits : (Nat.toDigits 10 n).all Char.isDigit = true := by
    rw [List.all_eq_true]
    intro c member
    exact Nat.isDigit_of_mem_toDigits (by decide) (by decide) member
  unfold parseDigits
  rw [if_pos ⟨Nat.toDigits_ne_nil, digits⟩, Nat.ofDigitChars_ten_toDigits]

end Go.Strconv
