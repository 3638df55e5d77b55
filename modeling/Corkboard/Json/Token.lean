-- SUMMARY: The tokens of a JSON text.
import Corkboard.Json.Basic
import Corkboard.Json.Quoted

/-!
# Tokens

A JSON text is a row of tokens with blanks between them. Only four characters count as blanks.
Each token is as long as it can be, and whether two tokens may stand side by side is for the
reader of the row to say.
-/

namespace Corkboard.Json

/-- A token. A `scalar` is a value without parts, other than a text. The text of a `string` is
    `none` if a surrogate in it stands alone. -/
inductive Token where
  | openBrace
  | closeBrace
  | openBracket
  | closeBracket
  | comma
  | colon
  | scalar (value : Json)
  | string (text : Option String)

namespace Token

/-- Whether `c` may stand between tokens. -/
def isSpace (c : Char) : Bool :=
  c == ' ' || c == '\t' || c == '\n' || c == '\r'

/-- The fraction of a number: a point needs a digit after it. -/
def fraction? : List Char → Option (List Char × List Char)
  | '.' :: rest =>
    let (digits, rest) := Decimal.splitDigits rest
    if digits.isEmpty then none else some (digits, rest)
  | rest => some ([], rest)

/-- The exponent of a number, if one stands there: the letter, a sign and at least one digit. -/
def exponent? : List Char → Option (Option Int × List Char)
  | [] => some (none, [])
  | e :: rest =>
    if e = 'e' ∨ e = 'E' then
      let (negative, rest) := Decimal.splitSign rest
      let (digits, rest) := Decimal.splitDigits rest
      if digits.isEmpty then none
      else
        let n : Int := Decimal.natOfDigits digits
        some (some (if negative then -n else n), rest)
    else some (none, e :: rest)

/-- The number that digits make behind `n`, as long as it has 64 bits, and how many digits are left
    from the first that does not fit. -/
def gather (n : Nat) : List Char → Nat × Nat
  | [] => (n, 0)
  | digit :: rest =>
    let more := 10 * n + (digit.toNat - '0'.toNat)
    if more < 0x10000000000000000 then gather more rest else (n, rest.length + 1)

/-- Whether a number is too large to be used. Its digits, as many as fit in 64 bits, are rounded to
    a double, and so is the power of ten that they are to be multiplied by. Only the product decides,
    so next to the largest double the answer may differ from that for the number itself. -/
def overflows (whole fraction : List Char) (exponent : Int) : Bool :=
  let (front, wholeLeft) := gather 0 whole
  let (digits, fractionLeft) := gather front fraction
  let power : Int := exponent + wholeLeft + fractionLeft - fraction.length
  if digits = 0 ∨ power ≤ 0 then false
  else if 308 < power then true
  else
    decide (Decimal.firstInfinite ≤
      Decimal.nearestDouble digits * Decimal.nearestDouble (Nat.pow 10 power.natAbs))

/-- The value of a number from its parts. -/
def numberOf (negative : Bool) (whole fraction : List Char) (exponent : Option Int) : Json :=
  let d : Decimal :=
    ⟨negative, Decimal.natOfDigits (whole ++ fraction), exponent.getD 0 - fraction.length⟩
  if overflows whole fraction (exponent.getD 0) then .unusable
  else if fraction.isEmpty && exponent.isNone && !(negative && d.digits == 0) then
    .integer (if negative then -(d.digits : Int) else d.digits)
  else .decimal d

/-- Reads a number after its sign. The integer part has a digit, and starts with zero only if
    it is zero. -/
def unsigned? (negative : Bool) (text : List Char) : Option (Json × List Char) := do
  let (whole, rest) := Decimal.splitDigits text
  if whole.isEmpty || (whole.head? == some '0' && whole.length != 1) then none
  else
    let (fraction, rest) ← fraction? rest
    let (exponent, rest) ← exponent? rest
    return (numberOf negative whole fraction exponent, rest)

/-- Reads the token in front of a text that starts with no blank. -/
def next? : List Char → Option (Token × List Char)
  | '{' :: rest => some (.openBrace, rest)
  | '}' :: rest => some (.closeBrace, rest)
  | '[' :: rest => some (.openBracket, rest)
  | ']' :: rest => some (.closeBracket, rest)
  | ',' :: rest => some (.comma, rest)
  | ':' :: rest => some (.colon, rest)
  | '"' :: rest => (Quoted.read? rest).map fun (text, rest) => (.string text, rest)
  | '-' :: rest => (unsigned? true rest).map fun (value, rest) => (.scalar value, rest)
  | 'n' :: 'u' :: 'l' :: 'l' :: rest => some (.scalar .null, rest)
  | 't' :: 'r' :: 'u' :: 'e' :: rest => some (.scalar (.bool true), rest)
  | 'f' :: 'a' :: 'l' :: 's' :: 'e' :: rest => some (.scalar (.bool false), rest)
  | text => (unsigned? false text).map fun (value, rest) => (.scalar value, rest)

/-- Reads up to `fuel` tokens and blanks. -/
def scanUpTo : Nat → List Char → Option (List Token)
  | _, [] => some []
  | 0, _ :: _ => none
  | fuel + 1, c :: rest =>
    if isSpace c then scanUpTo fuel rest
    else do
      let (token, after) ← next? (c :: rest)
      return token :: (← scanUpTo fuel after)

/-- All tokens of a text. Each token takes a character at least, so the length of the text is
    enough fuel. -/
def scan? (text : List Char) : Option (List Token) :=
  scanUpTo text.length text

end Token
end Corkboard.Json
