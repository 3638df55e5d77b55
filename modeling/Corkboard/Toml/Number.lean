-- SUMMARY: Numbers, dates and times of TOML. They are checked, and not given a value.
import Corkboard.Decimal
import Corkboard.Toml.Text

/-!
# Numbers, dates and times

No setting is a number or a date. Such a value must still be well formed, because a file with
a malformed value is refused as a whole. The scanners here check the form and the range.
-/

namespace Corkboard.Toml

open Scanner

-- ---------------------------------------------------------------------------
-- Numbers
-- ---------------------------------------------------------------------------

/-- Digits with single underscores between them. The underscores are left out. -/
def digitRun (isDigit : Char → Bool) : Scanner (List Char) :=
  separated (do let _ ← accept ['_']) (satisfy isDigit)

/-- A sign, if there is one; `true` is minus. -/
def sign : Scanner Bool := fun text => some (Decimal.splitSign text)

/-- A decimal integer with its sign. Zero comes first only if it is alone. -/
def decimalDigits : Scanner (Bool × List Char) := do
  let negative ← sign
  if ← accept ['0'] then return (negative, ['0'])
  else return (negative, ← digitRun Char.isDigit)

/-- Whether `c` is an octal digit. -/
def isOctal (c : Char) : Bool := '0' ≤ c && c ≤ '7'

/-- Whether `c` is a binary digit. -/
def isBinary (c : Char) : Bool := c == '0' || c == '1'

/-- The value of digits in a base. -/
def valueIn (base : Nat) (digits : List Char) : Nat :=
  digits.foldl (fun n d => n * base + (Json.Quoted.hexDigit? d).getD 0) 0

/-- An integer in another base, after its two letters. It has no sign. -/
def integerIn (base : Nat) (isDigit : Char → Bool) : Scanner Unit := do
  let digits ← digitRun isDigit
  if 0x8000000000000000 ≤ valueIn base digits then fail

/-- An integer of 64 bits. -/
def integer : Scanner Unit := do
  if ← accept ['0', 'x'] then integerIn 16 fun c => (Json.Quoted.hexDigit? c).isSome
  else if ← accept ['0', 'o'] then integerIn 8 isOctal
  else if ← accept ['0', 'b'] then integerIn 2 isBinary
  else
    let (negative, digits) ← decimalDigits
    if (if negative then 0x8000000000000000 else 0x7FFFFFFFFFFFFFFF) <
        Decimal.natOfDigits digits then fail

/-- The exponent of a float. -/
def exponent : Scanner Int := do
  let _ ← satisfy fun c => c == 'e' || c == 'E'
  let negative ← sign
  let digits ← digitRun Char.isDigit
  let n : Int := Decimal.natOfDigits digits
  return if negative then -n else n

/-- A float with digits. It has a fraction, an exponent or both. -/
def digitFloat : Scanner Unit := do
  let (negative, whole) ← decimalDigits
  let fraction ← optional (do exactly ['.']; digitRun Char.isDigit)
  let e ← optional exponent
  if fraction.isNone && e.isNone then fail
  let fraction := fraction.getD []
  let d : Decimal :=
    ⟨negative, Decimal.natOfDigits (whole ++ fraction), e.getD 0 - fraction.length⟩
  if d.overflows && !negative then fail

/-- Infinity, or what is no number. -/
def specialFloat : Scanner Unit := do
  let _ ← sign
  exactly "inf".toList <|> exactly "nan".toList

/-- A float. -/
def float : Scanner Unit := digitFloat <|> specialFloat

-- ---------------------------------------------------------------------------
-- Dates and times
-- ---------------------------------------------------------------------------

/-- A number of exactly so many digits that lies between two bounds. -/
def fixed (count least most : Nat) : Scanner Nat := do
  let n := Decimal.natOfDigits (← exactCount count Char.isDigit)
  if n < least ∨ most < n then fail else return n

/-- How many days a month has. -/
def daysIn (year month : Nat) : Nat :=
  if month = 2 then
    if year % 4 = 0 ∧ (year % 100 ≠ 0 ∨ year % 400 = 0) then 29 else 28
  else if month = 4 ∨ month = 6 ∨ month = 9 ∨ month = 11 then 30
  else 31

/-- A day of the calendar. -/
def fullDate : Scanner Unit := do
  let year ← fixed 4 0 9999
  exactly ['-']
  let month ← fixed 2 1 12
  exactly ['-']
  let _ ← fixed 2 1 (daysIn year month)

/-- A time of day, with seconds and maybe a fraction. -/
def partialTime : Scanner Unit := do
  let _ ← fixed 2 0 23
  exactly [':']
  let _ ← fixed 2 0 59
  exactly [':']
  let _ ← fixed 2 0 60
  let _ ← optional (do
    exactly ['.']
    let _ ← satisfy Char.isDigit
    takeWhile Char.isDigit)

/-- The distance from universal time. -/
def timeOffset : Scanner Unit :=
  (do let _ ← satisfy fun c => c == 'Z' || c == 'z') <|> do
    let _ ← satisfy fun c => c == '+' || c == '-'
    let _ ← fixed 2 0 23
    exactly [':']
    let _ ← fixed 2 0 59

/-- A day, a time, or both. -/
def dateTime : Scanner Unit :=
  (do
    fullDate
    let _ ← optional (do
      let _ ← satisfy fun c => c == 'T' || c == 't' || c == ' '
      partialTime
      let _ ← optional timeOffset)) <|> partialTime

/-- A value that starts with a digit, a sign, or the name of a special number. -/
def numeric : Scanner Unit := dateTime <|> float <|> integer

end Corkboard.Toml
