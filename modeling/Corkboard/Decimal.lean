-- SUMMARY: Decimal numbers: their text, their integer part after rounding to a double, and the leading integer of a text.
import Corkboard.Text.Blank

/-!
# Decimal numbers

A decimal number is a sign, a natural number of digits and a power of ten. Stored dates are
read through the nearest double. All arithmetic is exact, on natural numbers, and the size of
every power is bounded by the length of the text.
-/

namespace Corkboard

/-- The number `± digits · 10 ^ exponent`. -/
structure Decimal where
  negative : Bool
  digits : Nat
  exponent : Int
  deriving DecidableEq, Repr

namespace Decimal

-- ---------------------------------------------------------------------------
-- Text
-- ---------------------------------------------------------------------------

/-- The decimal text of an integer, with a minus sign where it is negative. -/
def ofInt (i : Int) : List Char :=
  if i < 0 then '-' :: Nat.toDigits 10 i.natAbs else Nat.toDigits 10 i.natAbs

/-- The value of a run of decimal digits. -/
def natOfDigits (digits : List Char) : Nat :=
  Nat.ofDigitChars 10 digits 0

/-- Takes at most one sign off the front; `true` is minus. -/
def splitSign : List Char → Bool × List Char
  | '-' :: rest => (true, rest)
  | '+' :: rest => (false, rest)
  | rest => (false, rest)

/-- Splits off the digits in front. -/
def splitDigits (text : List Char) : List Char × List Char :=
  (text.takeWhile Char.isDigit, text.dropWhile Char.isDigit)

/-- The digits after a point, which may be none, or no digits where no point stands. -/
def splitFraction : List Char → List Char × List Char
  | '.' :: rest => splitDigits rest
  | rest => ([], rest)

/-- The exponent after `e` or `E`, which needs a digit. The text must end with it. -/
def exponentOf? : List Char → Option Int
  | [] => some 0
  | e :: rest =>
    if e = 'e' ∨ e = 'E' then
      let (negative, rest) := splitSign rest
      let (digits, rest) := splitDigits rest
      if digits.isEmpty || !rest.isEmpty then none
      else some (if negative then -(natOfDigits digits : Int) else natOfDigits digits)
    else none

/-- Reads a whole text as a number: a sign, digits with at most one point among or around
    them, and an exponent. Only the digits are required. -/
def ofText? (text : List Char) : Option Decimal :=
  let (negative, rest) := splitSign text
  let (whole, rest) := splitDigits rest
  let (fraction, rest) := splitFraction rest
  if whole.isEmpty && fraction.isEmpty then none
  else
    (exponentOf? rest).map fun e =>
      ⟨negative, natOfDigits (whole ++ fraction), e - fraction.length⟩

-- ---------------------------------------------------------------------------
-- Rounding to a double
-- ---------------------------------------------------------------------------

/-- Numerator and denominator of `digits · 10 ^ exponent`. -/
def ratio (d : Decimal) : Nat × Nat :=
  if d.exponent < 0 then (d.digits, Nat.pow 10 d.exponent.natAbs)
  else (d.digits * Nat.pow 10 d.exponent.natAbs, 1)

/-- The place of the first digit: a number with digits lies in `[10 ^ (k - 1), 10 ^ k)`. -/
def magnitude (d : Decimal) : Int :=
  (Nat.toDigits 10 d.digits).length + d.exponent

/-- The integer nearest to `p / q`; a tie goes to the even neighbour. -/
def roundHalfEven (p q : Nat) : Nat :=
  let whole := p / q
  let rest := p % q
  if 2 * rest < q ∨ (2 * rest = q ∧ whole % 2 = 0) then whole else whole + 1

/-- How many binary places a double has after the point when its integer part is `whole`.
    Below one, two numbers that round to the same multiple of `2 ^ (-53)` have the same
    integer part after rounding, so 53 places are enough there. -/
def binaryPlaces (whole : Nat) : Nat :=
  if whole = 0 then 53 else 52 - whole.log2

/-- The integer part of the double nearest to `p / q`, if that double is at most `limit`.
    The answer is right for limits below `2 ^ 53`. -/
def truncatedRatio? (limit p q : Nat) : Option Nat :=
  let whole := p / q
  if Nat.pow 2 53 ≤ whole then none
  else
    let scale := Nat.pow 2 (binaryPlaces whole)
    let rounded := roundHalfEven (p * scale) q
    if limit * scale < rounded then none else some (rounded / scale)

/-- The integer part of the double nearest to the number's absolute value, if that double is at
    most `limit`, for limits below `2 ^ 53`. -/
def truncated? (limit : Nat) (d : Decimal) : Option Nat :=
  if d.digits = 0 then some 0
  else if 17 < d.magnitude then none
  else if d.magnitude < 0 then some 0
  else truncatedRatio? limit d.ratio.1 d.ratio.2

/-- The least number whose nearest double is infinite. It lies halfway between the largest double
    and the power of two above it. -/
def firstInfinite : Nat := Nat.pow 2 1024 - Nat.pow 2 970

/-- Whether the nearest double would be infinite. -/
def overflows (d : Decimal) : Bool :=
  if d.digits = 0 then false
  else if 310 < d.magnitude then true
  else if d.magnitude < 300 then false
  else decide (firstInfinite * d.ratio.2 ≤ d.ratio.1)

/-- The double nearest to a natural number that is not too large for one. -/
def nearestDouble (n : Nat) : Nat :=
  if n < Nat.pow 2 53 then n
  else
    let unit := Nat.pow 2 (n.log2 - 52)
    roundHalfEven n unit * unit

-- ---------------------------------------------------------------------------
-- The leading integer of a text
-- ---------------------------------------------------------------------------

/-- The integer in front of a text: blanks, at most one sign, and as many digits as there
    are. What follows is ignored. There is none without a digit, or where the digits leave
    the range of a 64-bit integer before the sign is applied. -/
def leadingInteger? (text : List Char) : Option Int64 :=
  let (negative, rest) := splitSign (Text.trimStart text)
  let digits := rest.takeWhile Char.isDigit
  if digits.isEmpty ∨ 0x8000000000000000 ≤ natOfDigits digits then none
  else some (Int64.ofInt (if negative then -(natOfDigits digits : Int) else natOfDigits digits))

-- ---------------------------------------------------------------------------
-- Lemmas
-- ---------------------------------------------------------------------------

@[simp] theorem natOfDigits_toDigits (n : Nat) : natOfDigits (Nat.toDigits 10 n) = n :=
  Nat.ofDigitChars_ten_toDigits

/-- A number starts with a digit, a sign or a point. -/
theorem ofText?_cons_eq_none {c : Char} (hdigit : c.isDigit = false) (hc : c ∉ ['-', '+', '.'])
    (rest : List Char) : ofText? (c :: rest) = none := by
  simp only [List.mem_cons, List.not_mem_nil, or_false, not_or] at hc
  obtain ⟨hminus, hplus, hpoint⟩ := hc
  have hsign : splitSign (c :: rest) = (false, c :: rest) := by simp [splitSign, hminus, hplus]
  have hwhole : splitDigits (c :: rest) = ([], c :: rest) := by simp [splitDigits, hdigit]
  have hfraction : splitFraction (c :: rest) = ([], c :: rest) := by simp [splitFraction, hpoint]
  simp [ofText?, hsign, hwhole, hfraction]

end Decimal
end Corkboard
