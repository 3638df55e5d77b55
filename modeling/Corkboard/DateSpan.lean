-- SUMMARY: Dates as cards store them: a moment or a span, read from a number or from an object.
import Corkboard.Json.Text

/-!
# Dates

A date property holds one moment or a span between two moments, in milliseconds since 1970. A
stored date is either the bare number of a moment or a JSON object. A bound of zero counts as
no bound.

Reading never fails. A text that is neither a number nor an object of the right form is the
empty date.
-/

namespace Corkboard

/-- A moment or a span. A moment has only `first`. -/
structure DateSpan where
  first : Option Int64
  last : Option Int64
  includeTime : Option Bool
  timeZone : Option String
  deriving DecidableEq

namespace DateSpan

/-- The date without bounds. -/
def empty : DateSpan := ⟨none, none, none, none⟩

/-- One moment. -/
def instant (millis : Int64) : DateSpan := { empty with first := some millis }

/-- The span between two moments. -/
def range (first last : Int64) : DateSpan := { empty with first := some first, last := some last }

-- ---------------------------------------------------------------------------
-- Bounds
-- ---------------------------------------------------------------------------

/-- The bound, unless it is zero. -/
def nonzero (bound : Option Int64) : Option Int64 :=
  bound.filter (· != 0)

/-- The bound at the start. -/
def start? (d : DateSpan) : Option Int64 := nonzero d.first

/-- The bound at the end. -/
def stop? (d : DateSpan) : Option Int64 := nonzero d.last

/-- Whether the date has both bounds. -/
def isRange (d : DateSpan) : Bool := d.start?.isSome && d.stop?.isSome

/-- Whether the date has no bound. -/
def isEmpty (d : DateSpan) : Bool := d.start?.isNone && d.stop?.isNone

-- ---------------------------------------------------------------------------
-- Written form
-- ---------------------------------------------------------------------------

def fieldNames : List String := ["from", "to", "includeTime", "timeZone"]

def toJson (d : DateSpan) : Json :=
  .ofFields fieldNames
    [d.first.map fun i => .integer i.toInt, d.last.map fun i => .integer i.toInt,
      d.includeTime.map .bool, d.timeZone.map .string]

def ofJson : Decoder DateSpan :=
  .record fieldNames fun n fields =>
    match fields with
    | [first, last, includeTime, timeZone] => do
      return {
        first := ← Decoder.int64.optional n first
        last := ← Decoder.int64.optional n last
        includeTime := ← Decoder.bool.optional n includeTime
        timeZone := ← Decoder.string.optional n timeZone }
    | _ => none

/-- The text a card stores: empty for an empty date, and an object otherwise. -/
def stored (d : DateSpan) : String :=
  if d.isEmpty then "" else d.toJson.compact

-- ---------------------------------------------------------------------------
-- Reading
-- ---------------------------------------------------------------------------

/-- The largest distance from 1970 that a date can have, in milliseconds. -/
def farthest : Nat := 8640000000000000

/-- The moment of a bare number. Blanks may stand around it, and blanks alone are zero. The
    number is read as a double, and its fraction is cut off. -/
def millis? (text : List Char) : Option Int64 :=
  let number := Text.trim text
  if number.isEmpty then some 0
  else do
    let d ← Decimal.ofText? number
    let m ← d.truncated? farthest
    return Int64.ofInt (if d.negative then -(m : Int) else m)

/-- Reads a text that may be a stored date. -/
def read? (text : String) : Option DateSpan :=
  if text.isEmpty then some empty
  else
    match millis? text.toList with
    | some millis => some (instant millis)
    | none => ofJson.ofText? text

/-- Reads a stored date. -/
def parse (text : String) : DateSpan := (read? text).getD empty

end DateSpan
end Corkboard
