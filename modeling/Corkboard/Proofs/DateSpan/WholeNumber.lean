-- SUMMARY: The decimal text of a whole number is read back as this number: by the reader of stored dates, and as the integer in front of a filter value.
import Corkboard.Proofs.DateSpan.RoundTrip

/-!
# Whole numbers, written and read back

A time is written in decimal digits, and what reads it again is one of two readers. The reader of
stored dates goes through the nearest double, which has 53 binary digits, and refuses a number that
is too far from 1970. The limit lies below `2 ^ 53`, so no number that passes it is rounded, and no
rounding brings a number back below it. Blanks around the number do not matter, not even those that
JSON does not know: what is refused as a number is tried as JSON, and there a number is no object in
any case.

The reader of filter values counts digits only. It applies the sign at the end, so the least integer
of 64 bits, whose digits alone are too large, is lost.
-/

namespace Corkboard

namespace Decimal

open Json.Token (isDigit_of_mem_toDigits)

/-! ## Parts of the text -/

theorem isBlank_of_mem_ofInt {i : Int} {c : Char} (h : c ∈ ofInt i) : Text.isBlank c = false := by
  have hdigits : c ∈ Nat.toDigits 10 i.natAbs → Text.isBlank c = false := fun h =>
    Text.isBlank_of_isDigit (isDigit_of_mem_toDigits h)
  rw [ofInt] at h
  split at h
  · rcases List.mem_cons.1 h with rfl | h
    · decide
    · exact hdigits h
  · exact hdigits h

theorem isEmpty_ofInt (i : Int) : (ofInt i).isEmpty = false := by
  obtain ⟨c, rest, hwritten, -⟩ := Json.Token.exists_ofInt_eq_cons i
  rw [hwritten]
  rfl

theorem splitSign_cons_of_isDigit {d : Char} (hd : d.isDigit = true) (rest : List Char) :
    splitSign (d :: rest) = (false, d :: rest) := by
  have hminus : d ≠ '-' := by
    rintro rfl
    exact absurd hd (by decide)
  have hplus : d ≠ '+' := by
    rintro rfl
    exact absurd hd (by decide)
  simp [splitSign, hminus, hplus]

theorem splitSign_ofInt (i : Int) :
    splitSign (ofInt i) = (decide (i < 0), Nat.toDigits 10 i.natAbs) := by
  rw [ofInt]
  split
  case isTrue h => simp [splitSign, h]
  case isFalse h =>
    obtain ⟨d, rest, hdigits⟩ := List.exists_cons_of_ne_nil (Nat.toDigits_ne_nil (n := i.natAbs))
    have hd : d.isDigit = true := isDigit_of_mem_toDigits (hdigits ▸ List.mem_cons_self ..)
    rw [hdigits, splitSign_cons_of_isDigit hd, decide_eq_false h]

theorem splitDigits_toDigits (n : Nat) :
    splitDigits (Nat.toDigits 10 n) = (Nat.toDigits 10 n, []) := by
  have hdigits : ∀ c ∈ Nat.toDigits 10 n, c.isDigit = true := fun _ => isDigit_of_mem_toDigits
  have hnone : ∀ c ∈ ([] : List Char).head?, c.isDigit = false := by simp
  simpa using Json.Token.splitDigits_append hdigits hnone

/-- A sign in front of the digits makes the integer again. -/
theorem signed_natAbs (i : Int) : (if i < 0 then -(i.natAbs : Int) else i.natAbs) = i := by
  split <;> omega

/-! ## As a number -/

theorem ofText?_ofInt (i : Int) : ofText? (ofInt i) = some ⟨decide (i < 0), i.natAbs, 0⟩ := by
  have hdigits : (Nat.toDigits 10 i.natAbs).isEmpty = false := by simp
  simp [ofText?, splitSign_ofInt, splitDigits_toDigits, splitFraction, exponentOf?, hdigits]

/-- A double keeps every whole number below `2 ^ 53` as it is. From there on no double is under a
    limit below. -/
theorem truncatedRatio?_one (n : Nat) {limit : Nat} (hlimit : limit < Nat.pow 2 53) :
    truncatedRatio? limit n 1 = if n ≤ limit then some n else none := by
  have hscale : 0 < Nat.pow 2 (binaryPlaces n) := Nat.pow_pos (by decide)
  have hrounded (m : Nat) : roundHalfEven m 1 = m := by simp [roundHalfEven, Nat.mod_one]
  have hrefused : limit * Nat.pow 2 (binaryPlaces n) < n * Nat.pow 2 (binaryPlaces n) ↔
      limit < n :=
    Nat.mul_lt_mul_right hscale
  simp only [truncatedRatio?, Nat.div_one, hrounded, hrefused, Nat.mul_div_cancel n hscale]
  rcases Nat.lt_or_ge n (Nat.pow 2 53) with hn | hn
  · rw [if_neg (Nat.not_le.2 hn)]
    split
    case isTrue h => rw [if_neg (Nat.not_le.2 h)]
    case isFalse h => rw [if_pos (Nat.not_lt.1 h)]
  · rw [if_pos hn, if_neg (by omega)]

theorem truncated?_whole (negative : Bool) (n : Nat) {limit : Nat}
    (hlimit : limit < Nat.pow 2 53) :
    (Decimal.mk negative n 0).truncated? limit = if n ≤ limit then some n else none := by
  have hmagnitude : (Decimal.mk negative n 0).magnitude = (Nat.toDigits 10 n).length := by
    simp [magnitude]
  have hratio : (Decimal.mk negative n 0).ratio = (n, 1) := by simp [ratio]
  rw [truncated?, hmagnitude, hratio]
  split
  case isTrue hzero =>
    have hn : n = 0 := hzero
    rw [hn, if_pos (Nat.zero_le limit)]
  case isFalse =>
    split
    case isTrue hlong =>
      have hlarge : ¬n < 10 ^ 17 := by
        rw [← Nat.length_toDigits_le_iff (by decide) (by decide)]
        omega
      have hbound : Nat.pow 2 53 < 10 ^ 17 := by decide
      rw [if_neg (by omega)]
    case isFalse =>
      rw [if_neg (by omega)]
      exact truncatedRatio?_one n hlimit

/-! ## As the integer in front of a text -/

/-- Every integer of 64 bits but the least one is the leading integer of its decimal text. -/
theorem leadingInteger?_ofInt {i : Int64} (hi : i ≠ Int64.minValue) :
    leadingInteger? (ofInt i.toInt) = some i := by
  have hlow := i.le_toInt
  have hhigh := i.toInt_lt
  have hmin : i.toInt ≠ -0x8000000000000000 := fun h => hi (Int64.toInt_inj.1 h)
  have htrim : Text.trimStart (ofInt i.toInt) = ofInt i.toInt :=
    Text.trimStart_of_head fun c hc => isBlank_of_mem_ofInt (List.mem_of_head? hc)
  have hdigits : (Nat.toDigits 10 i.toInt.natAbs).takeWhile Char.isDigit =
      Nat.toDigits 10 i.toInt.natAbs :=
    congrArg Prod.fst (splitDigits_toDigits i.toInt.natAbs)
  have hrange : ¬((Nat.toDigits 10 i.toInt.natAbs).isEmpty = true ∨
      0x8000000000000000 ≤ i.toInt.natAbs) := by
    simp
    omega
  simp only [leadingInteger?, htrim, splitSign_ofInt, hdigits, natOfDigits_toDigits, if_neg hrange,
    decide_eq_true_eq, signed_natAbs, Int64.ofInt_toInt]

end Decimal

namespace DateSpan

/-! ## As a stored date -/

/-- An integer, with or without blanks around it, is a moment unless it is too far away. -/
theorem millis?_of_trim {text : List Char} {i : Int64}
    (htext : Text.trim text = Decimal.ofInt i.toInt) :
    millis? text = if i.toInt.natAbs ≤ farthest then some i else none := by
  have hread := Decimal.truncated?_whole (decide (i.toInt < 0)) i.toInt.natAbs
    (show farthest < Nat.pow 2 53 by decide)
  simp only [millis?, htext, Decimal.isEmpty_ofInt, Bool.false_eq_true, if_false,
    Decimal.ofText?_ofInt, Option.bind_eq_bind, Option.bind_some, hread]
  split
  case isTrue =>
    simp only [Option.bind_some, Option.pure_def, decide_eq_true_eq, Decimal.signed_natAbs,
      Int64.ofInt_toInt]
  case isFalse => rfl

section Between

variable (i : Int64) {front back : List Char} (hfront : ∀ c ∈ front, Text.isBlank c = true)
  (hback : ∀ c ∈ back, Text.isBlank c = true)
include hfront hback

/-- An integer is no object. -/
theorem ofText?_between_eq_none :
    ofJson.ofText? (String.ofList (front ++ Decimal.ofInt i.toInt ++ back)) = none := by
  have hlow := i.le_toInt
  have hhigh := i.toInt_lt
  have hrange : Json.Token.InRange i.toInt := Json.Token.inRange_of_natAbs_lt (by omega)
  rw [Decoder.ofText?, Json.ofText?, String.toList_ofList]
  cases hscan : Json.Token.scan? (front ++ Decimal.ofInt i.toInt ++ back) with
  | none => rfl
  | some tokens =>
    obtain rfl := Json.Token.eq_of_scan?_between hfront hback hrange hscan
    rfl

/-- The decimal text of an integer is a stored moment, also between blanks. Where the number is too
    far away it is tried as an object, which it is not, so that nothing is read. -/
theorem parse_between :
    parse (String.ofList (front ++ Decimal.ofInt i.toInt ++ back)) =
      if i.toInt.natAbs ≤ farthest then instant i else empty := by
  have hwritten : Decimal.ofInt i.toInt ≠ [] := by
    simpa [List.isEmpty_iff] using Decimal.isEmpty_ofInt i.toInt
  have htrim : Text.trim (front ++ Decimal.ofInt i.toInt ++ back) = Decimal.ofInt i.toInt :=
    Text.trim_between hfront hback
      (fun c hc => Decimal.isBlank_of_mem_ofInt (List.mem_of_head? hc))
      (fun c hc => Decimal.isBlank_of_mem_ofInt (List.mem_of_getLast? hc)) hwritten
  have hnonempty : (String.ofList (front ++ Decimal.ofInt i.toInt ++ back)).isEmpty = false := by
    simp [hwritten]
  rw [parse, read?, hnonempty, if_neg Bool.false_ne_true, String.toList_ofList,
    millis?_of_trim htrim, ofText?_between_eq_none i hfront hback]
  rcases Nat.lt_or_ge farthest i.toInt.natAbs with hfar | hnear
  · simp [Nat.not_le.2 hfar]
  · simp [hnear]

end Between

theorem parse_ofInt (i : Int64) :
    parse (String.ofList (Decimal.ofInt i.toInt)) =
      if i.toInt.natAbs ≤ farthest then instant i else empty := by
  have hnone : ∀ c ∈ ([] : List Char), Text.isBlank c = true := by simp
  simpa using parse_between i hnone hnone

/-- The decimal text of an integer, with any blanks around it, is read as the moment that it says
    exactly if it is not further from 1970 than a date can be, and as the empty date otherwise. -/
theorem whole_number_read_iff_near (i : Int64) {front back : List Char}
    (hfront : ∀ c ∈ front, Text.isBlank c = true) (hback : ∀ c ∈ back, Text.isBlank c = true) :
    let text := String.ofList (front ++ Decimal.ofInt i.toInt ++ back)
    (parse text = instant i ↔ i.toInt.natAbs ≤ 8640000000000000) ∧
      (8640000000000000 < i.toInt.natAbs → parse text = empty) := by
  intro text
  have hread : parse text = if i.toInt.natAbs ≤ 8640000000000000 then instant i else empty :=
    parse_between i hfront hback
  have hmoment : empty ≠ instant i := by simp [empty, instant]
  rw [hread]
  constructor
  · split
    case isTrue hnear => exact iff_of_true rfl hnear
    case isFalse hfar => exact iff_of_false hmoment hfar
  · intro hfar
    rw [if_neg (Nat.not_le.2 hfar)]

/-- The earliest date that can be stored, between two blanks that JSON does not know, and the first
    number behind the latest date. -/
theorem whole_number_read_iff_near_at_limit :
    parse "\u00a0-8640000000000000\u3000" = instant (-8640000000000000) ∧
      parse "\n8640000000000001 " = empty := by
  have hblank {c : Char} (hc : Text.isBlank c = true) : ∀ b ∈ [c], Text.isBlank b = true :=
    List.forall_mem_singleton.2 hc
  have hearliest := whole_number_read_iff_near (-8640000000000000)
    (hblank (c := '\u00a0') (by decide)) (hblank (c := '\u3000') (by decide))
  have hlate := whole_number_read_iff_near 8640000000000001
    (hblank (c := '\n') (by decide)) (hblank (c := ' ') (by decide))
  exact ⟨hearliest.1.2 (by decide), hlate.2 (by decide)⟩

end DateSpan
end Corkboard
