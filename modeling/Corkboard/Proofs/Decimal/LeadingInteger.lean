-- SUMMARY: Which texts have an integer in front, and which one it is.
import Corkboard.Proofs.DateSpan.WholeNumber
import Corkboard.Proofs.Decimal.ByBytes

/-!
# The integer in front of a text

A text with an integer in front has five parts: blanks, a sign or none, digits, and whatever does
not go on with a digit. A text has at most one such division, since no sign is a blank and no digit
is a sign. The digits alone must be in the range of 64 bits, and then so is the number with its
sign.
-/

namespace Corkboard.Decimal

/-! ## The parts of the text -/

/-- The text is made of blanks, a sign or none, at least one digit, and a rest that does not go on
    with a digit. -/
structure LedBy (text blanks sign digits rest : List Char) : Prop where
  text_eq : text = blanks ++ (sign ++ (digits ++ rest))
  blanks_blank : ∀ c ∈ blanks, Text.isBlank c = true
  sign_mem : sign ∈ [[], ['+'], ['-']]
  digits_ne_nil : digits ≠ []
  digits_digit : ∀ c ∈ digits, c.isDigit = true
  rest_no_digit : ∀ c ∈ rest.head?, c.isDigit = false

/-- The number of these digits with this sign. -/
def signedValue (sign digits : List Char) : Int :=
  if sign = ['-'] then -(natOfDigits digits : Int) else natOfDigits digits

theorem toInt_ofInt_signedValue {digits : List Char}
    (h : natOfDigits digits ≤ 9223372036854775807) (sign : List Char) :
    (Int64.ofInt (signedValue sign digits)).toInt = signedValue sign digits := by
  rw [signedValue]
  split
  · exact Int64.toInt_ofInt_of_le (by omega) (by omega)
  · exact Int64.toInt_ofInt_of_le (by omega) (by omega)

theorem exists_sign (text : List Char) :
    ∃ sign ∈ [[], ['+'], ['-']], text = sign ++ (splitSign text).2 := by
  fun_cases splitSign text with
  | case1 rest => exact ⟨['-'], by simp, rfl⟩
  | case2 rest => exact ⟨['+'], by simp, rfl⟩
  | case3 => exact ⟨[], by simp, rfl⟩

namespace LedBy

variable {text blanks sign digits rest : List Char} (h : LedBy text blanks sign digits rest)
include h

theorem sign_cases : sign = [] ∨ sign = ['+'] ∨ sign = ['-'] := by
  simpa using h.sign_mem

theorem trimStart_eq : Text.trimStart text = sign ++ (digits ++ rest) := by
  rw [h.text_eq, Text.trimStart_append_of_blanks h.blanks_blank]
  apply Text.trimStart_of_head
  obtain ⟨d, more, rfl⟩ := List.exists_cons_of_ne_nil h.digits_ne_nil
  have hd := Text.isBlank_of_isDigit (h.digits_digit d (List.mem_cons_self ..))
  rcases h.sign_cases with rfl | rfl | rfl
  · simpa using hd
  · simp [show Text.isBlank '+' = false by decide]
  · simp [show Text.isBlank '-' = false by decide]

theorem splitSign_eq :
    splitSign (Text.trimStart text) = (decide (sign = ['-']), digits ++ rest) := by
  obtain ⟨d, more, rfl⟩ := List.exists_cons_of_ne_nil h.digits_ne_nil
  have hd := h.digits_digit d (List.mem_cons_self ..)
  rw [h.trimStart_eq]
  rcases h.sign_cases with rfl | rfl | rfl
  · simp [splitSign_cons_of_isDigit hd]
  · rfl
  · rfl

theorem takeWhile_eq : (digits ++ rest).takeWhile Char.isDigit = digits :=
  congrArg Prod.fst (Json.Token.splitDigits_append h.digits_digit h.rest_no_digit)

theorem leadingInteger?_eq :
    leadingInteger? text =
      if natOfDigits digits ≤ 9223372036854775807 then some (Int64.ofInt (signedValue sign digits))
      else none := by
  have hdigits : digits.isEmpty = false := by simpa using h.digits_ne_nil
  simp only [leadingInteger?, h.splitSign_eq, h.takeWhile_eq, hdigits, Bool.false_eq_true, false_or,
    decide_eq_true_eq]
  rcases Nat.lt_or_ge 9223372036854775807 (natOfDigits digits) with hlarge | hsmall
  · rw [if_pos (by omega), if_neg (by omega)]
  · rw [if_neg (by omega), if_pos hsmall, signedValue]

end LedBy

theorem exists_ledBy {text : List Char} {k : Int64} (h : leadingInteger? text = some k) :
    ∃ blanks sign digits rest, LedBy text blanks sign digits rest := by
  obtain ⟨sign, hsign, htrimmed⟩ := exists_sign (Text.trimStart text)
  let unsigned := (splitSign (Text.trimStart text)).2
  have hdigits : unsigned.takeWhile Char.isDigit ≠ [] := by
    intro hnone
    simp [leadingInteger?, unsigned, hnone] at h
  exact ⟨text.takeWhile Text.isBlank, sign, unsigned.takeWhile Char.isDigit,
    unsigned.dropWhile Char.isDigit, {
      text_eq := by
        rw [List.takeWhile_append_dropWhile, ← htrimmed]
        exact List.takeWhile_append_dropWhile.symm
      blanks_blank := fun c hc => List.all_eq_true.1 List.all_takeWhile c hc
      sign_mem := hsign
      digits_ne_nil := hdigits
      digits_digit := fun c hc => List.all_eq_true.1 List.all_takeWhile c hc
      rest_no_digit := fun c hc => by
        have hnot := List.head?_dropWhile_not Char.isDigit unsigned
        rw [Option.mem_def.1 hc] at hnot
        simpa using hnot }⟩

theorem leadingInteger?_eq_some_iff {text : List Char} {k : Int64} :
    leadingInteger? text = some k ↔
      ∃ blanks sign digits rest, LedBy text blanks sign digits rest ∧
        natOfDigits digits ≤ 9223372036854775807 ∧ k.toInt = signedValue sign digits := by
  constructor
  · intro hread
    obtain ⟨blanks, sign, digits, rest, h⟩ := exists_ledBy hread
    rw [h.leadingInteger?_eq] at hread
    split at hread
    case isTrue hrange =>
      obtain rfl := Option.some.inj hread
      exact ⟨blanks, sign, digits, rest, h, hrange, toInt_ofInt_signedValue hrange sign⟩
    case isFalse => nomatch hread
  · rintro ⟨blanks, sign, digits, rest, h, hrange, hvalue⟩
    rw [h.leadingInteger?_eq, if_pos hrange, ← hvalue, Int64.ofInt_toInt]

/-! ## All texts -/

/-- A text has an integer in front exactly if it is made of blanks, a sign or none, digits whose
    number is in the range of 64 bits, and a rest that does not go on with a digit. It is the number
    of the digits with this sign. Reading it by bytes cuts no character and leaves no range. Of the
    decimal texts of integers all are read back but that of the least one. -/
theorem leading_integer_read_exactly :
    (∀ (s : String) (k : Int64), leadingInteger? s.toList = some k ↔
      ∃ blanks sign digits rest, LedBy s.toList blanks sign digits rest ∧
        natOfDigits digits ≤ 9223372036854775807 ∧ k.toInt = signedValue sign digits) ∧
      (∀ s : String, leadingIntegerByBytes? s = some (leadingInteger? s.toList)) ∧
      ∀ i : Int64, leadingInteger? (ofInt i.toInt) = some i ↔ i ≠ Int64.minValue := by
  refine ⟨fun s k => leadingInteger?_eq_some_iff, leadingIntegerByBytes?_eq, fun i => ?_⟩
  constructor
  · rintro h rfl
    exact absurd h (by decide)
  · exact leadingInteger?_ofInt

end Corkboard.Decimal
