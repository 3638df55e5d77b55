-- SUMMARY: Scanning a JSON text token by token, and the written form of each token.
import Corkboard.Json.Printer
import Corkboard.Json.Token
import Corkboard.Proofs.Json.Quoted

/-!
# Tokens, written and scanned

Scanning is seen without its fuel: a text scans into some tokens if it does so with any fuel from
its length upwards. Each law below takes one blank or one token off the front.

The written form of a number is the only one that the text behind it could extend.
-/

namespace Corkboard.Json

namespace Token

/-! ## Scanning without fuel -/

/-- The whole text is these tokens, with blanks between them. -/
def Scans (text : List Char) (tokens : List Token) : Prop :=
  ∀ fuel, text.length ≤ fuel → scanUpTo fuel text = some tokens

theorem Scans.scan?_eq {text : List Char} {tokens : List Token} (h : Scans text tokens) :
    scan? text = some tokens :=
  h text.length (Nat.le_refl _)

theorem Scans.nil : Scans [] [] := fun fuel _ => by cases fuel <;> rfl

theorem Scans.space {c : Char} {text : List Char} {tokens : List Token} (hc : isSpace c = true)
    (h : Scans text tokens) : Scans (c :: text) tokens := by
  intro fuel hfuel
  cases fuel with
  | zero => simp at hfuel
  | succ fuel =>
    rw [scanUpTo, if_pos hc]
    exact h fuel (by simpa using hfuel)

/-- A token in front. It must have a character at least. -/
theorem Scans.token {c : Char} {text after : List Char} {token : Token} {tokens : List Token}
    (hc : isSpace c = false) (hnext : next? (c :: text) = some (token, after))
    (hlength : after.length ≤ text.length) (h : Scans after tokens) :
    Scans (c :: text) (token :: tokens) := by
  intro fuel hfuel
  cases fuel with
  | zero => simp at hfuel
  | succ fuel =>
    rw [List.length_cons] at hfuel
    simp [scanUpTo, hc, hnext, h fuel (by omega)]

/-! ## Numbers -/

/-- The text cannot extend a number in front of it. -/
def EndsNumber (text : List Char) : Prop :=
  ∀ c ∈ text.head?, c.isDigit = false ∧ c ≠ '.' ∧ c ≠ 'e' ∧ c ≠ 'E'

theorem endsNumber_nil : EndsNumber [] := by simp [EndsNumber]

theorem endsNumber_cons {c : Char} (text : List Char) (hc : c ∈ [',', ']', '\x7d', '\n']) :
    EndsNumber (c :: text) := by
  intro d hd
  obtain rfl : c = d := by simpa using hd
  simp only [List.mem_cons, List.not_mem_nil, or_false] at hc
  rcases hc with rfl | rfl | rfl | rfl <;> decide

theorem splitDigits_append {digits text : List Char} (hdigits : ∀ c ∈ digits, c.isDigit = true)
    (htext : ∀ c ∈ text.head?, c.isDigit = false) :
    Decimal.splitDigits (digits ++ text) = (digits, text) := by
  have hnone : text.takeWhile Char.isDigit = [] ∧ text.dropWhile Char.isDigit = text := by
    cases text with
    | nil => exact ⟨rfl, rfl⟩
    | cons c rest => simp [htext c rfl]
  rw [Decimal.splitDigits, List.takeWhile_append_of_pos hdigits,
    List.dropWhile_append_of_pos hdigits, hnone.1, hnone.2, List.append_nil]

theorem isDigit_of_mem_toDigits {n : Nat} {c : Char} (hc : c ∈ Nat.toDigits 10 n) :
    c.isDigit = true :=
  Nat.isDigit_of_mem_toDigits (by decide) (by decide) hc

/-- Only zero is written with a zero in front. -/
theorem head?_toDigits_ne_zero {n : Nat} (hn : n ≠ 0) :
    (Nat.toDigits 10 n).head? ≠ some '0' := by
  induction n using Nat.strongRecOn with
  | ind n ih =>
    by_cases hsmall : n < 10
    · have hall : ∀ n < 10, n ≠ 0 → n.digitChar ≠ '0' := by decide
      rw [Nat.toDigits_of_lt_base hsmall]
      simpa using hall n hsmall hn
    · have hhead : (Nat.toDigits 10 (n / 10)).head?.isSome := by
        simp [List.isSome_head?, Nat.toDigits_ne_nil]
      rw [Nat.toDigits_of_base_le (by decide) (by omega), List.head?_append,
        Option.or_of_isSome hhead]
      exact ih (n / 10) (by omega) (by omega)

theorem unsigned?_toDigits (negative : Bool) (n : Nat) {text : List Char}
    (htext : EndsNumber text) :
    unsigned? negative (Nat.toDigits 10 n ++ text) =
      some (numberOf negative (Nat.toDigits 10 n) [] none, text) := by
  have hsplit := splitDigits_append (fun c hc => isDigit_of_mem_toDigits (n := n) hc)
    (fun c hc => (htext c hc).1)
  have hwhole : (Nat.toDigits 10 n).isEmpty = false := by
    simp
  have hlead : ((Nat.toDigits 10 n).head? == some '0' && (Nat.toDigits 10 n).length != 1) =
      false := by
    by_cases hn : n = 0
    · subst hn; decide
    · simp [head?_toDigits_ne_zero hn]
  have hfraction : fraction? text = some ([], text) := by
    cases text with
    | nil => rfl
    | cons c rest => simp [fraction?, (htext c rfl).2.1]
  have hexponent : exponent? text = some (none, text) := by
    cases text with
    | nil => rfl
    | cons c rest => simp [exponent?, (htext c rfl).2.2]
  simp [unsigned?, hsplit, hwhole, hlead, hfraction, hexponent]

/-- Whether a whole number denotes a value: it is in the range of a double. -/
def InRange (i : Int) : Prop :=
  overflows (Nat.toDigits 10 i.natAbs) [] 0 = false

theorem le_ofDigitChars (digits : List Char) (n : Nat) : n ≤ Nat.ofDigitChars 10 digits n := by
  induction digits generalizing n with
  | nil => exact Nat.le_refl n
  | cons digit rest ih =>
    rw [Nat.ofDigitChars_cons]
    have := ih (10 * n + (digit.toNat - '0'.toNat))
    omega

/-- Digits that make a number of 64 bits are all taken. -/
theorem gather_of_lt {digits : List Char} {n : Nat}
    (h : Nat.ofDigitChars 10 digits n < 0x10000000000000000) :
    gather n digits = (Nat.ofDigitChars 10 digits n, 0) := by
  induction digits generalizing n with
  | nil => rfl
  | cons digit rest ih =>
    rw [Nat.ofDigitChars_cons] at h ⊢
    have hmore := Nat.lt_of_le_of_lt (le_ofDigitChars rest _) h
    rw [gather, if_pos hmore, ih h]

/-- A number of 64 bits, with or without sign, is far inside the range. -/
theorem inRange_of_natAbs_lt {i : Int} (hi : i.natAbs < 0x10000000000000000) : InRange i := by
  have hvalue : Nat.ofDigitChars 10 (Nat.toDigits 10 i.natAbs) 0 = i.natAbs :=
    Nat.ofDigitChars_ten_toDigits
  have hwhole : gather 0 (Nat.toDigits 10 i.natAbs) = (i.natAbs, 0) := by
    rw [gather_of_lt (by rwa [hvalue]), hvalue]
  simp [InRange, overflows, hwhole, gather]

theorem numberOf_toDigits (negative : Bool) {n : Nat} (hsign : negative = true → n ≠ 0)
    (hrange : InRange n) :
    numberOf negative (Nat.toDigits 10 n) [] none =
      .integer (if negative then -(n : Int) else n) := by
  have hdigits : Decimal.natOfDigits (Nat.toDigits 10 n) = n := Decimal.natOfDigits_toDigits n
  have hoverflows : overflows (Nat.toDigits 10 n) [] 0 = false := by simpa [InRange] using hrange
  cases negative with
  | false => simp [numberOf, hdigits, hoverflows]
  | true => simp [numberOf, hdigits, hoverflows, hsign rfl]

/-- A digit starts none of the other tokens. -/
theorem next?_digit {c : Char} (hc : c.isDigit = true) (text : List Char) :
    next? (c :: text) =
      (unsigned? false (c :: text)).map fun (value, rest) => (.scalar value, rest) := by
  rw [next?]
  all_goals
    rintro rest ⟨⟩
    exact absurd hc (by decide)

/-- A whole number is read to its last digit. -/
theorem next?_ofInt {i : Int} (hi : InRange i) {text : List Char} (htext : EndsNumber text) :
    next? (Decimal.ofInt i ++ text) = some (.scalar (.integer i), text) := by
  have hrange : InRange (i.natAbs : Int) := by
    rw [InRange, Int.natAbs_natCast]
    exact hi
  by_cases hneg : i < 0
  · have hnumber := numberOf_toDigits true (fun _ => by omega) hrange
    rw [if_pos rfl, show -(i.natAbs : Int) = i by omega] at hnumber
    simp [Decimal.ofInt, hneg, next?, unsigned?_toDigits true _ htext, hnumber]
  · have hnumber := numberOf_toDigits false (fun h => by cases h) hrange
    rw [if_neg (by decide), show (i.natAbs : Int) = i by omega] at hnumber
    have hread := unsigned?_toDigits false i.natAbs htext
    rw [Decimal.ofInt, if_neg hneg]
    cases hdigits : Nat.toDigits 10 i.natAbs with
    | nil => exact absurd hdigits Nat.toDigits_ne_nil
    | cons d rest =>
      have hd : d.isDigit = true :=
        isDigit_of_mem_toDigits (hdigits ▸ List.mem_cons_self ..)
      rw [hdigits] at hread hnumber
      rw [List.cons_append, next?_digit hd, ← List.cons_append, hread, hnumber]
      rfl

/-- The first character of a number is a digit or a minus sign. -/
theorem exists_ofInt_eq_cons (i : Int) :
    ∃ c rest, Decimal.ofInt i = c :: rest ∧ isSpace c = false := by
  by_cases hneg : i < 0
  · exact ⟨'-', _, if_pos hneg, by decide⟩
  · cases hdigits : Nat.toDigits 10 i.natAbs with
    | nil => exact absurd hdigits Nat.toDigits_ne_nil
    | cons d rest =>
      have hd : d.isDigit = true := isDigit_of_mem_toDigits (hdigits ▸ List.mem_cons_self ..)
      have hspace : isSpace d = false := by
        rw [Bool.eq_false_iff]
        intro h
        simp only [isSpace, Bool.or_eq_true, beq_iff_eq] at h
        rcases h with ((rfl | rfl) | rfl) | rfl <;> exact absurd hd (by decide)
      exact ⟨d, rest, by rw [Decimal.ofInt, if_neg hneg, hdigits], hspace⟩

/-! ## Numbers between blanks -/

/-- A blank that may not stand between tokens starts none. -/
theorem next?_blank {c : Char} (hc : Text.isBlank c = true) (hspace : ¬isSpace c = true)
    (text : List Char) : next? (c :: text) = none := by
  have hnumber : unsigned? false (c :: text) = none := by
    simp [unsigned?, Decimal.splitDigits, Text.isDigit_of_isBlank hc]
  rw [next?, hnumber]
  · rfl
  all_goals
    rintro rest ⟨⟩
    exact absurd hc (by decide)

/-- A text that can be scanned behind blanks can be scanned without them. -/
theorem exists_scanUpTo_of_blanks {front text : List Char} {tokens : List Token} {fuel : Nat}
    (hfront : ∀ c ∈ front, Text.isBlank c = true)
    (h : scanUpTo fuel (front ++ text) = some tokens) :
    ∃ fuel, scanUpTo fuel text = some tokens := by
  induction front generalizing fuel with
  | nil => exact ⟨fuel, h⟩
  | cons c rest ih =>
    obtain ⟨hc, hrest⟩ := List.forall_mem_cons.1 hfront
    cases fuel with
    | zero => nomatch h
    | succ fuel =>
      rw [List.cons_append, scanUpTo] at h
      split at h
      case isTrue => exact ih hrest h
      case isFalse hspace =>
        rw [next?_blank hc hspace] at h
        nomatch h

theorem endsNumber_of_blanks {text : List Char} (h : ∀ c ∈ text, Text.isBlank c = true) :
    EndsNumber text := by
  intro c hc
  have hblank := h c (List.mem_of_head? hc)
  have hne {d : Char} (hd : Text.isBlank d = false) : c ≠ d := by
    rintro rfl
    exact absurd hblank (by simp [hd])
  exact ⟨Text.isDigit_of_isBlank hblank, hne (by decide), hne (by decide), hne (by decide)⟩

/-- Blanks around a whole number bring no further token. -/
theorem eq_of_scan?_between {front back : List Char} {i : Int} {tokens : List Token}
    (hfront : ∀ c ∈ front, Text.isBlank c = true) (hback : ∀ c ∈ back, Text.isBlank c = true)
    (hi : InRange i) (h : scan? (front ++ Decimal.ofInt i ++ back) = some tokens) :
    tokens = [.scalar (.integer i)] := by
  rw [scan?, List.append_assoc] at h
  obtain ⟨fuel, h⟩ := exists_scanUpTo_of_blanks hfront h
  have hnext := next?_ofInt hi (endsNumber_of_blanks hback)
  obtain ⟨c, rest, hwritten, hc⟩ := exists_ofInt_eq_cons i
  rw [hwritten, List.cons_append] at h hnext
  cases fuel with
  | zero => nomatch h
  | succ fuel =>
    simp only [scanUpTo, hc, Bool.false_eq_true, if_false, hnext, Option.bind_eq_bind,
      Option.bind_some, Option.bind_eq_some_iff] at h
    obtain ⟨more, hmore, htokens⟩ := h
    rw [← List.append_nil back] at hmore
    obtain ⟨fuel, hmore⟩ := exists_scanUpTo_of_blanks hback hmore
    obtain rfl : [] = more := by simpa [scanUpTo] using hmore
    exact (Option.some.inj htokens).symm

/-! ## Written forms -/

/-- The characters are the written form of the tokens, in front of any text that cannot extend a
    number. -/
def Writes (front : List Char) (tokens : List Token) : Prop :=
  ∀ text more, EndsNumber text → Scans text more → Scans (front ++ text) (tokens ++ more)

/-- The character is a token by itself. -/
def IsMark (c : Char) (token : Token) : Prop :=
  isSpace c = false ∧ ∀ text, next? (c :: text) = some (token, text)

theorem isMark_openBrace : IsMark '\x7b' .openBrace := ⟨by decide, fun _ => rfl⟩

theorem isMark_closeBrace : IsMark '\x7d' .closeBrace := ⟨by decide, fun _ => rfl⟩

theorem isMark_openBracket : IsMark '[' .openBracket := ⟨by decide, fun _ => rfl⟩

theorem isMark_closeBracket : IsMark ']' .closeBracket := ⟨by decide, fun _ => rfl⟩

theorem isMark_comma : IsMark ',' .comma := ⟨by decide, fun _ => rfl⟩

theorem isMark_colon : IsMark ':' .colon := ⟨by decide, fun _ => rfl⟩

section Writes

variable {front back : List Char} {tokens more : List Token}

theorem Writes.scan?_eq (h : Writes front tokens) : scan? front = some tokens := by
  have hscans := h [] [] endsNumber_nil Scans.nil
  rw [List.append_nil, List.append_nil] at hscans
  exact hscans.scan?_eq

theorem writes_nil : Writes [] [] := fun _ _ _ h => h

/-- Blanks in front have no tokens. -/
theorem Writes.space {c : Char} (hc : isSpace c = true) (h : Writes back more) :
    Writes (c :: back) more := fun text others htext hothers =>
  Scans.space hc (h text others htext hothers)

theorem Writes.mark {c : Char} {token : Token} (hc : IsMark c token) (h : Writes back more) :
    Writes (c :: back) (token :: more) := fun text others htext hothers =>
  Scans.token hc.1 (hc.2 _) (Nat.le_refl _) (h text others htext hothers)

theorem Writes.string (s : String) (h : Writes back more) :
    Writes (Quoted.write s ++ back) (.string (some s) :: more) := by
  intro text others htext hothers
  have hread := Quoted.read?_escaped s (back ++ text)
  have hnext : next? ('"' :: (s.toList.flatMap Quoted.escape ++ '"' :: (back ++ text))) =
      some (.string (some s), back ++ text) := by
    simp [next?, hread]
  have hscans := Scans.token (by decide) hnext (by simp; omega) (h text others htext hothers)
  simpa [Quoted.write] using hscans

/-- Written forms stand side by side if the second cannot extend a number. -/
theorem Writes.append (hfront : Writes front tokens) (hback : Writes back more)
    (hne : back ≠ []) (hends : EndsNumber back) : Writes (front ++ back) (tokens ++ more) := by
  intro text others htext hothers
  have hends' : EndsNumber (back ++ text) := by
    cases back with
    | nil => exact absurd rfl hne
    | cons c rest => exact hends
  rw [List.append_assoc, List.append_assoc]
  exact hfront _ _ hends' (hback text others htext hothers)

theorem writes_integer {i : Int} (hi : InRange i) :
    Writes (Decimal.ofInt i) [.scalar (.integer i)] := by
  intro text others htext hothers
  have hnext := next?_ofInt hi htext
  obtain ⟨c, rest, hwritten, hc⟩ := exists_ofInt_eq_cons i
  rw [hwritten] at hnext ⊢
  exact Scans.token hc hnext (by simp) hothers

/-- The words for null and the truth values. -/
theorem writes_word {c : Char} {word : List Char} {token : Token} (hc : isSpace c = false)
    (hword : ∀ text, next? (c :: word ++ text) = some (token, text)) :
    Writes (c :: word) [token] := fun text _ _ hothers =>
  Scans.token hc (hword text) (by simp) hothers

end Writes
end Token
end Corkboard.Json
