-- SUMMARY: Reading the integer in front of a text by its bytes, where cuts and products may fail, and that they never do.
import Corkboard.Decimal

/-!
# The integer in front of a text, by bytes

A text is stored as the bytes of its characters. A cut at a byte inside a character fails, and so
does a product that is no integer of 64 bits. The reader of this module looks at bytes, and does
what may fail in this way. It never does fail, and it reads what the reader of characters reads. The
byte of a sign is no part of a longer character, digits end where a character does, and the product
with a sign is as near to zero as the number itself.
-/

namespace Corkboard.Decimal

/-! ## The reader by bytes -/

/-- The text in front of a byte, if a character ends there. -/
def upToByte? (s : String) (n : Nat) : Option String :=
  if h : (String.Pos.Raw.mk n).IsValid s then
    some (.ofByteArray (s.toByteArray.extract 0 n) h.isValidUTF8_extract_zero)
  else none

/-- The text from a byte on, if a character begins there. -/
def fromByte? (s : String) (n : Nat) : Option String :=
  if h : (String.Pos.Raw.mk n).IsValid s then
    some (.ofByteArray (s.toByteArray.extract n s.utf8ByteSize) h.isValidUTF8_extract_utf8ByteSize)
  else none

/-- The sign of the first byte, where that is the byte of a sign: `true` is minus. -/
def signByte? (s : String) : Option Bool :=
  let first := s.toByteArray.data[0]?
  if first = some 0x2D then some true else if first = some 0x2B then some false else none

/-- The sign as a factor, and the text behind it. -/
def afterSign? (s : String) : Option (Int × String) :=
  match signByte? s with
  | some negative => (fromByte? s 1).map fun rest => (if negative then -1 else 1, rest)
  | none => some (1, s)

/-- An integer of 64 bits, unless the value is out of range. -/
def int64? (i : Int) : Option Int64 :=
  if -0x8000000000000000 ≤ i ∧ i < 0x8000000000000000 then some (Int64.ofInt i) else none

/-- The number of the digits in front of a text, as many as there are, times its sign. There is none
    without a digit, or where the digits leave the range. A cut inside a character is a failure, and
    so is a product that leaves the range. -/
def signedDigits? (sign : Int) (unsigned : String) : Option (Option Int64) :=
  let stop := (String.ofList (unsigned.toList.takeWhile Char.isDigit)).utf8ByteSize
  (upToByte? unsigned stop).bind fun digits =>
    if digits.isEmpty then some none
    else
      match int64? (natOfDigits digits.toList) with
      | none => some none
      | some n => (int64? (sign * n.toInt)).map some

/-- Reads the integer in front of a text by its bytes. -/
def leadingIntegerByBytes? (s : String) : Option (Option Int64) :=
  (afterSign? (String.ofList (Text.trimStart s.toList))).bind fun parts =>
    signedDigits? parts.1 parts.2

/-! ## Cuts -/

theorem isValid_append (front back : String) :
    (String.Pos.Raw.mk front.utf8ByteSize).IsValid (front ++ back) :=
  String.Pos.Raw.isValid_iff_exists_append.2 ⟨front, back, rfl, rfl⟩

theorem upToByte?_append (front back : String) :
    upToByte? (front ++ back) front.utf8ByteSize = some front := by
  have hbytes : (front ++ back).toByteArray.extract 0 front.utf8ByteSize = front.toByteArray := by
    rw [String.toByteArray_append, ByteArray.extract_append_eq_left (String.size_toByteArray).symm]
  rw [upToByte?, dif_pos (isValid_append front back), Option.some_inj, ← String.toByteArray_inj]
  exact hbytes

theorem fromByte?_append (front back : String) :
    fromByte? (front ++ back) front.utf8ByteSize = some back := by
  have hbytes : (front ++ back).toByteArray.extract front.utf8ByteSize
      (front ++ back).utf8ByteSize = back.toByteArray := by
    rw [String.toByteArray_append, ByteArray.extract_append_eq_right (String.size_toByteArray).symm
      (by simp)]
  rw [fromByte?, dif_pos (isValid_append front back), Option.some_inj, ← String.toByteArray_inj]
  exact hbytes

theorem upToByte?_takeWhile (text : List Char) (p : Char → Bool) :
    upToByte? (String.ofList text) (String.ofList (text.takeWhile p)).utf8ByteSize =
      some (String.ofList (text.takeWhile p)) := by
  have hcut := upToByte?_append (String.ofList (text.takeWhile p))
    (String.ofList (text.dropWhile p))
  rwa [← String.ofList_append, List.takeWhile_append_dropWhile] at hcut

theorem fromByte?_one {c : Char} (hc : c.utf8Size = 1) (rest : List Char) :
    fromByte? (String.ofList (c :: rest)) 1 = some (String.ofList rest) := by
  have hcut := fromByte?_append (String.ofList [c]) (String.ofList rest)
  have hsize : (String.ofList [c]).utf8ByteSize = 1 := by simp [hc]
  rwa [hsize, ← String.ofList_append] at hcut

/-! ## Signs -/

/-- A byte below 128 is a character by itself. -/
theorem toNat_eq_of_head?_utf8EncodeChar {c : Char} {b : UInt8} (hb : b.toNat < 0x80)
    (h : (String.utf8EncodeChar c).head? = some b) : c.toNat = b.toNat := by
  simp only [String.utf8EncodeChar] at h
  split at h
  case isTrue hsmall =>
    obtain rfl := Option.some.inj h
    simp at hsmall ⊢
    omega
  case isFalse =>
    -- Each longer form starts with a byte from 0xc0 on.
    have hlarge : 0xc0 ≤ b.toNat := by
      split at h
      case' isFalse => split at h
      all_goals
        obtain rfl := Option.some.inj h
        simp
        omega
    omega

theorem getElem?_zero_toByteArray (c : Char) (rest : List Char) :
    (String.ofList (c :: rest)).toByteArray.data[0]? = (String.utf8EncodeChar c).head? := by
  have hne : (String.utf8EncodeChar c).head?.isSome := by
    simp [List.isSome_head?]
  rw [String.toByteArray_ofList, List.utf8Encode, List.data_toByteArray, List.getElem?_toArray,
    List.flatMap_cons, ← List.head?_eq_getElem?, List.head?_append, Option.or_of_isSome hne]

theorem signByte?_cons (c : Char) (rest : List Char) :
    signByte? (String.ofList (c :: rest)) =
      if c = '-' then some true else if c = '+' then some false else none := by
  have hfirst {d : Char} {b : UInt8} (hd : (String.utf8EncodeChar d).head? = some b)
      (hb : b.toNat < 0x80) : (String.utf8EncodeChar c).head? = some b ↔ c = d := by
    refine ⟨fun h => ?_, fun h => h ▸ hd⟩
    have hc := toNat_eq_of_head?_utf8EncodeChar hb h
    rw [← toNat_eq_of_head?_utf8EncodeChar hb hd] at hc
    exact Char.toNat_inj.1 hc
  have hminus := hfirst (d := '-') (b := 0x2D) rfl (by decide)
  have hplus := hfirst (d := '+') (b := 0x2B) rfl (by decide)
  simp only [signByte?, getElem?_zero_toByteArray, hminus, hplus]

theorem afterSign?_ofList (text : List Char) :
    afterSign? (String.ofList text) =
      some (if (splitSign text).1 then -1 else 1, String.ofList (splitSign text).2) := by
  fun_cases splitSign text with
  | case1 rest =>
    rw [afterSign?, signByte?_cons, if_pos rfl, fromByte?_one rfl]
    rfl
  | case2 rest =>
    rw [afterSign?, signByte?_cons, if_neg (by decide), if_pos rfl, fromByte?_one rfl]
    rfl
  | case3 _ hminus hplus =>
    have hnone : signByte? (String.ofList text) = none := by
      cases text with
      | nil => rfl
      | cons c rest =>
        have hc : c ≠ '-' := fun h => hminus rest (h ▸ rfl)
        have hc' : c ≠ '+' := fun h => hplus rest (h ▸ rfl)
        rw [signByte?_cons, if_neg hc, if_neg hc']
    rw [afterSign?, hnone]
    rfl

/-! ## Digits -/

theorem int64?_eq_some {i : Int} (hlow : -0x8000000000000000 ≤ i) (hhigh : i < 0x8000000000000000) :
    int64? i = some (Int64.ofInt i) :=
  if_pos ⟨hlow, hhigh⟩

theorem signedDigits?_ofList (negative : Bool) (unsigned : List Char) :
    let digits := unsigned.takeWhile Char.isDigit
    let value : Int := if negative then -(natOfDigits digits : Int) else natOfDigits digits
    signedDigits? (if negative then -1 else 1) (String.ofList unsigned) =
      some (if digits.isEmpty ∨ 0x8000000000000000 ≤ natOfDigits digits then none
        else some (Int64.ofInt value)) := by
  intro digits value
  have hcut : upToByte? (String.ofList unsigned) (String.ofList digits).utf8ByteSize =
      some (String.ofList digits) :=
    upToByte?_takeWhile unsigned Char.isDigit
  rw [signedDigits?, String.toList_ofList, hcut, Option.bind_some, String.toList_ofList]
  by_cases hnone : digits = []
  · simp [hnone]
  · have hset : (String.ofList digits).isEmpty = false := by simp [hnone]
    have hset' : digits.isEmpty = false := by simp [hnone]
    rw [hset, if_neg Bool.false_ne_true, hset']
    rcases Nat.lt_or_ge (natOfDigits digits) 0x8000000000000000 with hsmall | hlarge
    · have hread : int64? (natOfDigits digits) = some (Int64.ofInt (natOfDigits digits)) :=
        int64?_eq_some (by omega) (by omega)
      have hn : (Int64.ofInt (natOfDigits digits)).toInt = natOfDigits digits :=
        Int64.toInt_ofInt_of_le (by omega) (by omega)
      have hproduct : (if negative then -1 else 1) * (natOfDigits digits : Int) = value := by
        cases negative <;> simp [value]
      have hsigned : int64? value = some (Int64.ofInt value) := by
        apply int64?_eq_some <;> simp only [value] <;> split <;> omega
      have hkept : ¬(false = true ∨ 0x8000000000000000 ≤ natOfDigits digits) := by
        simpa using hsmall
      rw [hread, if_neg hkept]
      simp only [hn, hproduct, hsigned, Option.map_some]
    · have hread : int64? (natOfDigits digits) = none := if_neg (by omega)
      have hrefused : false = true ∨ 0x8000000000000000 ≤ natOfDigits digits := .inr hlarge
      rw [hread, if_pos hrefused]

/-- Reading by bytes never fails, and reads the same integer. -/
theorem leadingIntegerByBytes?_eq (s : String) :
    leadingIntegerByBytes? s = some (leadingInteger? s.toList) := by
  rw [leadingIntegerByBytes?, afterSign?_ofList, Option.bind_some, signedDigits?_ofList]
  rfl

end Corkboard.Decimal
