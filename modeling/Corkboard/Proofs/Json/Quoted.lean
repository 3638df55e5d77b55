-- SUMMARY: A text written between quotes is read back as it was, whatever characters it has.
import Corkboard.Json.Quoted

/-!
# Quoted texts, written and read back

Each character is written as one piece: as it stands, as a short escape, or as a 16-bit unit. No
written unit is a surrogate, so the pieces can be turned into characters one at a time.
-/

namespace Corkboard.Json.Quoted

/-! ## Pieces -/

/-- The piece stands for the character, whatever pieces follow. -/
def Piece.StandsFor (p : Piece) (c : Char) : Prop :=
  ∀ more, chars? (p :: more) = (chars? more).map (c :: ·)

theorem Piece.standsFor_char (c : Char) : (Piece.char c).StandsFor c := fun _ => rfl

/-- A unit below the surrogates never joins with the unit after it. -/
theorem Piece.standsFor_unit {c : Char} (hc : c.toNat < 0xD800) :
    (Piece.unit c.toNat).StandsFor c := by
  have hhigh : isHigh c.toNat = false := by simp [isHigh]; omega
  have hlow : isLow c.toNat = false := by simp [isLow]; omega
  intro more
  cases more with
  | nil => simp [chars?, hhigh, hlow]
  | cons next rest =>
    cases next with
    | char d => simp [chars?, hhigh, hlow]
    | unit v => simp [chars?, hhigh, hlow]

/-! ## Characters -/

theorem hexDigit?_hexDigit {n : Nat} (hn : n < 16) : hexDigit? (hexDigit n) = some n := by
  have hall : ∀ n < 16, hexDigit? (hexDigit n) = some n := by decide
  exact hall n hn

/-- Two digits name a unit below 256. -/
theorem unit?_hexDigits {n : Nat} (hn : n < 0x100) :
    unit? '0' '0' (hexDigit (n / 16)) (hexDigit (n % 16)) = some n := by
  have hzero : hexDigit? '0' = some 0 := by decide
  have hfirst := hexDigit?_hexDigit (n := n / 16) (by omega)
  have hsecond := hexDigit?_hexDigit (n := n % 16) (by omega)
  simp [unit?, hzero, hfirst, hsecond]
  omega

theorem readPieces_plain {c : Char} (hquote : c ≠ '"') (hbackslash : c ≠ '\\')
    (hcontrol : ¬c.toNat < 0x20) (text : List Char) :
    readPieces (c :: text) = (readPieces text).map fun r => (.char c :: r.1, r.2) := by
  rw [readPieces]
  · cases readPieces text <;> simp [hbackslash, hcontrol]
  · exact hquote
  · simp [hbackslash]
  · simp [hbackslash]

/-- The written form of a character is read as one piece that stands for it. -/
theorem exists_readPieces_escape (c : Char) :
    ∃ p : Piece, p.StandsFor c ∧
      ∀ text, readPieces (escape c ++ text) = (readPieces text).map fun r => (p :: r.1, r.2) := by
  by_cases hshort : c ∈ ['"', '\\', '\x08', '\x0c', '\n', '\r', '\t']
  · refine ⟨.char c, Piece.standsFor_char c, fun text => ?_⟩
    simp only [List.mem_cons, List.not_mem_nil, or_false] at hshort
    rcases hshort with rfl | rfl | rfl | rfl | rfl | rfl | rfl <;>
      cases hread : readPieces text <;> simp [escape, readPieces, escape?, hread]
  · simp only [List.mem_cons, List.not_mem_nil, or_false, not_or] at hshort
    obtain ⟨hquote, hbackslash, hb, hf, hn, hr, ht⟩ := hshort
    by_cases hcontrol : c.toNat < 0x20
    · refine ⟨.unit c.toNat, Piece.standsFor_unit (by omega), fun text => ?_⟩
      have hunit := unit?_hexDigits (n := c.toNat) (by omega)
      cases hread : readPieces text <;>
        simp [escape, hquote, hbackslash, hb, hf, hn, hr, ht, hcontrol, readPieces, hunit, hread]
    · refine ⟨.char c, Piece.standsFor_char c, fun text => ?_⟩
      have hescape : escape c = [c] := by
        simp [escape, hquote, hbackslash, hb, hf, hn, hr, ht, hcontrol]
      rw [hescape, List.singleton_append]
      exact readPieces_plain hquote hbackslash hcontrol text

/-! ## Whole texts -/

theorem exists_readPieces_escaped (text : List Char) (rest : List Char) :
    ∃ pieces, readPieces (text.flatMap escape ++ '"' :: rest) = some (pieces, rest) ∧
      chars? pieces = some text := by
  induction text with
  | nil => exact ⟨[], rfl, rfl⟩
  | cons c text ih =>
    obtain ⟨p, hp, hread⟩ := exists_readPieces_escape c
    obtain ⟨pieces, hpieces, hchars⟩ := ih
    refine ⟨p :: pieces, ?_, ?_⟩
    · rw [List.flatMap_cons, List.append_assoc, hread, hpieces, Option.map_some]
    · rw [hp, hchars, Option.map_some]

/-- What is written for a text is read as this text, up to its closing quote. -/
theorem read?_escaped (s : String) (rest : List Char) :
    read? (s.toList.flatMap escape ++ '"' :: rest) = some (some s, rest) := by
  obtain ⟨pieces, hpieces, hchars⟩ := exists_readPieces_escaped s.toList rest
  simp [read?, hpieces, hchars]

end Corkboard.Json.Quoted
