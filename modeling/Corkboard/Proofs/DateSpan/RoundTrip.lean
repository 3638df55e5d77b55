-- SUMMARY: A date is read back from the text that is stored for it, if it has a bound.
import Corkboard.DateSpan
import Corkboard.Proofs.Json.Records

/-!
# Dates, stored and read back

The reader of stored dates tries a bare number first. What is stored for a date with a bound starts
with a brace, which starts no number, so the reader always goes on to the object.
-/

namespace Corkboard

namespace DateSpan

/-- No text in braces is a bare number. -/
theorem millis?_object (middle : List Char) : millis? ('\x7b' :: middle ++ ['\x7d']) = none := by
  have hopen : Text.isBlank '\x7b' = false := by decide
  have hclose : Text.isBlank '\x7d' = false := by decide
  have hnumber : Decimal.ofText? ('\x7b' :: (middle ++ ['\x7d'])) = none :=
    Decimal.ofText?_cons_eq_none (by decide) (by decide) _
  rw [millis?, Text.trim_of_ends hopen hclose]
  simp [hnumber]

/-- The object of a date stands in braces. -/
theorem exists_compact_eq (d : DateSpan) :
    ∃ middle, d.toJson.compact.toList = '\x7b' :: middle ++ ['\x7d'] :=
  ⟨_, by rw [Json.compact, String.toList_ofList, toJson, Json.ofFields, Json.writeCompact]⟩

theorem nonzero_eq_none_iff {bound : Option Int64} :
    nonzero bound = none ↔ ∀ i, bound = some i → i = 0 := by
  cases bound with
  | none => simp [nonzero]
  | some i => simp [nonzero]

theorem isEmpty_iff {d : DateSpan} :
    d.isEmpty ↔ ∀ i, d.first = some i ∨ d.last = some i → i = 0 := by
  simp [isEmpty, start?, stop?, nonzero_eq_none_iff, or_imp, forall_and]

/-- The object of a date is read back through the reader of stored dates. -/
theorem parse_compact (d : DateSpan) :
    millis? d.toJson.compact.toList = none ∧ ofJson.ofText? d.toJson.compact = some d ∧
      parse d.toJson.compact = d := by
  obtain ⟨middle, hobject⟩ := d.exists_compact_eq
  have hnumber : millis? d.toJson.compact.toList = none := by
    rw [hobject, millis?_object]
  have hread := d.restores.ofText?_compact (by decide)
  have hnonempty : d.toJson.compact.isEmpty = false := by
    rw [Bool.eq_false_iff, ne_eq, String.isEmpty_iff]
    intro hempty
    simp [hempty] at hobject
  refine ⟨hnumber, hread, ?_⟩
  simp [parse, read?, hnonempty, hnumber, hread]

/-- A date with a bound other than zero is stored as an object, which no one takes for a number, and
    it is read back from it as it was. Every other date is stored as the empty text, and is read
    back as the empty date. -/
theorem parse_stored_bounded_or_empty (d : DateSpan) :
    ((∃ i, i ≠ 0 ∧ (d.first = some i ∨ d.last = some i)) →
      d.stored = d.toJson.compact ∧ millis? d.stored.toList = none ∧
        ofJson.ofText? d.stored = some d ∧ parse d.stored = d) ∧
    ((∀ i, d.first = some i ∨ d.last = some i → i = 0) →
      d.stored = "" ∧ parse d.stored = empty) := by
  constructor
  · rintro ⟨i, hi, hbound⟩
    have hbounded : ¬d.isEmpty := fun h => hi (isEmpty_iff.1 h i hbound)
    have hstored : d.stored = d.toJson.compact := by rw [stored, if_neg hbounded]
    rw [hstored]
    exact ⟨rfl, d.parse_compact⟩
  · intro h
    have hstored : d.stored = "" := by rw [stored, if_pos (isEmpty_iff.2 h)]
    rw [hstored]
    exact ⟨rfl, rfl⟩

/-- The earliest date there is, with a time zone that needs escapes, and a date whose bounds are
    both zero. -/
theorem parse_stored_earliest_and_zero :
    let earliest : DateSpan := ⟨some (-9223372036854775808), some 0, some false, some "\"1e3\" 📅\n"⟩
    let zero : DateSpan := ⟨some 0, some 0, some true, some "UTC"⟩
    (millis? earliest.stored.toList = none ∧ ofJson.ofText? earliest.stored = some earliest ∧
      parse earliest.stored = earliest) ∧
    (zero.stored = "" ∧ parse zero.stored = empty) := by
  intro earliest zero
  have hearliest : ∃ i, i ≠ 0 ∧ (earliest.first = some i ∨ earliest.last = some i) :=
    ⟨-9223372036854775808, by decide, .inl rfl⟩
  have hzero : ∀ i, zero.first = some i ∨ zero.last = some i → i = 0 := by
    rintro i (h | h) <;> exact (Option.some.inj h).symm
  exact ⟨((parse_stored_bounded_or_empty earliest).1 hearliest).2,
    (parse_stored_bounded_or_empty zero).2 hzero⟩

end DateSpan
end Corkboard
