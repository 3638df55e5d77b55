-- SUMMARY: The moments at which a clause about time is met: all from some moment on, all up to some moment, or all between two moments.
import Corkboard.Proofs.Filter.Time

/-!
# Moments that meet a clause

Whatever a property stores, the moments at which a clause about it is met leave no gap. A date that
starts before a moment starts before all later ones, a date that ends after a moment ends after all
earlier ones, and a date that falls on two moments falls on all between them.

This needs no look at the shape of the date. Its bounds may be in the wrong order, one of them or
both may be missing, and zero may count as a bound for one test and not for another. The tests only
ever compare a bound with the moment, or with the end of the window around it, and the window moves
along with the moment even where it is cut off at the ends of 64 bits.
-/

namespace Corkboard.Filter

open Property (Kind Template)

/-! ## Tests at two moments -/

theorem saturate_mono {i j : Int} (h : i ≤ j) : saturate i ≤ saturate j := by
  rw [saturate, saturate]
  omega

section Tests

variable {date : DateSpan} {isTimestamp : Bool} {first moment last : Int64}

theorem startsBefore_mono (hle : first ≤ moment) (h : startsBefore date isTimestamp first) :
    startsBefore date isTimestamp moment := by
  have hint : first.toInt ≤ moment.toInt := Int64.le_iff_toInt_le.1 hle
  obtain ⟨start, hstart, hbefore⟩ := (Option.any_eq_true _ _).1 h
  refine (Option.any_eq_true _ _).2 ⟨start, hstart, ?_⟩
  cases isTimestamp with
  | true =>
    have hlow := saturate_mono (Int.sub_le_sub_right hint halfDay)
    simp only [if_true, decide_eq_true_eq] at hbefore ⊢
    omega
  | false =>
    simp only [Bool.false_eq_true, if_false, decide_eq_true_eq] at hbefore ⊢
    omega

theorem endsAfter_anti (hle : first ≤ moment) (h : endsAfter date isTimestamp moment) :
    endsAfter date isTimestamp first := by
  have hint : first.toInt ≤ moment.toInt := Int64.le_iff_toInt_le.1 hle
  cases isTimestamp with
  | true =>
    have hhigh := saturate_mono (Int.add_le_add_right hint halfDay)
    simp only [endsAfter, if_true, Option.any_eq_true, decide_eq_true_eq] at h ⊢
    obtain ⟨start, hstart, hafter⟩ := h
    exact ⟨start, hstart, by omega⟩
  | false =>
    simp only [endsAfter, Bool.false_eq_true, if_false, Option.any_eq_true,
      decide_eq_true_eq] at h ⊢
    obtain ⟨bound, hbound, hafter⟩ := h
    exact ⟨bound, hbound, by omega⟩

/-- Without a span to fall into, only the stored start counts, and here also if it is zero. -/
theorem fallsOn_of_no_span (h : date.start? = none ∨ date.stop? = none) :
    fallsOn date false moment ↔ date.first = some moment := by
  rcases h with h | h <;> simp [fallsOn, h]

theorem fallsOn_between (hfirst : first ≤ moment) (hlast : moment ≤ last)
    (h : fallsOn date isTimestamp first) (h' : fallsOn date isTimestamp last) :
    fallsOn date isTimestamp moment := by
  have hint : first.toInt ≤ moment.toInt := Int64.le_iff_toInt_le.1 hfirst
  have hint' : moment.toInt ≤ last.toInt := Int64.le_iff_toInt_le.1 hlast
  cases isTimestamp with
  | true =>
    have hlow := saturate_mono (Int.sub_le_sub_right hint' halfDay)
    have hhigh := saturate_mono (Int.add_le_add_right hint halfDay)
    simp only [fallsOn, if_true, Option.any_eq_true, Bool.and_eq_true, decide_eq_true_eq] at h h' ⊢
    obtain ⟨start, hstart, -, hbelow⟩ := h
    obtain ⟨start', hstart', habove, -⟩ := h'
    obtain rfl : start = start' := Option.some.inj (hstart.symm.trans hstart')
    exact ⟨start, hstart, by omega, by omega⟩
  | false =>
    by_cases hspan : date.start? = none ∨ date.stop? = none
    · rw [fallsOn_of_no_span hspan] at h h' ⊢
      obtain rfl : first = last := Option.some.inj (h.symm.trans h')
      rw [h, Int64.le_antisymm hfirst hlast]
    · rw [not_or, ← ne_eq, ← ne_eq, Option.ne_none_iff_exists',
        Option.ne_none_iff_exists'] at hspan
      obtain ⟨⟨start, hstart⟩, stop, hstop⟩ := hspan
      rw [fallsOn_span hstart hstop] at h h' ⊢
      omega

end Tests

/-! ## Clauses at two moments -/

section Clauses

variable {templates : List Template} {card : Card} {id : String}

/-- A clause on the property is compared by a date. -/
def HasDate (templates : List Template) (card : Card) (id : String) : Prop :=
  (Comparand.ofCard id ((Template.find? templates id).map (·.kind)) card).date.isSome

/-- Dates always are, whatever is stored, and the times of a card as long as nothing is stored that
    goes before them. -/
theorem hasDate_iff :
    HasDate templates card id ↔
      (Template.find? templates id).map (·.kind) = some .date ∨
        ((Template.find? templates id).map (·.kind)).any Kind.isTimestamp ∧
          isSet (Comparand.storedValue id card) = false := by
  rw [HasDate, Comparand.ofCard]
  generalize (Template.find? templates id).map (·.kind) = kind
  cases kind with
  | none => simp [Comparand.dateOf, Comparand.dateText?]
  | some kind =>
    cases hset : isSet (Comparand.storedValue id card) <;> cases kind <;>
      simp [Comparand.dateOf, Comparand.dateText?, Kind.isTimestamp, hset]

/-- The moments at which a clause about time is met leave no gap. What starts before one moment
    starts before all later ones, what ends after a moment ends after all earlier ones, and what
    falls on two moments falls on all between them. -/
theorem time_clauses_met_without_gap (hdate : HasDate templates card id)
    {early middle late : String} {first moment last : Int64}
    (hearly : Decimal.leadingInteger? early.toList = some first)
    (hmiddle : Decimal.leadingInteger? middle.toList = some moment)
    (hlate : Decimal.leadingInteger? late.toList = some last)
    (hfirst : first ≤ moment) (hlast : moment ≤ last) (others others' others'' : List String) :
    ((Clause.mk id .isBefore (early :: others)).isMet templates card →
      (Clause.mk id .isBefore (middle :: others')).isMet templates card) ∧
    ((Clause.mk id .isAfter (middle :: others')).isMet templates card →
      (Clause.mk id .isAfter (early :: others)).isMet templates card) ∧
    ((Clause.mk id .is (early :: others)).isMet templates card →
      (Clause.mk id .is (late :: others'')).isMet templates card →
      (Clause.mk id .is (middle :: others')).isMet templates card) := by
  obtain ⟨date, hdate⟩ := Option.isSome_iff_exists.1 hdate
  refine ⟨?_, ?_, ?_⟩
  · rw [Clause.isMet_of_tests .isBefore rfl hdate, Clause.isMet_of_tests .isBefore rfl hdate,
      hearly, hmiddle]
    exact startsBefore_mono hfirst
  · rw [Clause.isMet_of_tests .isAfter rfl hdate, Clause.isMet_of_tests .isAfter rfl hdate,
      hearly, hmiddle]
    exact endsAfter_anti hfirst
  · rw [Clause.isMet_of_tests .is rfl hdate, Clause.isMet_of_tests .is rfl hdate,
      Clause.isMet_of_tests .is rfl hdate, hearly, hmiddle, hlate]
    exact fallsOn_between hfirst hlast

end Clauses

/-- A span that is stored for a date, one that has no start because zero is none, and the time of a
    card at the end of the range of 64 bits. -/
theorem time_clauses_met_without_gap_mixed :
    let due : Template := ⟨"due", "Due", .date, [], none⟩
    let closing : Template := ⟨"closing", "Closing", .date, [], none⟩
    let made : Template := ⟨"made", "Made", .createdTime, [], none⟩
    let templates := [due, closing, made]
    let card := ((Card.new "c" "b" "Card" 43200000).setProperty "due"
      (.text (DateSpan.range (-5) 20).stored)).setProperty "closing"
      (.text (DateSpan.range 0 5).stored)
    (HasDate templates card "due" ∧ (Clause.mk "due" .is ["-5"]).isMet templates card ∧
        (Clause.mk "due" .is ["20 h"]).isMet templates card ∧
        (Clause.mk "due" .is [" +7th"]).isMet templates card) ∧
      (HasDate templates card "closing" ∧
        (Clause.mk "closing" .isAfter ["4"]).isMet templates card ∧
        (Clause.mk "closing" .isAfter ["-9223372036854775807"]).isMet templates card) ∧
      HasDate templates card "made" ∧
        (Clause.mk "made" .isBefore ["86400001"]).isMet templates card ∧
        (Clause.mk "made" .isBefore ["9223372036854775807"]).isMet templates card := by
  intro due closing made templates card
  have hleast : Decimal.leadingInteger? "-9223372036854775807".toList =
      some (-9223372036854775807) := by decide
  have hfive : Decimal.leadingInteger? "-5".toList = some (-5) := by decide
  have hfour : Decimal.leadingInteger? "4".toList = some 4 := by decide
  have hseven : Decimal.leadingInteger? " +7th".toList = some 7 := by decide
  have htwenty : Decimal.leadingInteger? "20 h".toList = some 20 := by decide
  have hday : Decimal.leadingInteger? "86400001".toList = some 86400001 := by decide
  have hgreatest : Decimal.leadingInteger? "9223372036854775807".toList =
      some 9223372036854775807 := by decide
  have hdue : HasDate templates card "due" := hasDate_iff.2 (.inl rfl)
  have hclosing : HasDate templates card "closing" := hasDate_iff.2 (.inl rfl)
  have hmade : HasDate templates card "made" := hasDate_iff.2 (.inr ⟨rfl, rfl⟩)
  have hfirst : (Clause.mk "due" .is ["-5"]).isMet templates card := by decide
  have hlast : (Clause.mk "due" .is ["20 h"]).isMet templates card := by decide
  have hafter : (Clause.mk "closing" .isAfter ["4"]).isMet templates card := by decide
  have hbefore : (Clause.mk "made" .isBefore ["86400001"]).isMet templates card := by decide
  have hspan := (time_clauses_met_without_gap hdue hfive hseven htwenty (by decide) (by decide)
    [] [] []).2.2 hfirst hlast
  have hend := (time_clauses_met_without_gap hclosing hleast hfour htwenty (by decide) (by decide)
    [] [] []).2.1 hafter
  have hstamp := (time_clauses_met_without_gap hmade hday hgreatest hgreatest (by decide)
    (by decide) [] [] []).1 hbefore
  exact ⟨⟨hdue, hfirst, hlast, hspan⟩, ⟨hclosing, hafter, hend⟩, hmade, hbefore, hstamp⟩

end Corkboard.Filter
