-- SUMMARY: What a clause about time comes to: a test on the date of its property. For a stored date this is a comparison of its bounds.
import Mathlib.Algebra.Order.Group.Unbundled.Int
import Corkboard.Filter.Verdict
import Corkboard.Proofs.DateSpan.WholeNumber

/-!
# Clauses about time

Three conditions are about time, and each of them has a test on dates. A clause with such a
condition reads the integer in front of its first value and puts the test to the date of its
property at this moment. Without such an integer it is not met.

What a test says about a date is a comparison of integers. A date without an end is treated as one
moment, and a timestamp as all moments that are less than half a day away. The window of a timestamp
is computed within 64 bits, which makes no difference, because no timestamp is near their ends.
-/

namespace Corkboard

theorem DateSpan.start?_instant {first : Int64} (h : first ≠ 0) :
    (instant first).start? = some first := by
  simp [start?, instant, nonzero, h]

theorem DateSpan.start?_range {first : Int64} (h : first ≠ 0) (last : Int64) :
    (range first last).start? = some first := by
  simp [start?, range, nonzero, h]

theorem DateSpan.stop?_range (first : Int64) {last : Int64} (h : last ≠ 0) :
    (range first last).stop? = some last := by
  simp [stop?, range, nonzero, h]

/-- A bound that counts is the bound that is stored. -/
theorem DateSpan.first_of_start? {date : DateSpan} {start : Int64} (h : date.start? = some start) :
    date.first = some start :=
  Option.eq_some_of_filter_eq_some h

namespace Filter

open Property (Kind Template Value)

/-! ## From a clause to its test -/

/-- The test on dates that belongs to a condition about time. -/
inductive Condition.Tests : Condition → (DateSpan → Bool → Int64 → Bool) → Prop
  | is : Tests .is fallsOn
  | isBefore : Tests .isBefore startsBefore
  | isAfter : Tests .isAfter endsAfter

/-- The conditions about time. -/
def Condition.aboutTime : List Condition := [is, isBefore, isAfter]

theorem Condition.exists_tests {condition : Condition} (h : condition ∈ aboutTime) :
    ∃ test, condition.Tests test := by
  simp only [aboutTime, List.mem_cons, List.not_mem_nil, or_false] at h
  rcases h with rfl | rfl | rfl
  · exact ⟨_, .is⟩
  · exact ⟨_, .isBefore⟩
  · exact ⟨_, .isAfter⟩

/-- A clause about time, on a property with a date, puts its test to the date at the integer in
    front of its first value. -/
theorem Clause.isMet_of_tests {templates : List Template} {card : Card} {id : String}
    {kind : Option Kind} {condition : Condition} {test : DateSpan → Bool → Int64 → Bool}
    {date : DateSpan} (htest : condition.Tests test)
    (hkind : (Template.find? templates id).map (·.kind) = kind)
    (hdate : (Comparand.ofCard id kind card).date = some date) (value : String)
    (others : List String) :
    (Clause.mk id condition (value :: others)).isMet templates card =
      (Decimal.leadingInteger? value.toList).any (test date (kind.any Kind.isTimestamp)) := by
  have htime : (Comparand.ofCard id kind card).meetsTime (kind.any Kind.isTimestamp) value test =
      (Decimal.leadingInteger? value.toList).any (test date (kind.any Kind.isTimestamp)) := by
    rw [Comparand.meetsTime, hdate]
    cases Decimal.leadingInteger? value.toList with
    | none => rfl
    | some moment => rfl
  rw [isMet_cons, hkind, ← htime]
  cases htest with
  | is => simp [Comparand.meets, hdate]
  | isBefore => rfl
  | isAfter => rfl

/-! ## Tests on dates -/

section Dates

variable {date : DateSpan} {start stop moment : Int64}

theorem fallsOn_span (hstart : date.start? = some start) (hstop : date.stop? = some stop) :
    fallsOn date false moment ↔ start.toInt ≤ moment.toInt ∧ moment.toInt ≤ stop.toInt := by
  simp [fallsOn, hstart, hstop]

/-- A date without an end falls on the moment of its start only. -/
theorem fallsOn_moment (hstart : date.start? = some start) (hstop : date.stop? = none) :
    fallsOn date false moment ↔ start.toInt = moment.toInt := by
  simp [fallsOn, hstop, DateSpan.first_of_start? hstart, Int64.toInt_inj]

theorem startsBefore_date (hstart : date.start? = some start) :
    startsBefore date false moment ↔ start.toInt < moment.toInt := by
  simp [startsBefore, hstart]

theorem endsAfter_span (hstop : date.stop? = some stop) :
    endsAfter date false moment ↔ moment.toInt < stop.toInt := by
  simp [endsAfter, hstop]

theorem endsAfter_moment (hstart : date.start? = some start) (hstop : date.stop? = none) :
    endsAfter date false moment ↔ moment.toInt < start.toInt := by
  simp [endsAfter, hstart, hstop]

end Dates

/-! ## Tests on timestamps -/

/-- Keeping an integer within 64 bits does not move it past a time that is near enough. -/
theorem saturate_lt_iff {i stamp : Int} (hstamp : stamp.natAbs ≤ DateSpan.farthest) :
    saturate i < stamp ↔ i < stamp := by
  rw [DateSpan.farthest] at hstamp
  rw [saturate]
  omega

theorem lt_saturate_iff {i stamp : Int} (hstamp : stamp.natAbs ≤ DateSpan.farthest) :
    stamp < saturate i ↔ stamp < i := by
  rw [DateSpan.farthest] at hstamp
  rw [saturate]
  omega

section Timestamps

variable {date : DateSpan} {stamp moment : Int64}

/-- A timestamp that is not set satisfies no test. -/
theorem Condition.Tests.eq_false {condition : Condition} {test : DateSpan → Bool → Int64 → Bool}
    (htest : condition.Tests test) (hstart : date.start? = none) (moment : Int64) :
    test date true moment = false := by
  cases htest with
  | is => simp [fallsOn, hstart]
  | isBefore => simp [startsBefore, hstart]
  | isAfter => simp [endsAfter, hstart]

theorem fallsOn_stamp (hstart : date.start? = some stamp)
    (hnear : stamp.toInt.natAbs ≤ DateSpan.farthest) :
    fallsOn date true moment ↔ |stamp.toInt - moment.toInt| < halfDay := by
  simp only [fallsOn, if_true, hstart, Option.any_some, Bool.and_eq_true, decide_eq_true_eq,
    saturate_lt_iff hnear, lt_saturate_iff hnear]
  rw [abs_lt]
  omega

theorem startsBefore_stamp (hstart : date.start? = some stamp)
    (hnear : stamp.toInt.natAbs ≤ DateSpan.farthest) :
    startsBefore date true moment ↔ stamp.toInt < moment.toInt - halfDay := by
  simp [startsBefore, hstart, lt_saturate_iff hnear]

theorem endsAfter_stamp (hstart : date.start? = some stamp)
    (hnear : stamp.toInt.natAbs ≤ DateSpan.farthest) :
    endsAfter date true moment ↔ moment.toInt + halfDay < stamp.toInt := by
  simp [endsAfter, hstart, saturate_lt_iff hnear]

end Timestamps

/-! ## Stored dates -/

/-- The property is a date, and the card stores this one for it. -/
structure StoresDate (templates : List Template) (card : Card) (id : String) (date : DateSpan) :
    Prop where
  notTitle : id ≠ titleId
  kind : (Template.find? templates id).map (·.kind) = some .date
  stored : card.property? id = some (.text date.stored)

/-- A date that starts is what its property is compared by, after it was stored and read back. -/
theorem StoresDate.isMet_at {templates : List Template} {card : Card} {id value : String}
    {date : DateSpan} {start moment : Int64} {condition : Condition}
    {test : DateSpan → Bool → Int64 → Bool} (h : StoresDate templates card id date)
    (hstart : date.start? = some start) (htest : condition.Tests test)
    (hvalue : Decimal.leadingInteger? value.toList = some moment) (others : List String) :
    (Clause.mk id condition (value :: others)).isMet templates card = test date false moment := by
  have hbound : date.isEmpty = false := by simp [DateSpan.isEmpty, hstart]
  have hwritten : date.stored = date.toJson.compact := by simp [DateSpan.stored, hbound]
  have hread : DateSpan.parse date.stored = date := by rw [hwritten, date.parse_compact.2.2]
  have hstored : Comparand.storedValue id card = some (.text date.stored) := by
    rw [Comparand.storedValue, if_neg h.notTitle, h.stored]
  have hdate : (Comparand.ofCard id (some .date) card).date = some date := by
    rw [← hread, ← show textOf (some (.text date.stored)) = date.stored from rfl, ← hstored]
    rfl
  rw [Clause.isMet_of_tests htest h.kind hdate, hvalue]
  rfl

/-- A span that is stored for a date is compared by its bounds, be it inverted or at the ends of the
    range of 64 bits, and a stored moment by itself. The other side is any moment but the least one,
    written in decimal. -/
theorem stored_date_compared {templates : List Template} {card : Card} {id : String}
    {first last moment : Int64} (hfirst : first ≠ 0) (hlast : last ≠ 0)
    (hmoment : moment ≠ Int64.minValue) (others : List String) :
    (StoresDate templates card id (.range first last) →
      ((Clause.mk id .is (stampText moment :: others)).isMet templates card ↔
        first.toInt ≤ moment.toInt ∧ moment.toInt ≤ last.toInt) ∧
      ((Clause.mk id .isBefore (stampText moment :: others)).isMet templates card ↔
        first.toInt < moment.toInt) ∧
      ((Clause.mk id .isAfter (stampText moment :: others)).isMet templates card ↔
        moment.toInt < last.toInt)) ∧
    (StoresDate templates card id (.instant first) →
      ((Clause.mk id .is (stampText moment :: others)).isMet templates card ↔
        first.toInt = moment.toInt) ∧
      ((Clause.mk id .isBefore (stampText moment :: others)).isMet templates card ↔
        first.toInt < moment.toInt) ∧
      ((Clause.mk id .isAfter (stampText moment :: others)).isMet templates card ↔
        moment.toInt < first.toInt)) := by
  have hvalue : Decimal.leadingInteger? (stampText moment).toList = some moment := by
    rw [stampText, String.toList_ofList, Decimal.leadingInteger?_ofInt hmoment]
  constructor
  · intro h
    have hstart := DateSpan.start?_range hfirst last
    have hstop := DateSpan.stop?_range first hlast
    refine ⟨?_, ?_, ?_⟩
    · rw [h.isMet_at hstart .is hvalue, fallsOn_span hstart hstop]
    · rw [h.isMet_at hstart .isBefore hvalue, startsBefore_date hstart]
    · rw [h.isMet_at hstart .isAfter hvalue, endsAfter_span hstop]
  · intro h
    have hstart := DateSpan.start?_instant hfirst
    have hstop : (DateSpan.instant first).stop? = none := rfl
    refine ⟨?_, ?_, ?_⟩
    · rw [h.isMet_at hstart .is hvalue, fallsOn_moment hstart hstop]
    · rw [h.isMet_at hstart .isBefore hvalue, startsBefore_date hstart]
    · rw [h.isMet_at hstart .isAfter hvalue, endsAfter_moment hstart hstop]

/-- A span that ends before it starts, at the least integer of 64 bits, and the moment that this
    integer stands for. -/
theorem stored_date_compared_extreme :
    let due : Template := ⟨"due", "Due", .date, [], none⟩
    let card := Card.new "c" "b" "Card" 7
    let inverted := card.setProperty "due" (.text (DateSpan.range 5 Int64.minValue).stored)
    let earliest := card.setProperty "due" (.text (DateSpan.instant Int64.minValue).stored)
    StoresDate [due] inverted "due" (.range 5 Int64.minValue) ∧
      StoresDate [due] earliest "due" (.instant Int64.minValue) ∧
      (5 : Int64) ≠ 0 ∧ Int64.minValue ≠ 0 ∧ (7 : Int64) ≠ Int64.minValue ∧
      (Clause.mk "due" .is [stampText 7]).isMet [due] inverted = false ∧
      (Clause.mk "due" .isBefore [stampText 7]).isMet [due] inverted ∧
      (Clause.mk "due" .isAfter [stampText 7]).isMet [due] inverted = false ∧
      (Clause.mk "due" .is [stampText 7]).isMet [due] earliest = false ∧
      (Clause.mk "due" .isBefore [stampText 7]).isMet [due] earliest ∧
      (Clause.mk "due" .isAfter [stampText 7]).isMet [due] earliest = false := by
  intro due card inverted earliest
  have hinverted : StoresDate [due] inverted "due" (.range 5 Int64.minValue) :=
    ⟨by decide, rfl, Card.property?_setProperty card "due" "due" _⟩
  have hearliest : StoresDate [due] earliest "due" (.instant Int64.minValue) :=
    ⟨by decide, rfl, Card.property?_setProperty card "due" "due" _⟩
  have hfive : (5 : Int64) ≠ 0 := by decide
  have hleast : Int64.minValue ≠ 0 := by decide
  have hseven : (7 : Int64) ≠ Int64.minValue := by decide
  obtain ⟨his, hbefore, hafter⟩ := (stored_date_compared hfive hleast hseven []).1 hinverted
  obtain ⟨his', hbefore', hafter'⟩ := (stored_date_compared hleast hleast hseven []).2 hearliest
  simp only [Bool.eq_false_iff, ne_eq, his, hbefore, hafter, his', hbefore', hafter']
  exact ⟨hinverted, hearliest, hfive, hleast, hseven, by decide⟩

end Filter
end Corkboard
