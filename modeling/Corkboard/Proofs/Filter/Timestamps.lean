-- SUMMARY: How a card's own times compare with a moment, in exact integers, and which moments escape all three conditions about time.
import Corkboard.Proofs.Filter.Time

/-!
# Timestamps

When a card was made and when it was last changed are properties without a stored value. The time
goes from the card into decimal digits and back through the reader of dates before it is compared,
and the comparison itself is kept within 64 bits. What comes out is the comparison of the two
integers.

The three conditions part the moments into what is before, on and after. For a stored moment the
three parts leave nothing out. For a timestamp all three are open, so they leave out the two moments
that are exactly half a day away.
-/

namespace Corkboard.Filter

open Property (Kind Template Value)

/-! ## Exact comparison -/

/-- The property stands for a time of the card itself: it is of such a kind, and the card has no
    value that goes before it. Under the id `title` this is the title. -/
inductive Stamps (templates : List Template) (card : Card) (id : String) : Int64 → Prop
  | created (kind : (Template.find? templates id).map (·.kind) = some .createdTime)
      (unset : isSet (Comparand.storedValue id card) = false) :
      Stamps templates card id card.createdAt
  | updated (kind : (Template.find? templates id).map (·.kind) = some .updatedTime)
      (unset : isSet (Comparand.storedValue id card) = false) :
      Stamps templates card id card.updatedAt

section Exact

variable {templates : List Template} {card : Card} {id : String} {stamp : Int64}

/-- A clause about the time of a card is about the date that is read from its decimal text. -/
theorem Stamps.isMet_of_tests {condition : Condition} {test : DateSpan → Bool → Int64 → Bool}
    (h : Stamps templates card id stamp) (htest : condition.Tests test) (value : String)
    (others : List String) :
    (Clause.mk id condition (value :: others)).isMet templates card =
      (Decimal.leadingInteger? value.toList).any (test (.parse (stampText stamp)) true) := by
  cases h with
  | created kind unset =>
    have hdate : (Comparand.ofCard id (some .createdTime) card).date =
        some (.parse (stampText card.createdAt)) := by
      simp [Comparand.ofCard, Comparand.dateOf, Comparand.dateText?, unset]
    exact Clause.isMet_of_tests htest kind hdate value others
  | updated kind unset =>
    have hdate : (Comparand.ofCard id (some .updatedTime) card).date =
        some (.parse (stampText card.updatedAt)) := by
      simp [Comparand.ofCard, Comparand.dateOf, Comparand.dateText?, unset]
    exact Clause.isMet_of_tests htest kind hdate value others

theorem Stamps.isMet_at {condition : Condition} {test : DateSpan → Bool → Int64 → Bool}
    {value : String} {moment : Int64} (h : Stamps templates card id stamp)
    (htest : condition.Tests test) (hvalue : Decimal.leadingInteger? value.toList = some moment)
    (others : List String) :
    (Clause.mk id condition (value :: others)).isMet templates card =
      test (.parse (stampText stamp)) true moment := by
  rw [h.isMet_of_tests htest, hvalue]
  rfl

/-- A time that is set and not too far away is read back from its decimal text. -/
theorem start?_parse_stampText (hset : stamp ≠ 0)
    (hnear : stamp.toInt.natAbs ≤ DateSpan.farthest) :
    (DateSpan.parse (stampText stamp)).start? = some stamp := by
  rw [stampText, DateSpan.parse_ofInt, if_pos hnear, DateSpan.start?_instant hset]

/-- No other time is. -/
theorem start?_parse_stampText_eq_none
    (h : stamp = 0 ∨ DateSpan.farthest < stamp.toInt.natAbs) :
    (DateSpan.parse (stampText stamp)).start? = none := by
  rw [stampText, DateSpan.parse_ofInt]
  rcases h with rfl | hfar
  · rw [if_pos (by decide)]
    rfl
  · rw [if_neg (Nat.not_le.2 hfar)]
    rfl

/-- A timestamp compares with the integer in front of a filter value as the two compare in unbounded
    integers, with half a day to spare, so that the limits of 64 bits change no verdict. A timestamp
    that is not set or too far away meets no condition about time, and neither does any timestamp if
    there is no such integer. -/
theorem timestamp_compared_exactly (h : Stamps templates card id stamp) (value : String)
    (others : List String) :
    (∀ moment, Decimal.leadingInteger? value.toList = some moment →
      stamp ≠ 0 → stamp.toInt.natAbs ≤ DateSpan.farthest →
      ((Clause.mk id .is (value :: others)).isMet templates card ↔
        |stamp.toInt - moment.toInt| < halfDay) ∧
      ((Clause.mk id .isBefore (value :: others)).isMet templates card ↔
        stamp.toInt < moment.toInt - halfDay) ∧
      ((Clause.mk id .isAfter (value :: others)).isMet templates card ↔
        moment.toInt + halfDay < stamp.toInt)) ∧
    (stamp = 0 ∨ DateSpan.farthest < stamp.toInt.natAbs ∨
        Decimal.leadingInteger? value.toList = none →
      ∀ condition ∈ Condition.aboutTime,
        (Clause.mk id condition (value :: others)).isMet templates card = false) := by
  constructor
  · intro moment hvalue hset hnear
    have hstart := start?_parse_stampText hset hnear
    refine ⟨?_, ?_, ?_⟩
    · rw [h.isMet_at .is hvalue, fallsOn_stamp hstart hnear]
    · rw [h.isMet_at .isBefore hvalue, startsBefore_stamp hstart hnear]
    · rw [h.isMet_at .isAfter hvalue, endsAfter_stamp hstart hnear]
  · intro hnone condition hcondition
    obtain ⟨test, htest⟩ := Condition.exists_tests hcondition
    rw [h.isMet_of_tests htest]
    rcases hnone with hzero | hfar | hvalue
    · have hstart := start?_parse_stampText_eq_none (.inl hzero)
      simp [Option.any_eq_false, htest.eq_false hstart]
    · have hstart := start?_parse_stampText_eq_none (.inr hfar)
      simp [Option.any_eq_false, htest.eq_false hstart]
    · rw [hvalue, Option.any_none]

/-- A timestamp at the limit of dates, on the last day that still counts as the same one and next to
    the ends of the range of 64 bits, and a timestamp past the limit. -/
theorem timestamp_compared_exactly_at_limit :
    let made : Template := ⟨"made", "Made", .createdTime, [], none⟩
    let changed : Template := ⟨"changed", "Changed", .updatedTime, [], none⟩
    let templates := [made, changed]
    let card := { Card.new "c" "b" "Card" 8640000000000000 with updatedAt := 8640000000000001 }
    Stamps templates card "made" 8640000000000000 ∧
      Stamps templates card "changed" 8640000000000001 ∧
      (Clause.mk "made" .is ["8639999956800001 ms"]).isMet templates card ∧
      (Clause.mk "made" .isBefore ["9223372036854775807"]).isMet templates card ∧
      (Clause.mk "made" .isAfter ["-9223372036854775807"]).isMet templates card ∧
      (Clause.mk "changed" .isAfter ["0"]).isMet templates card = false := by
  intro made changed templates card
  have hmade : Stamps templates card "made" 8640000000000000 := .created rfl rfl
  have hchanged : Stamps templates card "changed" 8640000000000001 := .updated rfl rfl
  have hset : (8640000000000000 : Int64) ≠ 0 := by decide
  have hnear : (8640000000000000 : Int64).toInt.natAbs ≤ DateSpan.farthest := by decide
  have hfar : DateSpan.farthest < (8640000000000001 : Int64).toInt.natAbs := by decide
  have hday := (timestamp_compared_exactly hmade "8639999956800001 ms" []).1 8639999956800001
    (by decide) hset hnear
  have hlast := (timestamp_compared_exactly hmade "9223372036854775807" []).1 9223372036854775807
    (by decide) hset hnear
  have hfirst := (timestamp_compared_exactly hmade "-9223372036854775807" []).1
    (-9223372036854775807) (by decide) hset hnear
  have hnone := (timestamp_compared_exactly hchanged "0" []).2 (.inr (.inl hfar))
  exact ⟨hmade, hchanged, hday.1.2 (by decide), hlast.2.1.2 (by decide), hfirst.2.2.2 (by decide),
    hnone .isAfter (by decide)⟩

end Exact

/-! ## Gaps between the conditions -/

/-- There is one moment to compare for the property, which is not zero: the time of the card that it
    stands for, within the limit of dates, or the start of a stored date without an end. The flag
    tells timestamps from stored dates. -/
inductive HasMoment (templates : List Template) (card : Card) (id : String) : Bool → Int64 → Prop
  | stamp {stamp : Int64} (stamps : Stamps templates card id stamp) (set : stamp ≠ 0)
      (near : stamp.toInt.natAbs ≤ DateSpan.farthest) : HasMoment templates card id true stamp
  | date {start : Int64} (kind : (Template.find? templates id).map (·.kind) = some .date)
      (starts : (DateSpan.parse (textOf (Comparand.storedValue id card))).start? = some start)
      (endless : (DateSpan.parse (textOf (Comparand.storedValue id card))).stop? = none) :
      HasMoment templates card id false start

/-- Of the three conditions about time, exactly one is met by a property with one moment. The only
    exceptions are timestamps at exactly half a day from the filter value, which meet none. -/
theorem count_met_about_time {templates : List Template} {card : Card} {id value : String}
    {isTimestamp : Bool} {start moment : Int64} (h : HasMoment templates card id isTimestamp start)
    (hvalue : Decimal.leadingInteger? value.toList = some moment) (others : List String) :
    Condition.aboutTime.countP (fun condition =>
        (Clause.mk id condition (value :: others)).isMet templates card) =
      if isTimestamp ∧ |start.toInt - moment.toInt| = halfDay then 0 else 1 := by
  cases h with
  | stamp stamps set near =>
    have hstart := start?_parse_stampText set near
    simp only [Condition.aboutTime, List.countP_cons, List.countP_nil, stamps.isMet_at .is hvalue,
      stamps.isMet_at .isBefore hvalue, stamps.isMet_at .isAfter hvalue, fallsOn_stamp hstart near,
      startsBefore_stamp hstart near, endsAfter_stamp hstart near, Int.abs_eq_natAbs, halfDay,
      true_and]
    split_ifs <;> omega
  | date kind hstart hstop =>
    have hmet {condition : Condition} {test : DateSpan → Bool → Int64 → Bool}
        (htest : condition.Tests test) :
        (Clause.mk id condition (value :: others)).isMet templates card =
          test (DateSpan.parse (textOf (Comparand.storedValue id card))) false moment := by
      rw [Clause.isMet_of_tests htest kind rfl, hvalue]
      rfl
    simp only [Condition.aboutTime, List.countP_cons, List.countP_nil, hmet .is, hmet .isBefore,
      hmet .isAfter, fallsOn_moment hstart hstop, startsBefore_date hstart,
      endsAfter_moment hstart hstop, Bool.false_eq_true, false_and, if_false]
    split_ifs <;> omega

/-- A timestamp a day and a half before the filter value, one exactly half a day after it, and a
    stored date right before it. -/
theorem count_met_about_time_mixed :
    let made : Template := ⟨"made", "Made", .createdTime, [], none⟩
    let changed : Template := ⟨"changed", "Changed", .updatedTime, [], none⟩
    let due : Template := ⟨"due", "Due", .date, [], none⟩
    let templates := [made, changed, due]
    let card := { Card.new "c" "b" "Card" 43200000 with updatedAt := 216000000 }.setProperty
      "due" (.text "172799999.5")
    let value := "172800000"
    let met (id : String) := Condition.aboutTime.countP fun condition =>
      (Clause.mk id condition [value]).isMet templates card
    HasMoment templates card "made" true 43200000 ∧
      HasMoment templates card "changed" true 216000000 ∧
      HasMoment templates card "due" false 172799999 ∧
      Decimal.leadingInteger? value.toList = some 172800000 ∧
      met "made" = 1 ∧ met "changed" = 0 ∧ met "due" = 1 := by
  intro made changed due templates card value met
  have hmade : HasMoment templates card "made" true 43200000 :=
    .stamp (.created rfl rfl) (by decide) (by decide)
  have hchanged : HasMoment templates card "changed" true 216000000 :=
    .stamp (.updated rfl rfl) (by decide) (by decide)
  have hdue : HasMoment templates card "due" false 172799999 :=
    .date rfl (by decide) (by decide)
  have hvalue : Decimal.leadingInteger? value.toList = some 172800000 := by decide
  refine ⟨hmade, hchanged, hdue, hvalue, ?_, ?_, ?_⟩
  · exact (count_met_about_time hmade hvalue []).trans (by decide)
  · exact (count_met_about_time hchanged hvalue []).trans (by decide)
  · exact (count_met_about_time hdue hvalue []).trans (by decide)

/-- A card that was made exactly half a day before the filter value meets none of the three
    conditions. Where the template for the time of creation has the id `title`, the title goes before
    the time, and a card with a title meets none of them even at the moment at which it was made. -/
theorem none_met_about_time :
    let made : Template := ⟨"made", "Made", .createdTime, [], none⟩
    let title : Template := ⟨"title", "Title", .createdTime, [], none⟩
    let card := Card.new "c" "b" "Card" 100000000
    card.property? "made" = none ∧ card.property? "title" = none ∧ card.createdAt ≠ 0 ∧
      card.createdAt.toInt.natAbs ≤ DateSpan.farthest ∧
      Decimal.leadingInteger? "143200000".toList = some 143200000 ∧
      (∀ condition ∈ Condition.aboutTime,
        (Clause.mk "made" condition ["143200000"]).isMet [made] card = false) ∧
      Decimal.leadingInteger? "100000000".toList = some 100000000 ∧
      ∀ condition ∈ Condition.aboutTime,
        (Clause.mk "title" condition ["100000000"]).isMet [title] card = false := by
  decide

end Corkboard.Filter
