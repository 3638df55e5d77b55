-- SUMMARY: Which clauses on text are met by the very text they ask for: a stored one by itself, and a title by each of its parts.
import Corkboard.Proofs.DateSpan.WholeNumber
import Corkboard.Proofs.Filter.Time
import Corkboard.Proofs.Text.Lowercase

/-!
# Searching in texts

What a clause on text asks for is put into lower case. The title of a card is put into lower case
too, before the two are compared. Any other text is compared as it is stored. Therefore a stored
text that is not in lower case does not even meet a clause that asks for just this text, while a
title is found by its parts, whatever capital letters they have.

A part may be cut out next to a capital sigma, and then this letter may take another small form in
the part than in the title. All other letters come out the same.
-/

namespace Corkboard.Filter

open Property (Kind Template Value)

/-! ## From a clause to its test -/

/-- A condition that looks for one text in another one, with its opposite and its test. -/
inductive Condition.Seeks : Condition → Condition → (List Char → List Char → Bool) → Prop
  | contains : Seeks .contains .notContains Text.occurs
  | startsWith : Seeks .startsWith .notStartsWith List.isPrefixOf
  | endsWith : Seeks .endsWith .notEndsWith List.isSuffixOf

section Seeks

variable {condition opposite : Condition} {test : List Char → List Char → Bool}

/-- Where one text is compared, such a clause puts its test to this text, and looks for its first
    value in lower case. -/
theorem Clause.isMet_of_seeks (h : condition.Seeks opposite test) {templates : List Template}
    {card : Card} {id text : String}
    (htext : (Comparand.ofCard id ((Template.find? templates id).map (·.kind)) card).value =
      some (.text text)) (value : String) (others : List String) :
    (Clause.mk id condition (value :: others)).isMet templates card =
        test (Text.lowercase value).toList text.toList ∧
      (Clause.mk id opposite (value :: others)).isMet templates card =
        !test (Text.lowercase value).toList text.toList := by
  rw [isMet_cons, isMet_cons]
  cases h <;> exact ⟨by simp [Comparand.meets, Comparand.matchesText, htext],
    by simp [Comparand.meets, Comparand.matchesText, htext]⟩

theorem Condition.Seeks.lowercase_self_iff (h : condition.Seeks opposite test) (s : String) :
    test (Text.lowercase s).toList s.toList ↔ Text.lowercase s = s := by
  rw [← Text.lowercase_infix_self_iff]
  cases h with
  | contains => exact Text.occurs_iff_infix
  | startsWith =>
    rw [List.isPrefixOf_iff_prefix]
    refine ⟨List.IsPrefix.isInfix, fun h => ?_⟩
    rw [Text.lowercase_infix_self_iff.1 h]
  | endsWith =>
    rw [List.isSuffixOf_iff_suffix]
    refine ⟨List.IsSuffix.isInfix, fun h => ?_⟩
    rw [Text.lowercase_infix_self_iff.1 h]

end Seeks

/-! ## Stored texts -/

/-- The card stores this text for the property, which is not a date. -/
structure StoresText (templates : List Template) (card : Card) (id text : String) : Prop where
  notTitle : id ≠ titleId
  notDate : (Template.find? templates id).map (·.kind) ≠ some .date
  stored : card.property? id = some (.text text)
  nonempty : text ≠ ""

theorem StoresText.ofCard_eq {templates : List Template} {card : Card} {id text : String}
    (h : StoresText templates card id text) :
    let comparand := Comparand.ofCard id ((Template.find? templates id).map (·.kind)) card
    comparand.value = some (.text text) ∧ comparand.date = none := by
  have hstored : Comparand.storedValue id card = some (.text text) := by
    rw [Comparand.storedValue, if_neg h.notTitle, h.stored]
  have hset := isSet_text_iff.2 h.nonempty
  simp only [Comparand.ofCard, hstored]
  exact ⟨Comparand.valueOf_of_isSet hset _ card, Comparand.dateOf_of_isSet hset h.notDate card⟩

/-- A stored text meets the clauses that ask for it, and misses their opposites, exactly if it is in
    lower case. What the clauses look for is put into lower case, and the stored text is not. -/
theorem stored_text_meets_itself_iff {templates : List Template} {card : Card} {id text : String}
    (h : StoresText templates card id text) (others : List String) :
    (∀ condition ∈ [Condition.is, .contains, .startsWith, .endsWith],
      ((Clause.mk id condition (text :: others)).isMet templates card ↔
        Text.lowercase text = text)) ∧
    ∀ condition ∈ [Condition.notContains, .notStartsWith, .notEndsWith],
      ((Clause.mk id condition (text :: others)).isMet templates card ↔
        Text.lowercase text ≠ text) := by
  obtain ⟨hvalue, hdate⟩ := h.ofCard_eq
  have hseeks {condition opposite : Condition} {test : List Char → List Char → Bool}
      (hseeks : condition.Seeks opposite test) :
      ((Clause.mk id condition (text :: others)).isMet templates card ↔
        Text.lowercase text = text) ∧
      ((Clause.mk id opposite (text :: others)).isMet templates card ↔
        Text.lowercase text ≠ text) := by
    obtain ⟨hmet, hopposite⟩ := Clause.isMet_of_seeks hseeks hvalue text others
    rw [hmet, hopposite, Bool.not_eq_true', Bool.eq_false_iff, ne_eq, hseeks.lowercase_self_iff]
    exact ⟨.rfl, .rfl⟩
  have his : (Clause.mk id .is (text :: others)).isMet templates card ↔
      Text.lowercase text = text := by
    rw [Clause.isMet_cons, @eq_comm _ (Text.lowercase text)]
    simp [Comparand.meets, hdate, hvalue, Value.asText?]
  simp only [List.forall_mem_cons, List.not_mem_nil, false_implies, implies_true, and_true]
  exact ⟨⟨his, (hseeks .contains).1, (hseeks .startsWith).1, (hseeks .endsWith).1⟩,
    (hseeks .contains).2, (hseeks .startsWith).2, (hseeks .endsWith).2⟩

/-- The street is in lower case, with the small sigma that ends a word, and the note is not. -/
theorem stored_text_meets_itself_in_lower_case :
    let templates : List Template := [⟨"street", "Street", .text, [], none⟩]
    let card := ((Card.new "c" "b" "Card" 0).setProperty "street" (.text "όδος 7")).setProperty
      "note" (.text "Done")
    StoresText templates card "street" "όδος 7" ∧ StoresText templates card "note" "Done" ∧
      (Clause.mk "street" .endsWith ["όδος 7"]).isMet templates card ∧
      ¬ (Clause.mk "street" .notContains ["όδος 7"]).isMet templates card ∧
      ¬ (Clause.mk "note" .is ["Done"]).isMet templates card := by
  intro templates card
  have hstreet : StoresText templates card "street" "όδος 7" :=
    ⟨by decide, by decide, rfl, by decide⟩
  have hnote : StoresText templates card "note" "Done" := ⟨by decide, by decide, rfl, by decide⟩
  have hlower : Text.lowercase "όδος 7" = "όδος 7" := by decide
  have hcapital : Text.lowercase "Done" ≠ "Done" := by decide
  obtain ⟨hmet, hmissed⟩ := stored_text_meets_itself_iff hstreet []
  obtain ⟨hmet', -⟩ := stored_text_meets_itself_iff hnote []
  exact ⟨hstreet, hnote, (hmet .endsWith (by decide)).2 hlower,
    fun h => (hmissed .notContains (by decide)).1 h hlower,
    fun h => hcapital ((hmet' .is (by decide)).1 h)⟩

/-- A status with a capital letter meets none of the clauses that ask for it, and all of their
    opposites. -/
theorem stored_text_misses_itself :
    let templates : List Template := [⟨"status", "Status", .text, [], none⟩]
    let card := (Card.new "c" "b" "Card" 0).setProperty "status" (.text "Done")
    StoresText templates card "status" "Done" ∧
      (∀ condition ∈ [Condition.is, .contains, .startsWith, .endsWith],
        (Clause.mk "status" condition ["Done"]).isMet templates card = false) ∧
      ∀ condition ∈ [Condition.notContains, .notStartsWith, .notEndsWith],
        (Clause.mk "status" condition ["Done"]).isMet templates card := by
  intro templates card
  exact ⟨⟨by decide, by decide, rfl, by decide⟩, by decide, by decide⟩

/-! ## Titles -/

theorem storedValue_title (card : Card) :
    Comparand.storedValue titleId card = some (.text (Text.lowercase card.title)) := by
  rw [Comparand.storedValue, if_pos rfl]

theorem isSet_lowercase_iff {s : String} :
    isSet (some (.text (Text.lowercase s))) ↔ s ≠ "" := by
  rw [isSet_text_iff, ne_eq, Text.lowercase_eq_empty_iff]

/-- A clause on a title is compared with the title in lower case. -/
theorem value_title {card : Card} (hcard : card.title ≠ "") (kind : Option Kind) :
    (Comparand.ofCard titleId kind card).value = some (.text (Text.lowercase card.title)) := by
  simp only [Comparand.ofCard, storedValue_title]
  exact Comparand.valueOf_of_isSet (isSet_lowercase_iff.2 hcard) kind card

/-- For an empty title another text may stand in. -/
theorem value_empty_title {card : Card} (hcard : card.title = "") (kind : Option Kind) :
    (Comparand.ofCard titleId kind card).value =
      some (.text ((Comparand.substitute? kind card).getD "")) := by
  have hunset : ¬ isSet (some (.text (Text.lowercase card.title))) :=
    fun hset => isSet_lowercase_iff.1 hset hcard
  simp only [Comparand.ofCard, storedValue_title, Comparand.valueOf, if_neg hunset]
  cases Comparand.substitute? kind card with
  | none => rw [hcard]; rfl
  | some text => rfl

/-- What stands in the title in lower case is found. In an empty title only the empty text does. -/
theorem isMet_title_of_seeks {condition opposite : Condition}
    {test : List Char → List Char → Bool} (h : condition.Seeks opposite test)
    (templates : List Template) {card : Card} {value : String}
    (hempty : card.title = "" → value = "")
    (htitle : test (Text.lowercase value).toList (Text.lowercase card.title).toList)
    (others : List String) :
    (Clause.mk titleId condition (value :: others)).isMet templates card := by
  by_cases hcard : card.title = ""
  · rw [(Clause.isMet_of_seeks h (value_empty_title hcard _) value others).1,
      Text.lowercase_eq_empty_iff.2 (hempty hcard)]
    cases h with
    | contains => exact Text.occurs_iff_infix.2 List.nil_infix
    | startsWith => rfl
    | endsWith => simp
  · rwa [(Clause.isMet_of_seeks h (value_title hcard _) value others).1]

theorem stampText_ne_empty (millis : Int64) : stampText millis ≠ "" := by
  intro h
  have hdigits := Decimal.isEmpty_ofInt millis.toInt
  rw [← String.toList_inj, stampText, String.toList_ofList] at h
  rw [h] at hdigits
  exact Bool.noConfusion hdigits

/-- Where a time of the card is compared, the text that stands in for an empty title is this
    time. -/
theorem substitute?_ne_empty {kind : Option Kind} {card : Card} {date : DateSpan}
    (hkind : kind ≠ some .date) (hdate : (Comparand.ofCard titleId kind card).date = some date) :
    (Comparand.substitute? kind card).getD "" ≠ "" := by
  cases kind with
  | none => nomatch hdate
  | some kind =>
    cases kind with
    | date => exact absurd rfl hkind
    | createdTime => exact stampText_ne_empty card.createdAt
    | updatedTime => exact stampText_ne_empty card.updatedAt
    | _ => nomatch hdate

/-- The whole title meets `is` wherever a text is compared. Only an empty title can miss it, if
    another text stands in for it. -/
theorem isMet_is_title_iff {templates : List Template} {kind : Option Kind} (card : Card)
    (hkind : (Template.find? templates titleId).map (·.kind) = kind) (hdate : kind ≠ some .date)
    (others : List String) :
    (Clause.mk titleId .is (card.title :: others)).isMet templates card ↔
      (card.title = "" → (Comparand.substitute? kind card).getD "" = "") := by
  by_cases hcard : card.title = ""
  · cases hcompared : (Comparand.ofCard titleId kind card).date with
    | none =>
      have hlower : Text.lowercase "" = "" := rfl
      simp [Clause.isMet_cons, hkind, Comparand.meets, hcompared, value_empty_title hcard,
        Value.asText?, hlower, hcard]
    | some date =>
      -- An empty text names no moment, so the clause is missed here.
      have hinteger : Decimal.leadingInteger? "".toList = none := rfl
      rw [Clause.isMet_of_tests .is hkind hcompared, hcard, hinteger]
      simp [substitute?_ne_empty hdate hcompared]
  · have hset := isSet_lowercase_iff.2 hcard
    have hcompared : (Comparand.ofCard titleId kind card).date = none := by
      simp only [Comparand.ofCard, storedValue_title]
      exact Comparand.dateOf_of_isSet hset hdate card
    simp [Clause.isMet_cons, hkind, Comparand.meets, hcompared, value_title hcard, Value.asText?,
      hcard]

end Corkboard.Filter
