-- SUMMARY: When the value that is suggested for a clause makes a card meet the clause.
import Corkboard.Proofs.Filter.Suggestion
import Corkboard.Proofs.LinkedCards.RoundTrip

/-!
# Suggested values

The value that is suggested for a clause satisfies it wherever the clause is compared with the
stored text. Two sorts of clauses are not. A clause on the title is compared with the title, so that
the suggestion changes nothing for it. A clause on links is compared with the ids of the cards that
the stored text links. What is suggested there is the first value of the clause, which should be such
an id, and no text is the id of a card that it links itself. The suggestion can help only if it
happens to link a card that one of the other values names.
-/

namespace Corkboard

namespace LinkedCards

/-! ## Ids in a text -/

theorem id_ofEntry_sublist (entry : List Char) :
    (LinkedCard.ofEntry entry).id.toList.Sublist entry := by
  cases hcut : Text.cutAt ':' entry with
  | none =>
    rw [LinkedCard.ofEntry_of_no_colon (Text.cutAt_eq_none_iff.1 hcut), String.toList_ofList]
  | some parts =>
    obtain ⟨id, title⟩ := parts
    obtain ⟨rfl, hcolon⟩ := Text.cutAt_eq_some_iff.1 hcut
    rw [LinkedCard.ofEntry_of_colon hcolon, String.toList_ofList]
    exact List.sublist_append_left id _

/-- An id stands behind a separator at least, so it is shorter than the text. -/
theorem length_id_lt_of_mem_cards {text : String} {c : LinkedCard} (h : c ∈ (parse text).cards) :
    c.id.toList.length < text.toList.length := by
  rw [parse] at h
  cases hbar : Text.cutAt '|' text.toList with
  | some parts =>
    obtain ⟨board, rest⟩ := parts
    obtain ⟨htext, -⟩ := Text.cutAt_eq_some_iff.1 hbar
    simp only [hbar, cardsOf_eq_filter] at h
    obtain ⟨entry, hentry, rfl⟩ := List.mem_map.1 (List.mem_filter.1 h).1
    have hid := ((id_ofEntry_sublist entry).trans (Text.sublist_of_mem_pieces hentry)).length_le
    rw [htext, List.length_append, List.length_cons]
    omega
  | none =>
    rw [hbar] at h
    cases hboard : Text.cutAt ':' text.toList with
    | none => simp [parseOld, hboard] at h
    | some parts =>
      obtain ⟨board, rest⟩ := parts
      cases hid : Text.cutAt ':' rest with
      | none => simp [parseOld, hboard, hid] at h
      | some parts =>
        obtain ⟨id, title⟩ := parts
        obtain ⟨htext, -⟩ := Text.cutAt_eq_some_iff.1 hboard
        obtain ⟨rfl, -⟩ := Text.cutAt_eq_some_iff.1 hid
        simp only [parseOld, hboard, hid, List.mem_singleton] at h
        rw [h, htext, String.toList_ofList]
        simp only [List.length_append, List.length_cons]
        omega

/-- No text is the id of a card that it links. -/
theorem notMem_cardIds_parse (text : String) : text ∉ (parse text).cardIds := by
  intro h
  obtain ⟨c, hc, hid⟩ := List.mem_map.1 h
  have hlength := length_id_lt_of_mem_cards hc
  rw [hid] at hlength
  exact Nat.lt_irrefl _ hlength

end LinkedCards

namespace Filter

open Property (Choice Kind Template Value)

namespace Clause

variable {c : Clause} {templates : List Template} {card : Card} {value : String}

/-! ## Clauses that look elsewhere -/

/-- A stored value is not looked at by a clause on the title. -/
theorem isMet_setProperty_of_title (hid : c.propertyId = titleId) (value : Value) :
    c.isMet templates (card.setProperty c.propertyId value) = c.isMet templates card := by
  have hsame (kind : Option Kind) :
      Comparand.ofCard titleId kind (card.setProperty titleId value) =
        Comparand.ofCard titleId kind card := by
    simp only [Comparand.ofCard, Comparand.storedValue, if_true]
    rfl
  simp only [isMet, hid, hsame]

/-- A clause that asks for links by name is met if the text in store links a card with one of its
    values as id. -/
theorem isMet_iff_exists_link (hcondition : c.condition = .includes) (hvalues : c.values ≠ [])
    (hid : c.propertyId ≠ titleId) (hkind : c.kind? templates = some .card)
    (hstored : card.property? c.propertyId = some (.text value)) (hvalue : value ≠ "") :
    c.isMet templates card ↔ ∃ id ∈ c.values, id ∈ (LinkedCards.parse value).cardIds := by
  have hset := Comparand.valueOf_of_isSet (isSet_text_iff.2 hvalue) (some .card) card
  have hlinks : (Comparand.ofCard c.propertyId (some .card) card).links =
      some (LinkedCards.parse value).cardIds := by
    simp [Comparand.ofCard, Comparand.storedValue, Comparand.linksOf, hid, hstored, hset, textOf,
      Value.asText?]
  simp [isMet, Comparand.meets, Comparand.includesAny, hcondition, hvalues, hkind, hlinks]

/-! ## One clause and its suggestion -/

/-- A card that stores the suggested value meets the clause, with two exceptions. A clause on the
    title is met only if it was met before. A clause on links is met only if the value links a card
    that one of the other values names. -/
theorem isMet_suggested_iff (hgives : c.Gives templates value) (card : Card) :
    c.isMet templates (card.setProperty c.propertyId (.text value)) ↔
      if c.propertyId = titleId then c.isMet templates card = true
      else c.kind? templates = some .card →
        ∃ id ∈ c.values.tail, id ∈ (LinkedCards.parse value).cardIds := by
  have hstored : (card.setProperty c.propertyId (.text value)).property? c.propertyId =
      some (.text value) := by
    rw [Card.property?_setProperty, if_pos rfl]
  split
  case isTrue hid => rw [isMet_setProperty_of_title hid]
  case isFalse hid =>
    by_cases hkind : c.kind? templates = some .card
    · obtain ⟨t, ht, -, -, hfirst⟩ := suggestion?_cases hgives.1
      rcases hfirst with ⟨hcondition, hhead⟩ | ⟨-, hselect, -⟩
      · obtain ⟨others, hvalues⟩ := List.head?_eq_some_iff.1 hhead
        have hne : c.values ≠ [] := by simp [hvalues]
        rw [isMet_iff_exists_link hcondition hne hid hkind hstored hgives.2, hvalues]
        simp [hkind, LinkedCards.notMem_cardIds_parse]
      · simp [kind?, ht, hselect] at hkind
    · exact iff_of_true (isMet_of_gives hgives ⟨hid, hkind⟩ hstored) fun h => absurd h hkind

end Clause

/-- The suggestion for the links is a text that links a card, and the second value names this card.
    The suggestion for the state is its first choice. -/
theorem isMet_suggested_link :
    let templates : List Template :=
      [⟨"related", "Related", .card, [], none⟩,
        ⟨"state", "State", .select, [⟨"todo", "To do", ""⟩], none⟩]
    let card := Card.new "c" "b" "Card" 7
    let links : Clause := ⟨"related", .includes, ["b2|c1:One", "c1"]⟩
    let state : Clause := ⟨"state", .isNotEmpty, []⟩
    links.Gives templates "b2|c1:One" ∧ state.Gives templates "todo" ∧
      links.isMet templates (card.setProperty "related" (.text "b2|c1:One")) ∧
      state.isMet templates (card.setProperty "state" (.text "todo")) := by
  intro templates card links state
  have hlinks : links.Gives templates "b2|c1:One" := by decide
  have hstate : state.Gives templates "todo" := by decide
  have hmet := (Clause.isMet_suggested_iff hlinks card).2 (by decide)
  have hmet' := (Clause.isMet_suggested_iff hstate card).2 (by decide)
  exact ⟨hlinks, hstate, hmet, hmet'⟩

/-- The id of a card is suggested for the links, where it links nothing, and a value is suggested
    for the title, which stays as it is. -/
theorem suggested_value_missed :
    let templates : List Template :=
      [⟨"related", "Related", .card, [], none⟩, ⟨"title", "Title", .text, [], none⟩]
    let card := Card.new "c" "b" "Card" 7
    let links : Clause := ⟨"related", .includes, ["c1"]⟩
    let title : Clause := ⟨"title", .includes, ["plan"]⟩
    links.suggestion? templates = some "c1" ∧
      links.isMet templates (card.setProperty "related" (.text "c1")) = false ∧
      title.suggestion? templates = some "plan" ∧
      title.isMet templates (card.setProperty "title" (.text "plan")) = false := by
  decide

end Filter
end Corkboard
