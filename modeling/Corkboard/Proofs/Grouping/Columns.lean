-- SUMMARY: The columns of a board lose no card, and under distinct ids no card stands in two of them.
import Corkboard.Grouping.Columns
import Corkboard.Proofs.Grouping.ByChoice
import Corkboard.Proofs.Grouping.ByValue

/-!
# The columns of a board

Both ways to make columns part the cards by a key. Columns by value never share a heading id.
Columns by choice share one only if an id is listed twice or belongs to two choices.
-/

namespace Corkboard.Grouping

open Property (Choice Template)

/-- The heading id under which a card is found in the columns of a template. -/
def columnKey (template : Template) : Card → String :=
  match headingOf? template with
  | some headingOf => fun card => (headingOf card).id
  | none => slot template

theorem columns_parts (template : Template) (visible hidden : List String) (cards : List Card) :
    PartedBy (columnKey template) cards (columns template visible hidden cards).all := by
  cases hheading : headingOf? template with
  | some headingOf =>
    simp only [columns, columnKey, hheading]
    exact byValue_parts headingOf hidden cards
  | none =>
    simp only [columns, columnKey, hheading]
    exact byChoice_parts template visible hidden cards

/-- The cards at two positions of the list share a column. -/
def Columns.Together (shown : Columns) (cards : List Card) (i j : Nat) : Prop :=
  ∃ column ∈ shown.all, i ∈ column.positions cards ∧ j ∈ column.positions cards

theorem columns_together_iff (template : Template) (visible hidden : List String)
    {cards : List Card} {i j : Nat} {a b : Card} (ha : cards[i]? = some a)
    (hb : cards[j]? = some b) :
    (columns template visible hidden cards).Together cards i j ↔
      columnKey template a = columnKey template b :=
  (columns_parts template visible hidden cards).exists_common_iff ha hb

/-- The kinds whose columns follow the values of the cards. -/
def valueKinds : List Property.Kind :=
  [.createdBy, .updatedBy, .person, .multiPerson, .card, .multiSelect]

theorem headingOf?_eq_none_iff {template : Template} :
    headingOf? template = none ↔ template.kind ∉ valueKinds := by
  rw [headingOf?]
  cases template.kind <;> simp [valueKinds]

theorem nodup_ids_columns {template : Template} {visible hidden : List String} (cards : List Card)
    (h : template.kind ∈ valueKinds ∨ template.DistinctChoices ∧ (visible ++ hidden).Nodup) :
    ((columns template visible hidden cards).all.map (·.heading.id)).Nodup := by
  cases hheading : headingOf? template with
  | some headingOf =>
    simp only [columns, hheading]
    exact nodup_ids_byValue headingOf hidden cards
  | none =>
    obtain ⟨hchoices, hlists⟩ := h.resolve_left (headingOf?_eq_none_iff.1 hheading)
    simp only [columns, hheading]
    exact nodup_ids_byChoice template visible hidden cards hchoices hlists

/-- Every column has its cards in the order of the list, and every position of the list is in a
    column. Each position is in just one column if the columns follow the values, and otherwise
    if neither the choices nor the lists repeat an id. -/
theorem columns_part_cards (template : Template) (visible hidden : List String)
    (cards : List Card) :
    let all := (columns template visible hidden cards).all
    (∀ column ∈ all, column.cards = (column.positions cards).filterMap (cards[·]?)) ∧
      (∀ i < cards.length, ∃ column ∈ all, i ∈ column.positions cards) ∧
      (template.kind ∈ valueKinds ∨ template.DistinctChoices ∧ (visible ++ hidden).Nodup →
        (all.flatMap (·.positions cards)).Perm (List.range cards.length) ∧
          (columns template visible hidden cards).cardCount = cards.length) := by
  intro all
  have hparts := columns_parts template visible hidden cards
  refine ⟨fun column hcolumn => hparts.cards_eq_positions hcolumn,
    fun i hi => hparts.exists_mem_positions hi, fun h => ?_⟩
  have hdistinct := nodup_ids_columns cards h
  exact ⟨hparts.positions_perm hdistinct, (hparts.cards_perm hdistinct).length_eq⟩

/-- Two equal cards with a choice, and one with a value that names no choice. -/
theorem columns_part_repeated_cards :
    let template : Template := ⟨"status", "Status", .select, [⟨"open", "Open", ""⟩], none⟩
    let card (status : String) := (Card.new "c" "b" "Card" 0).setProperty "status" (.text status)
    let cards := [card "open", card "gone", card "open"]
    (template.kind ∈ valueKinds ∨ template.DistinctChoices ∧ ([] ++ ["open"]).Nodup) ∧
      (columns template [] ["open"] cards).all.map (·.positions cards) = [[1], [0, 2]] ∧
      (columns template [] ["open"] cards).cardCount = 3 := by
  intro template card cards
  have h : template.kind ∈ valueKinds ∨ template.DistinctChoices ∧ ([] ++ ["open"]).Nodup := by
    decide
  exact ⟨h, by decide, ((columns_part_cards template [] ["open"] cards).2.2 h).2⟩

end Corkboard.Grouping
