-- SUMMARY: Columns that part a list of cards by a key: each position of the list is in the columns, and in just one of them if their headings are distinct.
import Mathlib.Data.List.Nodup
import Corkboard.Grouping.Basic

/-!
# Parting cards

Equal cards may occur more than once in a list, so a card is followed by its position. All
columns that the library makes take their cards by a key: a column has the cards whose key is
the id of its heading, in the order of the list.
-/

namespace Corkboard.Grouping

/-- The positions in `cards` of the cards that stand in the column. -/
def Column.positions (column : Column) (cards : List Card) : List Nat :=
  (List.range cards.length).filter fun i => cards[i]?.any (· ∈ column.cards)

theorem Column.mem_positions {column : Column} {cards : List Card} {i : Nat} :
    i ∈ column.positions cards ↔ ∃ card, cards[i]? = some card ∧ card ∈ column.cards := by
  simp only [positions, List.mem_filter, List.mem_range, Option.any_eq_true, decide_eq_true_eq]
  constructor
  · rintro ⟨-, card, hcard, hmem⟩
    exact ⟨card, hcard, hmem⟩
  · rintro ⟨card, hcard, hmem⟩
    exact ⟨(List.getElem?_eq_some_iff.1 hcard).1, card, hcard, hmem⟩

theorem filterMap_range_getElem? (cards : List Card) :
    (List.range cards.length).filterMap (cards[·]?) = cards := by
  induction cards with
  | nil => rfl
  | cons card rest ih =>
    rw [List.length_cons, List.range_succ_eq_map, List.filterMap_cons]
    simpa [List.filterMap_map, Function.comp_def] using ih

/-- The columns have the cards with the key of their heading, and each key has a column. -/
structure PartedBy (key : Card → String) (cards : List Card) (columns : List Column) : Prop where
  cards_eq : ∀ column ∈ columns, column.cards = cards.filter (key · == column.heading.id)
  covered : ∀ card ∈ cards, key card ∈ columns.map (·.heading.id)

namespace PartedBy

variable {key : Card → String} {cards : List Card} {columns : List Column}

theorem of_perm {columns' : List Column} (h : PartedBy key cards columns)
    (hperm : columns.Perm columns') : PartedBy key cards columns' where
  cards_eq column hcolumn := h.cards_eq column (hperm.mem_iff.2 hcolumn)
  covered card hcard := (hperm.map _).mem_iff.1 (h.covered card hcard)

variable (h : PartedBy key cards columns)
include h

theorem mem_positions_iff {column : Column} (hcolumn : column ∈ columns) {i : Nat} :
    i ∈ column.positions cards ↔ ∃ card, cards[i]? = some card ∧ key card = column.heading.id := by
  rw [Column.mem_positions, h.cards_eq column hcolumn]
  constructor
  · rintro ⟨card, hcard, hmem⟩
    exact ⟨card, hcard, by simpa using (List.mem_filter.1 hmem).2⟩
  · rintro ⟨card, hcard, hkey⟩
    exact ⟨card, hcard, List.mem_filter.2 ⟨List.mem_of_getElem? hcard, by simpa using hkey⟩⟩

/-- The card at a position stands under its key. -/
theorem exists_under_iff {i : Nat} {card : Card} (hcard : cards[i]? = some card) {id : String} :
    (∃ column ∈ columns, column.heading.id = id ∧ i ∈ column.positions cards) ↔ key card = id := by
  constructor
  · rintro ⟨column, hcolumn, hid, hi⟩
    obtain ⟨card', hcard', hkey⟩ := (h.mem_positions_iff hcolumn).1 hi
    obtain rfl : card = card' := Option.some.inj (hcard.symm.trans hcard')
    exact hkey.trans hid
  · intro hkey
    obtain ⟨column, hcolumn, hid⟩ := List.mem_map.1 (h.covered card (List.mem_of_getElem? hcard))
    exact ⟨column, hcolumn, hid.trans hkey, (h.mem_positions_iff hcolumn).2 ⟨card, hcard, hid.symm⟩⟩

/-- The cards at two positions share a column exactly if they have the same key. -/
theorem exists_common_iff {i j : Nat} {a b : Card} (ha : cards[i]? = some a)
    (hb : cards[j]? = some b) :
    (∃ column ∈ columns, i ∈ column.positions cards ∧ j ∈ column.positions cards) ↔
      key a = key b := by
  constructor
  · rintro ⟨column, hcolumn, hi, hj⟩
    have hkey := (h.exists_under_iff ha).1 ⟨column, hcolumn, rfl, hi⟩
    have hkey' := (h.exists_under_iff hb).1 ⟨column, hcolumn, rfl, hj⟩
    exact hkey.trans hkey'.symm
  · intro hsame
    obtain ⟨column, hcolumn, hid, hi⟩ := (h.exists_under_iff ha).2 rfl
    exact ⟨column, hcolumn, hi, (h.mem_positions_iff hcolumn).2 ⟨b, hb, hsame ▸ hid.symm⟩⟩

/-- A column has the cards at its positions, in the order of the list. -/
theorem cards_eq_positions {column : Column} (hcolumn : column ∈ columns) :
    column.cards = (column.positions cards).filterMap (cards[·]?) := by
  have hpositions : column.positions cards =
      (List.range cards.length).filter fun i => cards[i]?.any (key · == column.heading.id) := by
    apply List.filter_congr
    intro i _
    cases hcard : cards[i]? with
    | none => rfl
    | some card =>
      have hmem : card ∈ cards := List.mem_of_getElem? hcard
      rw [Bool.eq_iff_iff]
      simp [h.cards_eq column hcolumn, hmem]
  calc column.cards
      = cards.filter (key · == column.heading.id) := h.cards_eq column hcolumn
    _ = ((List.range cards.length).filterMap (cards[·]?)).filter
          (key · == column.heading.id) := by rw [filterMap_range_getElem?]
    _ = (column.positions cards).filterMap (cards[·]?) := by
      rw [hpositions, List.filter_filterMap, List.filterMap_filter]
      apply List.filterMap_congr
      intro i _
      cases cards[i]? with
      | none => rfl
      | some card => by_cases hkey : key card = column.heading.id <;> simp [hkey]

theorem exists_mem_positions {i : Nat} (hi : i < cards.length) :
    ∃ column ∈ columns, i ∈ column.positions cards := by
  obtain ⟨column, hcolumn, hkey⟩ := List.mem_map.1 (h.covered _ (List.getElem_mem hi))
  exact ⟨column, hcolumn,
    (h.mem_positions_iff hcolumn).2 ⟨cards[i], List.getElem?_eq_getElem hi, hkey.symm⟩⟩

variable (hdistinct : (columns.map (·.heading.id)).Nodup)
include hdistinct

/-- If no two columns share a heading id, each position is in just one column. -/
theorem positions_perm : (columns.flatMap (·.positions cards)).Perm (List.range cards.length) := by
  have hdisjoint : columns.Pairwise fun a b =>
      List.Disjoint (a.positions cards) (b.positions cards) := by
    refine (List.pairwise_map.1 hdistinct).imp_of_mem fun {a b} ha hb hne i hia hib => ?_
    obtain ⟨card, hcard, hkey⟩ := (h.mem_positions_iff ha).1 hia
    obtain ⟨card', hcard', hkey'⟩ := (h.mem_positions_iff hb).1 hib
    obtain rfl : card = card' := Option.some.inj (hcard.symm.trans hcard')
    exact hne (hkey.symm.trans hkey')
  have hnodup : (columns.flatMap (·.positions cards)).Nodup :=
    List.nodup_flatMap.2 ⟨fun _ _ => List.nodup_range.filter _, hdisjoint⟩
  apply (List.perm_ext_iff_of_nodup hnodup List.nodup_range).2
  intro i
  rw [List.mem_flatMap, List.mem_range]
  constructor
  · rintro ⟨column, -, hi⟩
    obtain ⟨card, hcard, -⟩ := Column.mem_positions.1 hi
    exact (List.getElem?_eq_some_iff.1 hcard).1
  · exact h.exists_mem_positions

theorem cards_perm : (columns.flatMap (·.cards)).Perm cards := by
  have hcards : columns.flatMap (·.cards) =
      (columns.flatMap (·.positions cards)).filterMap (cards[·]?) := by
    rw [List.filterMap_flatMap]
    exact List.flatMap_congr fun column hcolumn => h.cards_eq_positions hcolumn
  rw [hcards]
  exact ((h.positions_perm hdistinct).filterMap _).trans (.of_eq (filterMap_range_getElem? cards))

end PartedBy
end Corkboard.Grouping
