-- SUMMARY: Collecting cards by their values: the columns part the cards by the id of the heading that each card gives, and no two of them share a heading id.
import Mathlib.Data.List.Induction
import Corkboard.Grouping.ByValue
import Corkboard.Proofs.Grouping.Parting
import Corkboard.Proofs.Property.Lookup

/-!
# Columns by value

Cards are put into columns one at a time. The columns are seen through two questions: which heading
ids there are, and which cards the column of an id holds. One step changes the answers for one
id only.
-/

namespace Corkboard.Grouping

open Property (Choice)

/-- The cards of the first column with this heading id. -/
def heldBy (columns : List Column) (id : String) : List Card :=
  ((columns.find? (·.heading.id == id)).map (·.cards)).getD []

/-! ## One card -/

theorem ids_addCard (heading : Choice) (card : Card) (columns : List Column) :
    (addCard heading card columns).map (·.heading.id) =
      if heading.id ∈ columns.map (·.heading.id) then columns.map (·.heading.id)
      else columns.map (·.heading.id) ++ [heading.id] := by
  induction columns with
  | nil => simp [addCard]
  | cons column rest ih =>
    by_cases hid : column.heading.id = heading.id
    · simp [addCard, hid]
    · simp only [addCard, hid, if_false, List.map_cons, ih, List.mem_cons, Ne.symm hid, false_or]
      split <;> rfl

theorem heldBy_addCard (heading : Choice) (card : Card) (columns : List Column) (id : String) :
    heldBy (addCard heading card columns) id =
      heldBy columns id ++ if heading.id = id then [card] else [] := by
  induction columns with
  | nil => by_cases hid : heading.id = id <;> simp [heldBy, addCard, hid]
  | cons column rest ih =>
    simp only [heldBy] at ih ⊢
    rw [addCard]
    split
    case isTrue hcolumn =>
      by_cases hid : heading.id = id
      · simp [hcolumn, hid]
      · simp [hcolumn, hid]
    case isFalse hcolumn =>
      rw [List.find?_cons, List.find?_cons]
      by_cases hid : column.heading.id = id
      · have hheading : heading.id ≠ id := fun h => hcolumn (hid.trans h.symm)
        simp [hid, hheading]
      · rw [beq_eq_false_iff_ne.2 hid]
        exact ih

/-! ## All cards -/

section Collect

variable (headingOf : Card → Choice)

theorem collect_append (cards : List Card) (card : Card) :
    collect headingOf (cards ++ [card]) =
      addCard (headingOf card) card (collect headingOf cards) := by
  simp [collect]

theorem nodup_ids_collect (cards : List Card) :
    ((collect headingOf cards).map (·.heading.id)).Nodup := by
  induction cards using List.reverseRecOn with
  | nil => simp [collect]
  | append_singleton cards card ih =>
    rw [collect_append, ids_addCard]
    exact Property.nodup_append_missing ih _

theorem mem_ids_collect {cards : List Card} {id : String} :
    id ∈ (collect headingOf cards).map (·.heading.id) ↔
      ∃ card ∈ cards, (headingOf card).id = id := by
  induction cards using List.reverseRecOn with
  | nil => simp [collect]
  | append_singleton cards card ih =>
    have hmem : id ∈ (collect headingOf (cards ++ [card])).map (·.heading.id) ↔
        id ∈ (collect headingOf cards).map (·.heading.id) ∨ id = (headingOf card).id := by
      rw [collect_append, ids_addCard]
      split
      case isTrue hid => exact ⟨.inl, fun h => h.elim (fun h => h) fun h => h ▸ hid⟩
      case isFalse => rw [List.mem_append, List.mem_singleton]
    rw [hmem, ih, eq_comm (b := (headingOf card).id)]
    simp [or_and_right, exists_or]

theorem heldBy_collect (cards : List Card) (id : String) :
    heldBy (collect headingOf cards) id = cards.filter fun card => (headingOf card).id == id := by
  induction cards using List.reverseRecOn with
  | nil => rfl
  | append_singleton cards card ih =>
    rw [collect_append, heldBy_addCard, ih, List.filter_append]
    congr 1
    by_cases hid : (headingOf card).id = id <;> simp [hid]

/-- Collecting parts the cards by their heading ids. -/
theorem collect_parts (cards : List Card) :
    PartedBy (fun card => (headingOf card).id) cards (collect headingOf cards) where
  cards_eq column hcolumn := by
    have hfound : (collect headingOf cards).find? (·.heading.id == column.heading.id) =
        some column :=
      (Property.find?_key_eq_some_iff (nodup_ids_collect headingOf cards)).2 ⟨hcolumn, rfl⟩
    rw [← heldBy_collect, heldBy, hfound]
    rfl
  covered card hcard := (mem_ids_collect headingOf).2 ⟨card, hcard, rfl⟩

theorem byValue_all_perm (hidden : List String) (cards : List Card) :
    (collect headingOf cards).Perm (byValue headingOf hidden cards).all := by
  have hparts := List.filter_append_perm (fun column : Column => hidden.contains column.heading.id)
    (collect headingOf cards)
  exact hparts.symm.trans List.perm_append_comm

/-- Visible and hidden columns together part the cards by their heading ids. -/
theorem byValue_parts (hidden : List String) (cards : List Card) :
    PartedBy (fun card => (headingOf card).id) cards (byValue headingOf hidden cards).all :=
  (collect_parts headingOf cards).of_perm (byValue_all_perm headingOf hidden cards)

theorem nodup_ids_byValue (hidden : List String) (cards : List Card) :
    ((byValue headingOf hidden cards).all.map (·.heading.id)).Nodup :=
  ((byValue_all_perm headingOf hidden cards).map _).nodup_iff.1 (nodup_ids_collect headingOf cards)

end Collect

/-! ## Entries in order -/

theorem dropRepeated_of_nodup {entries : List String} (h : entries.Nodup) :
    dropRepeated entries = entries := by
  fun_induction dropRepeated entries with
  | case1 b rest => simp at h
  | case2 a b rest hne ih => rw [ih h.of_cons]
  | case3 short => rfl

/-- Distinct entries that are stored in ascending order stay as they are. -/
theorem sortedEntries_of_sorted {template : Property.Template} {card : Card} {entries : List String}
    (hstored : (card.property? template.id).map Property.Value.entries = some entries)
    (hsorted : entries.Pairwise (· ≤ ·)) (hdistinct : entries.Nodup) :
    sortedEntries template card = entries := by
  have hmerge : entries.mergeSort (· ≤ ·) = entries :=
    List.mergeSort_of_pairwise (hsorted.imp decide_eq_true)
  rw [sortedEntries, hstored, Option.getD_some, hmerge, dropRepeated_of_nodup hdistinct]

end Corkboard.Grouping
