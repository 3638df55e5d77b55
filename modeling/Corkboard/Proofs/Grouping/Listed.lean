-- SUMMARY: Columns by choice stand as the caller lists them, with the choices that are not listed behind the visible ones, and each holds the cards that store its id.
import Corkboard.Proofs.Grouping.Columns

/-!
# Columns as they are listed

The caller may list any ids in any order, more than once, in both lists, or ids of choices that are
gone. Each listed id that names a choice has a column at its place, as often as it is listed. The
choices that are in neither list follow the visible ones in the order of the template. So no choice
is left out, and what names no choice goes to the empty id.

The empty id may be listed like any other, or be the id of a choice. Only if it has no place in
this way is it put in front of all.
-/

namespace Corkboard.Grouping

open Property (Choice Template Value)

variable {template : Template}

/-! ## What a card stores -/

theorem choiceId?_eq_some_iff_stored {card : Card} {id : String} (hne : id ≠ "") :
    choiceId? template card = some id ↔ card.property? template.id = some (.text id) := by
  rw [choiceId?, Option.filter_eq_some_iff, Option.bind_eq_some_iff]
  constructor
  · rintro ⟨⟨value, hvalue, htext⟩, -⟩
    cases value with
    | text s =>
      obtain rfl : s = id := Option.some.inj htext
      exact hvalue
    | list items => nomatch htext
  · intro hvalue
    exact ⟨⟨.text id, hvalue, rfl⟩, by simpa using hne⟩

/-- The card stores no value, the empty text, a list, or a text that is no choice id. -/
def NamesNoChoice (template : Template) (card : Card) : Prop :=
  match card.property? template.id with
  | none | some (.list _) => True
  | some (.text s) => s = "" ∨ s ∉ template.choices.map (·.id)

instance : DecidablePred (NamesNoChoice template) := fun card =>
  match h : card.property? template.id with
  | none => isTrue (by simp [NamesNoChoice, h])
  | some (.list _) => isTrue (by simp [NamesNoChoice, h])
  | some (.text s) =>
    decidable_of_iff (s = "" ∨ s ∉ template.choices.map (·.id)) (by simp [NamesNoChoice, h])

theorem isUnassigned_iff_namesNoChoice {card : Card} :
    isUnassigned template card ↔ NamesNoChoice template card := by
  rw [isUnassigned, choiceId?, NamesNoChoice]
  split
  case h_1 hvalue => simp [hvalue]
  case h_2 items hvalue => simp [hvalue, Value.asText?]
  case h_3 s hvalue =>
    by_cases hs : s = ""
    · simp [hvalue, Value.asText?, hs]
    · rw [or_iff_right hs, ← Template.findChoice?_eq_none_iff]
      simp [hvalue, Value.asText?, hs, Option.filter]

/-! ## The cards of a column -/

section Cards

variable {cards : List Card} {id : String} {column : Column}
  (h : columnOf? template cards id = some column)
include h

theorem cards_of_columnOf?_empty (hid : id = "") :
    column.cards = cards.filter (NamesNoChoice template ·) := by
  subst hid
  obtain rfl := Option.some.inj h
  refine List.filter_congr fun card _ => ?_
  rw [Bool.eq_iff_iff, isUnassigned_iff_namesNoChoice, decide_eq_true_iff]

theorem cards_of_columnOf?_choice (hid : id ≠ "") :
    column.cards = cards.filter (·.property? template.id = some (.text id)) := by
  rw [columnOf?, if_neg (by simpa using hid)] at h
  obtain ⟨choice, -, rfl⟩ := Option.map_eq_some_iff.1 h
  refine List.filter_congr fun card _ => ?_
  rw [Bool.eq_iff_iff, beq_iff_eq, decide_eq_true_iff, choiceId?_eq_some_iff_stored hid]

end Cards

/-! ## The order of the columns -/

section Order

variable (visible hidden : List String)

theorem shownIds_eq (template : Template) :
    shownIds template visible hidden =
      (if "" ∈ visible ++ unlisted template visible hidden ++ hidden then [] else [""]) ++
        (visible ++ unlisted template visible hidden) := by
  simp only [shownIds, List.contains_iff_mem]
  split <;> rfl

variable (cards : List Card)

theorem ids_filterMap_columnOf?_eq (ids : List String) :
    (ids.filterMap (columnOf? template cards)).map (·.heading.id) =
      ids.filter fun id => id = "" ∨ id ∈ template.choices.map (·.id) := by
  rw [ids_filterMap_columnOf?]
  refine List.filter_congr fun id _ => ?_
  rw [Bool.eq_iff_iff, hasColumn_iff, decide_eq_true_iff]

theorem mem_ids_byChoice_of_named {id : String} (h : id = "" ∨ id ∈ template.choices.map (·.id)) :
    id ∈ (byChoice template visible hidden cards).all.map (·.heading.id) := by
  rw [byChoice_all, ids_filterMap_columnOf?, List.mem_filter]
  exact ⟨mem_shownIds_append_of_hasColumn (hasColumn_iff.2 h), hasColumn_iff.2 h⟩

end Order

/-- Where columns follow the choices, the visible ones are those of the visible ids and then of the
    choices in neither list, behind the empty id if that has no place otherwise. The hidden ones are
    those of the hidden ids. Both leave out just the ids that are not empty and name no choice, so
    each choice has a column, and so has the empty id. The column of a choice has the cards that
    store its id, and the column of the empty id those that name no choice. -/
theorem choice_columns_as_listed (template : Template) (visible hidden : List String)
    (cards : List Card) (hkind : template.kind ∉ valueKinds) :
    let shown := columns template visible hidden cards
    let choiceIds := template.choices.map (·.id)
    let others := choiceIds.filter fun id => id ∉ visible ∧ id ∉ hidden
    let front := if "" ∈ visible ++ others ++ hidden then [] else [""]
    (shown.visible.map (·.heading.id) =
        (front ++ visible ++ others).filter fun id => id = "" ∨ id ∈ choiceIds) ∧
      (shown.hidden.map (·.heading.id) = hidden.filter fun id => id = "" ∨ id ∈ choiceIds) ∧
      (∀ id, id = "" ∨ id ∈ choiceIds → id ∈ shown.all.map (·.heading.id)) ∧
      ∀ column ∈ shown.all,
        (column.heading.id ≠ "" → column.cards =
          cards.filter (·.property? template.id = some (.text column.heading.id))) ∧
        (column.heading.id = "" → column.cards = cards.filter (NamesNoChoice template ·)) := by
  intro shown choiceIds others front
  have hshown : shown = byChoice template visible hidden cards := by
    simp only [shown, columns, headingOf?_eq_none_iff.2 hkind]
  have hothers : unlisted template visible hidden = others := by
    simp [unlisted, others, choiceIds]
  refine ⟨?_, ?_, ?_, ?_⟩
  · rw [hshown, List.append_assoc]
    simp only [byChoice, ids_filterMap_columnOf?_eq, shownIds_eq, hothers]
    rfl
  · rw [hshown]
    exact ids_filterMap_columnOf?_eq cards hidden
  · intro id hid
    rw [hshown]
    exact mem_ids_byChoice_of_named visible hidden cards hid
  · intro column hcolumn
    rw [hshown] at hcolumn
    have hof := columnOf?_of_mem_byChoice template visible hidden cards hcolumn
    exact ⟨cards_of_columnOf?_choice hof, cards_of_columnOf?_empty hof⟩

/-- Ids are listed twice or name no choice, and the empty id is not listed. -/
theorem choice_columns_as_listed_repeated :
    let choice (id : String) : Choice := ⟨id, id, ""⟩
    let template : Template :=
      ⟨"status", "Status", .select, [choice "open", choice "late", choice "done"], none⟩
    let card (id : String) (status : Value) :=
      (Card.new id "b" "Card" 0).setProperty "status" status
    let cards := [card "1" (.text "late"), card "2" (.text "gone"), card "3" (.list ["late"])]
    let shown := columns template ["late", "gone", "late"] ["done", "stale"] cards
    template.kind ∉ valueKinds ∧
      shown.visible.map (·.heading.id) = ["", "late", "late", "open"] ∧
      shown.hidden.map (·.heading.id) = ["done"] ∧
      ∀ column ∈ shown.all,
        (column.heading.id = "late" → column.cards = [card "1" (.text "late")]) ∧
        (column.heading.id = "" →
          column.cards = [card "2" (.text "gone"), card "3" (.list ["late"])]) := by
  intro choice template card cards shown
  have hkind : template.kind ∉ valueKinds := by decide
  obtain ⟨hvisible, hhidden, -, hcards⟩ :=
    choice_columns_as_listed template ["late", "gone", "late"] ["done", "stale"] cards hkind
  refine ⟨hkind, hvisible.trans (by decide), hhidden.trans (by decide), fun column hcolumn => ?_⟩
  obtain ⟨hchoice, hempty⟩ := hcards column hcolumn
  constructor
  · intro hid
    rw [hchoice (by simp [hid]), hid]
    decide
  · intro hid
    rw [hempty hid]
    decide

end Corkboard.Grouping
