-- SUMMARY: Cards with several people or several choices share a column exactly if they store the same entries.
import Mathlib.Data.List.Sort
import Corkboard.Proofs.Grouping.Columns

/-!
# Cards with the same entries

A property with several people or choices stores its entries in any order, and may repeat them or
have empty texts among them. The id of a column is made from the entries in ascending order, each of
them once, so it depends on the set of entries only. Commas stand between the entries, and nothing
is escaped. An entry that has a comma itself could not be told from two entries, and without such
entries the id gives the entries back.
-/

namespace Corkboard.Grouping

open Property (Template Value)

/-! ## Entries in ascending order -/

theorem mem_dropRepeated {entries : List String} {entry : String} :
    entry ∈ dropRepeated entries ↔ entry ∈ entries := by
  fun_induction dropRepeated entries with
  | case1 b rest ih => simp [ih]
  | case2 a b rest hne ih => rw [List.mem_cons, ih, List.mem_cons (b := a)]
  | case3 short => rfl

/-- What is left of ascending entries ascends strictly. -/
theorem pairwise_dropRepeated {entries : List String} (h : entries.Pairwise (· ≤ ·)) :
    (dropRepeated entries).Pairwise (· < ·) := by
  fun_induction dropRepeated entries with
  | case1 b rest ih => exact ih h.of_cons
  | case2 a b rest hne ih =>
    obtain ⟨hfirst, hrest⟩ := List.pairwise_cons.1 h
    have hab : a < b := Std.lt_of_le_of_ne (hfirst b (List.mem_cons_self ..)) hne
    refine List.pairwise_cons.2 ⟨fun entry hentry => ?_, ih hrest⟩
    rcases List.mem_cons.1 (mem_dropRepeated.1 hentry) with rfl | hentry
    · exact hab
    · exact Std.lt_of_lt_of_le hab ((List.pairwise_cons.1 hrest).1 entry hentry)
  | case3 short hshort =>
    rcases short with _ | ⟨a, _ | ⟨b, rest⟩⟩
    · exact .nil
    · exact List.pairwise_singleton ..
    · exact absurd rfl (hshort a b rest)

/-- The texts that a card stores for a template: none, one, or those of a list. -/
def storedTexts (template : Template) (card : Card) : List String :=
  match card.property? template.id with
  | none => []
  | some (.text s) => [s]
  | some (.list items) => items

section Entries

variable {template : Template} {card : Card}

theorem entries_eq_filter_storedTexts (template : Template) (card : Card) :
    ((card.property? template.id).map Value.entries).getD [] =
      (storedTexts template card).filter (!·.isEmpty) := by
  rw [storedTexts]
  cases card.property? template.id with
  | none => rfl
  | some value => cases value <;> rfl

theorem mem_sortedEntries {entry : String} :
    entry ∈ sortedEntries template card ↔ entry ≠ "" ∧ entry ∈ storedTexts template card := by
  rw [sortedEntries, mem_dropRepeated, List.mem_mergeSort, entries_eq_filter_storedTexts,
    List.mem_filter, and_comm]
  simp

theorem pairwise_sortedEntries (template : Template) (card : Card) :
    (sortedEntries template card).Pairwise (· < ·) :=
  pairwise_dropRepeated (List.pairwise_mergeSort' (· ≤ ·) _)

/-- Cards have the same entries in order if and only if they store the same ones in any order. -/
theorem sortedEntries_eq_iff {a b : Card} :
    sortedEntries template a = sortedEntries template b ↔
      ∀ entry, entry ≠ "" → (entry ∈ storedTexts template a ↔ entry ∈ storedTexts template b) := by
  constructor
  · intro hsame entry hne
    have hmem : entry ∈ sortedEntries template a ↔ entry ∈ sortedEntries template b := by
      rw [hsame]
    simpa [mem_sortedEntries, hne] using hmem
  · intro hsame
    refine (pairwise_sortedEntries template a).eq_of_mem_iff (pairwise_sortedEntries template b)
      fun entry => ?_
    rw [mem_sortedEntries, mem_sortedEntries]
    exact and_congr_right (hsame entry)

theorem sortedEntries_eq_nil_iff :
    sortedEntries template card = [] ↔ ∀ entry ∈ storedTexts template card, entry = "" := by
  rw [List.eq_nil_iff_forall_not_mem]
  refine forall_congr' fun entry => ?_
  rw [mem_sortedEntries, not_and', not_not]

end Entries

/-! ## Entries with commas between them -/

section Joined

/-- Texts without commas are given back by the text that joins them. -/
theorem pieces_joined {entries : List String} (hset : ∀ entry ∈ entries, entry ≠ "")
    (hcomma : ∀ entry ∈ entries, ',' ∉ entry.toList) :
    (((Text.pieces ',' (String.intercalate "," entries).toList).filter (!·.isEmpty)).map
      String.ofList) = entries := by
  have hjoined : (String.intercalate "," entries).toList =
      List.intercalate [','] (entries.map String.toList) := by
    simp [String.toList_intercalate]
  rw [hjoined]
  cases entries with
  | nil => rfl
  | cons entry rest =>
    have hplain : ∀ text ∈ (entry :: rest).map String.toList, ',' ∉ text := by
      simpa using hcomma
    have hkept : ((entry :: rest).map String.toList).filter (!·.isEmpty) =
        (entry :: rest).map String.toList :=
      List.filter_eq_self.2 (by simpa using hset)
    rw [Text.pieces_intercalate (by simp) hplain, hkept, List.map_map]
    simp

theorem joined_inj {entries others : List String} (hset : ∀ entry ∈ entries, entry ≠ "")
    (hset' : ∀ entry ∈ others, entry ≠ "") (hcomma : ∀ entry ∈ entries, ',' ∉ entry.toList)
    (hcomma' : ∀ entry ∈ others, ',' ∉ entry.toList) :
    String.intercalate "," entries = String.intercalate "," others ↔ entries = others := by
  refine ⟨fun h => ?_, fun h => h ▸ rfl⟩
  rw [← pieces_joined hset hcomma, h, pieces_joined hset' hcomma']

/-- Whatever commas the entries have, joining them gives the empty text only if there are none. -/
theorem joined_eq_empty_iff {entries : List String} (hset : ∀ entry ∈ entries, entry ≠ "") :
    String.intercalate "," entries = "" ↔ entries = [] := by
  cases entries with
  | nil => simp
  | cons entry rest =>
    have hentry := hset entry (List.mem_cons_self ..)
    cases rest with
    | nil => simpa using hentry
    | cons next more => simp [String.intercalate_cons_cons]

end Joined

/-! ## Columns of people and of choices -/

/-- The kinds whose columns are made from several entries. -/
def listKinds : List Property.Kind := [.multiPerson, .multiSelect]

theorem columnKey_of_entries {template : Template} (hkind : template.kind ∈ listKinds)
    (card : Card) :
    columnKey template card = String.intercalate "," (sortedEntries template card) := by
  have hkind' : template.kind = .multiPerson ∨ template.kind = .multiSelect := by
    simpa [listKinds] using hkind
  rcases hkind' with hkind | hkind
  · simp only [columnKey, headingOf?, hkind, people]
    cases hentries : sortedEntries template card <;> rfl
  · simp only [columnKey, headingOf?, hkind, choices]
    cases hentries : sortedEntries template card <;> rfl

/-- In columns of people or of choices, two cards whose entries have no commas share a column if and
    only if they store the same entries, apart from empty texts. The cards without entries are those
    under the empty id. -/
theorem together_iff_same_entries (template : Template) (visible hidden : List String)
    (cards : List Card) (hkind : template.kind ∈ listKinds) :
    let shown := columns template visible hidden cards
    (∀ i j a b, cards[i]? = some a → cards[j]? = some b →
      (∀ entry ∈ storedTexts template a ++ storedTexts template b, ',' ∉ entry.toList) →
        (shown.Together cards i j ↔ ∀ entry, entry ≠ "" →
          (entry ∈ storedTexts template a ↔ entry ∈ storedTexts template b))) ∧
      ∀ i a, cards[i]? = some a →
        ((∃ column ∈ shown.all, column.heading.id = "" ∧ i ∈ column.positions cards) ↔
          ∀ entry ∈ storedTexts template a, entry = "") := by
  intro shown
  have hset (card : Card) : ∀ entry ∈ sortedEntries template card, entry ≠ "" :=
    fun entry hentry => (mem_sortedEntries.1 hentry).1
  constructor
  · intro i j a b ha hb hcomma
    have hcommaA : ∀ entry ∈ sortedEntries template a, ',' ∉ entry.toList := fun entry hentry =>
      hcomma entry (List.mem_append_left _ (mem_sortedEntries.1 hentry).2)
    have hcommaB : ∀ entry ∈ sortedEntries template b, ',' ∉ entry.toList := fun entry hentry =>
      hcomma entry (List.mem_append_right _ (mem_sortedEntries.1 hentry).2)
    rw [columns_together_iff template visible hidden ha hb, columnKey_of_entries hkind,
      columnKey_of_entries hkind, joined_inj (hset a) (hset b) hcommaA hcommaB,
      sortedEntries_eq_iff]
  · intro i a ha
    rw [(columns_parts template visible hidden cards).exists_under_iff ha,
      columnKey_of_entries hkind, joined_eq_empty_iff (hset a), sortedEntries_eq_nil_iff]

/-- The same two people in another order, once with a repetition and an empty text, one of them
    alone, and a list of nothing but an empty text. -/
theorem people_together_in_any_order :
    let template : Template := ⟨"team", "Team", .multiPerson, [], none⟩
    let card (people : Value) := (Card.new "c" "b" "Card" 0).setProperty "team" people
    let cards := [card (.list ["u2", "", "u1", "u2"]), card (.list ["u1", "u2"]),
      card (.text "u1"), card (.list [""])]
    let shown := columns template [] ["u1,u2"] cards
    template.kind ∈ listKinds ∧ shown.Together cards 0 1 ∧ ¬shown.Together cards 0 2 ∧
      ∃ column ∈ shown.all, column.heading.id = "" ∧ 3 ∈ column.positions cards := by
  intro template card cards shown
  have hkind : template.kind ∈ listKinds := by decide
  obtain ⟨htogether, hempty⟩ := together_iff_same_entries template [] ["u1,u2"] cards hkind
  refine ⟨hkind, (htogether 0 1 _ _ rfl rfl (by decide)).2 fun entry hne => ?_, fun h => ?_,
    (hempty 3 _ rfl).2 (by decide)⟩
  · show entry ∈ ["u2", "", "u1", "u2"] ↔ entry ∈ ["u1", "u2"]
    grind
  · have hboth := (htogether 0 2 _ _ rfl rfl (by decide)).1 h "u2" (by decide)
    exact absurd (hboth.1 (by decide)) (by decide)

end Corkboard.Grouping
