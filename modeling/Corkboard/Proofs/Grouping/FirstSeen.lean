-- SUMMARY: Columns by value stand in the order in which their keys first occur among the cards, and each has the heading of its first card.
import Corkboard.Proofs.Grouping.Columns

/-!
# The order of columns by value

Nobody lists these columns, so their order and their headings come from the cards. A new key makes
a new last column, and a key that is known adds to the end of its column. So a column keeps its
place and its first card from the moment it is made.

The list of hidden ids comes in only when all columns are there. It parts them in two, and within
each part the order stays.
-/

namespace Corkboard.Grouping

open Property (Choice Template)

/-! ## The first card -/

/-- The column has a first card, and the heading that this card gives. -/
def Column.OpenedBy (headingOf : Card → Choice) (column : Column) : Prop :=
  ∃ first rest, column.cards = first :: rest ∧ column.heading = headingOf first

section FirstCard

variable {headingOf : Card → Choice}

theorem openedBy_addCard {columns : List Column} (card : Card)
    (h : ∀ column ∈ columns, column.OpenedBy headingOf) :
    ∀ column ∈ addCard (headingOf card) card columns, column.OpenedBy headingOf := by
  induction columns with
  | nil =>
    intro column hcolumn
    obtain rfl := List.mem_singleton.1 hcolumn
    exact ⟨card, [], rfl, rfl⟩
  | cons next others ih =>
    obtain ⟨hnext, hothers⟩ := List.forall_mem_cons.1 h
    rw [addCard]
    split
    case isTrue =>
      -- The column grows at its end, so its first card is still the first one.
      obtain ⟨first, rest, hcards, hheading⟩ := hnext
      have hgrown : next.cards ++ [card] = first :: (rest ++ [card]) := by
        rw [hcards, List.cons_append]
      exact List.forall_mem_cons.2 ⟨⟨first, rest ++ [card], hgrown, hheading⟩, hothers⟩
    case isFalse => exact List.forall_mem_cons.2 ⟨hnext, ih hothers⟩

theorem openedBy_collect (cards : List Card) :
    ∀ column ∈ collect headingOf cards, column.OpenedBy headingOf := by
  induction cards using List.reverseRecOn with
  | nil =>
    intro column hcolumn
    nomatch hcolumn
  | append_singleton cards card ih =>
    rw [collect_append]
    exact openedBy_addCard card ih

end FirstCard

/-! ## The order of the keys -/

/-- Both keys occur, and `a` occurs first. -/
structure OccursBefore (keys : List String) (a b : String) : Prop where
  left : a ∈ keys
  right : b ∈ keys
  first : keys.idxOf a < keys.idxOf b

/-- What comes further back does not change which of two keys occurs first. -/
theorem OccursBefore.append {keys : List String} {a b : String} (h : OccursBefore keys a b)
    (more : List String) : OccursBefore (keys ++ more) a b where
  left := List.mem_append_left more h.left
  right := List.mem_append_left more h.right
  first := by
    rw [List.idxOf_append_of_mem h.left, List.idxOf_append_of_mem h.right]
    exact h.first

theorem occursBefore_new {keys : List String} {a b : String} (ha : a ∈ keys) (hb : b ∉ keys) :
    OccursBefore (keys ++ [b]) a b where
  left := List.mem_append_left [b] ha
  right := List.mem_append_right keys (List.mem_singleton_self b)
  first := by
    have hlt : keys.idxOf a < keys.length := List.idxOf_lt_length_of_mem ha
    rw [List.idxOf_append_of_mem ha, List.idxOf_append_of_notMem hb]
    omega

/-- The keys of the cards, as their headings give them. -/
def keysOf (headingOf : Card → Choice) (cards : List Card) : List String :=
  cards.map fun card => (headingOf card).id

section Order

variable (headingOf : Card → Choice)

theorem mem_ids_collect_iff_mem_keysOf {cards : List Card} {id : String} :
    id ∈ (collect headingOf cards).map (·.heading.id) ↔ id ∈ keysOf headingOf cards := by
  rw [mem_ids_collect, keysOf, List.mem_map]

theorem ids_collect_in_order (cards : List Card) :
    ((collect headingOf cards).map (·.heading.id)).Pairwise
      (OccursBefore (keysOf headingOf cards)) := by
  induction cards using List.reverseRecOn with
  | nil => exact .nil
  | append_singleton cards card ih =>
    have hkeys : keysOf headingOf (cards ++ [card]) =
        keysOf headingOf cards ++ [(headingOf card).id] := by
      simp [keysOf]
    have hbefore := ih.imp fun h => h.append [(headingOf card).id]
    rw [collect_append, ids_addCard, hkeys]
    split
    case isTrue => exact hbefore
    case isFalse hnew =>
      rw [mem_ids_collect_iff_mem_keysOf] at hnew
      refine List.pairwise_append.2 ⟨hbefore, List.pairwise_singleton .., fun id hid key hkey => ?_⟩
      obtain rfl := List.mem_singleton.1 hkey
      exact occursBefore_new ((mem_ids_collect_iff_mem_keysOf headingOf).1 hid) hnew

end Order

/-! ## Visible and hidden columns -/

/-- The columns stand in the order in which their ids first occur among the keys. -/
def InOrderOf (keys : List String) (columns : List Column) : Prop :=
  columns.Pairwise fun a b => OccursBefore keys a.heading.id b.heading.id

section ByValue

variable (headingOf : Card → Choice) (hidden : List String) (cards : List Card)

theorem inOrderOf_collect : InOrderOf (keysOf headingOf cards) (collect headingOf cards) :=
  List.pairwise_map.1 (ids_collect_in_order headingOf cards)

theorem inOrderOf_visible :
    InOrderOf (keysOf headingOf cards) (byValue headingOf hidden cards).visible :=
  (inOrderOf_collect headingOf cards).sublist List.filter_sublist

theorem inOrderOf_hidden :
    InOrderOf (keysOf headingOf cards) (byValue headingOf hidden cards).hidden :=
  (inOrderOf_collect headingOf cards).sublist List.filter_sublist

theorem openedBy_byValue :
    ∀ column ∈ (byValue headingOf hidden cards).all, column.OpenedBy headingOf := by
  intro column hcolumn
  exact openedBy_collect cards column ((byValue_all_perm headingOf hidden cards).mem_iff.2 hcolumn)

theorem mem_hidden_byValue_iff {column : Column}
    (hcolumn : column ∈ (byValue headingOf hidden cards).all) :
    column ∈ (byValue headingOf hidden cards).hidden ↔ column.heading.id ∈ hidden := by
  have hmem := (byValue_all_perm headingOf hidden cards).mem_iff.2 hcolumn
  simp [byValue, hmem]

end ByValue

/-- Where columns follow the values of the cards, no two of them share a heading id, each has the
    cards with its key, and each card is in one. Just those are hidden whose ids are listed as
    hidden. Visible and hidden columns stand in the order in which their keys first occur, each
    with the heading that its first card gives. The list of visible ids makes no difference. -/
theorem value_columns_in_order_of_first_card (template : Template) (visible hidden : List String)
    (cards : List Card) (hkind : template.kind ∈ valueKinds) :
    ∃ headingOf, headingOf? template = some headingOf ∧
      let shown := columns template visible hidden cards
      (shown.all.map (·.heading.id)).Nodup ∧
        PartedBy (fun card => (headingOf card).id) cards shown.all ∧
        (∀ column ∈ shown.all, column ∈ shown.hidden ↔ column.heading.id ∈ hidden) ∧
        InOrderOf (keysOf headingOf cards) shown.visible ∧
        InOrderOf (keysOf headingOf cards) shown.hidden ∧
        (∀ column ∈ shown.all, column.OpenedBy headingOf) ∧
        ∀ visible', columns template visible' hidden cards = shown := by
  have hfollows : headingOf? template ≠ none := fun h => headingOf?_eq_none_iff.1 h hkind
  obtain ⟨headingOf, hheading⟩ := Option.ne_none_iff_exists'.1 hfollows
  have hcolumns (listed : List String) :
      columns template listed hidden cards = byValue headingOf hidden cards := by
    simp only [columns, hheading]
  refine ⟨headingOf, hheading, ?_⟩
  simp only [hcolumns]
  exact ⟨nodup_ids_byValue headingOf hidden cards, byValue_parts headingOf hidden cards,
    fun column => mem_hidden_byValue_iff headingOf hidden cards,
    inOrderOf_visible headingOf hidden cards, inOrderOf_hidden headingOf hidden cards,
    openedBy_byValue headingOf hidden cards, fun _ => trivial⟩

/-- Four cards of three people, one of whom is hidden. The columns of the other two stand in the
    order of their first cards, although the later one is listed as visible. -/
theorem person_columns_in_order_of_first_card :
    let template : Template := ⟨"owner", "Owner", .person, [], none⟩
    let card (id owner : String) := (Card.new id "b" "Card" 0).setProperty "owner" (.text owner)
    let cards := [card "1" "u2", card "2" "u1", card "3" "u3", card "4" "u2"]
    let shown := columns template ["u3"] ["u1"] cards
    template.kind ∈ valueKinds ∧ shown.visible.map (·.heading.id) = ["u2", "u3"] ∧
      shown.hidden.map (·.heading.id) = ["u1"] ∧ columns template [] ["u1"] cards = shown ∧
      ∃ headingOf, headingOf? template = some headingOf ∧
        InOrderOf (keysOf headingOf cards) shown.visible ∧
        ∀ column ∈ shown.all, column.OpenedBy headingOf := by
  intro template card cards shown
  have hkind : template.kind ∈ valueKinds := by decide
  obtain ⟨headingOf, hheading, -, -, -, hvisible, -, hopened, hlisted⟩ :=
    value_columns_in_order_of_first_card template ["u3"] ["u1"] cards hkind
  exact ⟨hkind, by decide, by decide, hlisted [], headingOf, hheading, hvisible, hopened⟩

end Corkboard.Grouping
