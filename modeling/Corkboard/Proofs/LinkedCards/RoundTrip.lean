-- SUMMARY: Which links are read back from the text that is stored for them, and what is kept when an old value is stored anew.
import Corkboard.LinkedCards

/-!
# Links, stored and read back

Nothing is escaped when links are stored. A separator inside an id or a title is therefore taken
for a separator, and a part that is left empty is dropped or filled in. The reader of the current
format never gives links with such a part, so what it gives is stored without a loss. The reader
of the old format takes its three parts as they are, and may give a link that the current format
cannot express.
-/

namespace Corkboard

namespace LinkedCard

/-! ## Legible links -/

/-- The id can be read back: there is one, and no separator cuts it short. -/
structure LegibleId (c : LinkedCard) : Prop where
  id_set : c.id ≠ ""
  id_no_colon : ':' ∉ c.id.toList
  id_no_comma : ',' ∉ c.id.toList

/-- The whole link can be read back. The title may have colons, since only the first colon
    separates. -/
structure Legible (c : LinkedCard) : Prop extends LegibleId c where
  title_set : c.title ≠ ""
  title_no_comma : ',' ∉ c.title.toList

/-- The id of a link without neighbours is all that is read back as an id. The title may be cut
    at its commas, but what stands behind a comma has no id of its own. -/
structure LegibleAlone (c : LinkedCard) : Prop extends LegibleId c where
  no_further_id : ∀ part ∈ (Text.pieces ',' c.title.toList).tail,
    part = [] ∨ part.head? = some ':'

theorem Legible.alone {c : LinkedCard} (h : c.Legible) : c.LegibleAlone where
  toLegibleId := h.toLegibleId
  no_further_id := by simp [Text.pieces_of_notMem h.title_no_comma]

/-! ## Single entries -/

theorem ofEntry_of_no_colon {entry : List Char} (h : ':' ∉ entry) :
    ofEntry entry = ⟨String.ofList entry, untitled⟩ := by
  rw [ofEntry, Text.cutAt_eq_none_iff.2 h]

theorem ofEntry_of_colon {id : List Char} (h : ':' ∉ id) (title : List Char) :
    ofEntry (id ++ ':' :: title) =
      ⟨String.ofList id, if title = [] then untitled else String.ofList title⟩ := by
  rw [ofEntry, Text.cutAt_append h]
  cases title with
  | nil => rfl
  | cons d rest => rfl

theorem ofEntry_entry {c : LinkedCard} (hid : ':' ∉ c.id.toList) (htitle : c.title ≠ "") :
    ofEntry c.entry.toList = c := by
  have htitle' : c.title.toList ≠ [] := fun h => htitle (String.toList_eq_nil_iff.1 h)
  rw [toList_entry, ofEntry_of_colon hid, if_neg htitle', String.ofList_toList,
    String.ofList_toList]

/-- An entry has no id exactly if nothing stands in front of its first colon. -/
theorem id_ofEntry_eq_empty_iff {entry : List Char} :
    (ofEntry entry).id = "" ↔ entry = [] ∨ entry.head? = some ':' := by
  cases hcut : Text.cutAt ':' entry with
  | none =>
    have hcolon := Text.cutAt_eq_none_iff.1 hcut
    rw [ofEntry_of_no_colon hcolon]
    cases entry with
    | nil => simp
    | cons d rest =>
      have hd : d ≠ ':' := fun h => hcolon (h ▸ List.mem_cons_self ..)
      simp [hd]
  | some parts =>
    obtain ⟨id, title⟩ := parts
    obtain ⟨rfl, hcolon⟩ := Text.cutAt_eq_some_iff.1 hcut
    rw [ofEntry_of_colon hcolon]
    cases id with
    | nil => simp
    | cons d rest =>
      have hd : d ≠ ':' := fun h => hcolon (h ▸ List.mem_cons_self ..)
      simp [hd]

/-- What is read from an entry can be written and read again. -/
theorem legible_ofEntry {entry : List Char} (hcomma : ',' ∉ entry) (hid : (ofEntry entry).id ≠ "") :
    (ofEntry entry).Legible := by
  have huntitled : ',' ∉ untitled.toList := by decide
  cases hcut : Text.cutAt ':' entry with
  | none =>
    have hcolon := Text.cutAt_eq_none_iff.1 hcut
    rw [ofEntry_of_no_colon hcolon] at hid ⊢
    exact {
      id_set := hid
      id_no_colon := by simpa using hcolon
      id_no_comma := by simpa using hcomma
      title_set := by simp [untitled]
      title_no_comma := huntitled }
  | some parts =>
    obtain ⟨id, title⟩ := parts
    obtain ⟨rfl, hcolon⟩ := Text.cutAt_eq_some_iff.1 hcut
    simp only [List.mem_append, List.mem_cons, not_or] at hcomma
    obtain ⟨hcomma, -, hcomma'⟩ := hcomma
    rw [ofEntry_of_colon hcolon] at hid ⊢
    refine ⟨⟨hid, by simpa using hcolon, by simpa using hcomma⟩, ?_, ?_⟩
    · by_cases htitle : title = []
      · simp [htitle, untitled]
      · simp [htitle]
    · by_cases htitle : title = []
      · simpa [htitle] using huntitled
      · simpa [htitle] using hcomma'

end LinkedCard

namespace LinkedCards

/-! ## Entries of the current format -/

/-- An entry is dropped if and only if it has no id. -/
theorem cardsOf_eq_filter (text : List Char) :
    cardsOf text =
      ((Text.pieces ',' text).map LinkedCard.ofEntry).filter (!·.id.isEmpty) := by
  rw [cardsOf, List.filter_map, List.filter_map, List.filter_filter]
  congr 2
  funext entry
  cases entry with
  | nil => rfl
  | cons d rest => simp

theorem legible_of_mem_cardsOf {text : List Char} {c : LinkedCard} (h : c ∈ cardsOf text) :
    c.Legible := by
  rw [cardsOf_eq_filter, List.mem_filter, List.mem_map] at h
  obtain ⟨⟨entry, hentry, rfl⟩, hid⟩ := h
  exact LinkedCard.legible_ofEntry (Text.notMem_of_mem_pieces hentry) (by simpa using hid)

theorem cardsOf_intercalate {cards : List LinkedCard} (h : ∀ c ∈ cards, c.Legible) :
    cardsOf (List.intercalate [','] (cards.map fun c => c.entry.toList)) = cards := by
  cases cards with
  | nil => rfl
  | cons first rest =>
    have hplain : ∀ text ∈ (first :: rest).map fun c => c.entry.toList, ',' ∉ text := by
      intro text htext
      obtain ⟨c, hc, rfl⟩ := List.mem_map.1 htext
      simp [(h c hc).id_no_comma, (h c hc).title_no_comma]
    have hread : ∀ c ∈ first :: rest, LinkedCard.ofEntry c.entry.toList = c :=
      fun c hc => LinkedCard.ofEntry_entry (h c hc).id_no_colon (h c hc).title_set
    have hmap : (first :: rest).map (LinkedCard.ofEntry ∘ fun c => c.entry.toList) =
        first :: rest :=
      (List.map_congr_left hread).trans (List.map_id' _)
    rw [cardsOf_eq_filter, Text.pieces_intercalate (by simp) hplain, List.map_map, hmap]
    exact List.filter_eq_self.2 fun c hc => by simpa using (h c hc).id_set

theorem ids_cardsOf (text : List Char) :
    (cardsOf text).map (·.id) =
      ((Text.pieces ',' text).map fun entry => (LinkedCard.ofEntry entry).id).filter
        (!·.isEmpty) := by
  rw [cardsOf_eq_filter, List.filter_map, List.map_map, List.filter_map]
  rfl

/-- The ids that are read from a single entry: its own, and those behind the commas of its
    title. -/
theorem ids_cardsOf_entry {c : LinkedCard} (h : c.LegibleId) :
    (cardsOf c.entry.toList).map (·.id) =
      c.id :: ((Text.pieces ',' c.title.toList).tail.map fun entry =>
        (LinkedCard.ofEntry entry).id).filter (!·.isEmpty) := by
  cases hpieces : Text.pieces ',' c.title.toList with
  | nil => exact absurd hpieces (Text.pieces_ne_nil ',' _)
  | cons first more =>
    have hfront : ',' ∉ c.id.toList ++ [':'] := by simp [h.id_no_comma]
    have hcut : Text.pieces ',' c.entry.toList = (c.id.toList ++ ':' :: first) :: more := by
      simpa using Text.pieces_append hfront hpieces
    have hread : (LinkedCard.ofEntry (c.id.toList ++ ':' :: first)).id = c.id := by
      rw [LinkedCard.ofEntry_of_colon h.id_no_colon, String.ofList_toList]
    rw [ids_cardsOf, hcut, List.map_cons, hread, List.filter_cons_of_pos (by simpa using h.id_set),
      List.tail_cons]

theorem ids_cardsOf_entry_eq_iff {c : LinkedCard} :
    (cardsOf c.entry.toList).map (·.id) = [c.id] ↔ c.LegibleAlone := by
  constructor
  · intro hids
    have hmem : c.id ∈ (cardsOf c.entry.toList).map (·.id) := hids ▸ List.mem_singleton_self c.id
    obtain ⟨c', hc', hid⟩ := List.mem_map.1 hmem
    obtain ⟨hset, hcolon, hcomma⟩ := (legible_of_mem_cardsOf hc').toLegibleId
    have hlegible : c.LegibleId := ⟨hid ▸ hset, hid ▸ hcolon, hid ▸ hcomma⟩
    rw [ids_cardsOf_entry hlegible, List.cons_inj_right, List.filter_eq_nil_iff] at hids
    refine ⟨hlegible, fun part hpart => LinkedCard.id_ofEntry_eq_empty_iff.1 ?_⟩
    simpa using hids _ (List.mem_map_of_mem hpart)
  · intro h
    rw [ids_cardsOf_entry h.toLegibleId, List.cons_inj_right, List.filter_eq_nil_iff]
    intro id hid
    obtain ⟨part, hpart, rfl⟩ := List.mem_map.1 hid
    simp [LinkedCard.id_ofEntry_eq_empty_iff.2 (h.no_further_id part hpart)]

/-! ## Whole values -/

section Parse

variable {text : String}

theorem parse_of_bar {board rest : List Char} (htext : text.toList = board ++ '|' :: rest)
    (hboard : '|' ∉ board) : parse text = ⟨String.ofList board, cardsOf rest⟩ := by
  rw [parse, htext, Text.cutAt_append hboard]

theorem parse_of_no_bar (htext : '|' ∉ text.toList) : parse text = parseOld text.toList := by
  rw [parse, Text.cutAt_eq_none_iff.2 htext]

/-- The old format has at most one card, and its board is a part of the text. -/
theorem parseOld_parts (text : List Char) :
    (parseOld text).boardId.toList ⊆ text ∧
      ((parseOld text).cards = [] ∨ ∃ c, (parseOld text).cards = [c]) := by
  rw [parseOld]
  cases hboard : Text.cutAt ':' text with
  | none => simp
  | some parts =>
    obtain ⟨board, rest⟩ := parts
    obtain ⟨rfl, -⟩ := Text.cutAt_eq_some_iff.1 hboard
    cases hid : Text.cutAt ':' rest with
    | none => simp [hid]
    | some parts => simp [hid]

/-- A bar always ends the board, so no board that is read has one. -/
theorem bar_notMem_boardId (text : String) : '|' ∉ (parse text).boardId.toList := by
  by_cases hbar : '|' ∈ text.toList
  · obtain ⟨board, rest, htext, hboard⟩ := List.eq_append_cons_of_mem hbar
    simpa [parse_of_bar htext hboard] using hboard
  · rw [parse_of_no_bar hbar]
    exact fun h => hbar ((parseOld_parts _).1 h)

/-- The current format gives only links that it can express. -/
theorem legible_of_mem_cards {c : LinkedCard} (hbar : '|' ∈ text.toList)
    (hc : c ∈ (parse text).cards) : c.Legible := by
  obtain ⟨board, rest, htext, hboard⟩ := List.eq_append_cons_of_mem hbar
  rw [parse_of_bar htext hboard] at hc
  exact legible_of_mem_cardsOf hc

end Parse

theorem parse_stored {l : LinkedCards} (hboard : l.boardId ≠ "") (hbar : '|' ∉ l.boardId.toList) :
    parse l.stored =
      ⟨l.boardId, cardsOf (List.intercalate [','] (l.cards.map fun c => c.entry.toList))⟩ := by
  rw [parse_of_bar (toList_stored hboard) hbar, String.ofList_toList]

/-- What is stored for some links gives these links again exactly if they are the empty ones, or
    if there is a board without a bar and every link is legible. -/
theorem parse_stored_eq_iff (l : LinkedCards) :
    parse l.stored = l ↔
      l = empty ∨ l.boardId ≠ "" ∧ '|' ∉ l.boardId.toList ∧ ∀ c ∈ l.cards, c.Legible := by
  constructor
  · intro h
    by_cases hboard : l.boardId = ""
    · rw [stored_of_no_board hboard, parse_empty] at h
      exact .inl h.symm
    · have hbar : '|' ∈ l.stored.toList := by simp [toList_stored hboard]
      refine .inr ⟨hboard, ?_, fun c hc => ?_⟩
      · exact h ▸ bar_notMem_boardId l.stored
      · exact legible_of_mem_cards hbar (h.symm ▸ hc)
  · rintro (rfl | ⟨hboard, hbar, hlegible⟩)
    · rw [stored_of_no_board rfl, parse_empty]
    · rw [parse_stored hboard hbar, cardsOf_intercalate hlegible]

/-- Storing anew what was read from a stored value. From the current format nothing is lost. From
    the old format the link is kept exactly if it is legible, and its id exactly if it is legible
    alone. -/
theorem parse_stored_parse (text : String) (hboard : (parse text).boardId ≠ "") :
    ('|' ∈ text.toList → parse (parse text).stored = parse text) ∧
      (parse (parse text).stored = parse text ↔ ∀ c ∈ (parse text).cards, c.Legible) ∧
      ((parse (parse text).stored).cardIds = (parse text).cardIds ↔
        ∀ c ∈ (parse text).cards, c.LegibleAlone) := by
  have hkept : parse (parse text).stored = parse text ↔ ∀ c ∈ (parse text).cards, c.Legible := by
    have hnonempty : parse text ≠ empty := fun h => hboard (by rw [h]; rfl)
    simp [parse_stored_eq_iff, hnonempty, hboard, bar_notMem_boardId]
  have hcurrent : '|' ∈ text.toList → parse (parse text).stored = parse text :=
    fun hbar => hkept.2 fun c hc => legible_of_mem_cards hbar hc
  refine ⟨hcurrent, hkept, ?_⟩
  by_cases hbar : '|' ∈ text.toList
  · rw [hcurrent hbar]
    exact iff_of_true rfl fun c hc => (legible_of_mem_cards hbar hc).alone
  · rw [parse_stored hboard (bar_notMem_boardId text), cardIds, cardIds]
    -- The old format gives one link at most, and this link is stored without neighbours.
    have hcards := (parseOld_parts text.toList).2
    rw [← parse_of_no_bar hbar] at hcards
    rcases hcards with hcards | ⟨c, hcards⟩
    · simp [hcards, cardsOf, Text.pieces]
    · simp only [hcards, List.map_cons, List.map_nil, List.intercalate_singleton,
        List.forall_mem_singleton]
      exact ids_cardsOf_entry_eq_iff

/-- A title of the old format with a comma in it is cut there, but the id stays. -/
theorem parse_stored_parse_comma_in_title :
    let l := parse "b1:c9:Draft,:review"
    l = ⟨"b1", [⟨"c9", "Draft,:review"⟩]⟩ ∧ l.boardId ≠ "" ∧ parse l.stored ≠ l ∧
      (parse l.stored).cardIds = l.cardIds := by
  intro l
  have hl : l = ⟨"b1", [⟨"c9", "Draft,:review"⟩]⟩ := by decide
  have hboard : l.boardId ≠ "" := by decide
  obtain ⟨-, hkept, hids⟩ := parse_stored_parse "b1:c9:Draft,:review" hboard
  refine ⟨hl, hboard, ?_, hids.2 ?_⟩
  · intro hsame
    have hlegible := hkept.1 hsame ⟨"c9", "Draft,:review"⟩ (by decide)
    exact hlegible.title_no_comma (by decide)
  · intro c hc
    obtain rfl : c = ⟨"c9", "Draft,:review"⟩ := List.mem_singleton.1 hc
    exact ⟨⟨by decide, by decide, by decide⟩, by decide⟩

/-- A link of the old format without an id is lost when it is stored anew. -/
theorem parse_stored_parse_drops_empty_id :
    let l := parse "b1::x"
    l.boardId ≠ "" ∧ l.cardIds = [""] ∧ parse l.stored ≠ l ∧ (parse l.stored).cardIds = [] := by
  decide

end LinkedCards
end Corkboard
