-- SUMMARY: Cutting a text at a separator, and searching for a piece.

/-!
# Pieces of a text

A stored list is one text with a separator between its entries. Cutting keeps empty pieces,
so a text with `n` separators always has `n + 1` pieces.
-/

namespace Corkboard.Text

/-- The parts before and after the first `sep`, if there is one. -/
def cutAt (sep : Char) : List Char → Option (List Char × List Char)
  | [] => none
  | c :: rest =>
    if c = sep then some ([], rest)
    else (cutAt sep rest).map fun (before, after) => (c :: before, after)

/-- All pieces between the separators, in order. The empty text is one empty piece. -/
def pieces (sep : Char) : List Char → List (List Char)
  | [] => [[]]
  | c :: rest =>
    if c = sep then [] :: pieces sep rest
    else
      match pieces sep rest with
      | [] => [[c]]
      | piece :: more => (c :: piece) :: more

/-- Whether `needle` stands somewhere in the text. The empty text stands everywhere. -/
def occurs (needle : List Char) : List Char → Bool
  | [] => needle.isEmpty
  | c :: rest => needle.isPrefixOf (c :: rest) || occurs needle rest

theorem occurs_iff_infix {needle text : List Char} : occurs needle text ↔ needle <:+: text := by
  induction text with
  | nil => simp [occurs]
  | cons c rest ih => simp [occurs, ih, List.infix_cons_iff]

theorem pieces_ne_nil (sep : Char) (text : List Char) : pieces sep text ≠ [] := by
  cases text with
  | nil => simp [pieces]
  | cons c rest =>
    simp only [pieces]
    split
    · simp
    · split <;> simp

/-- The text in front of another one without `sep` goes to its first piece. -/
theorem pieces_append {sep : Char} {front text piece : List Char} {more : List (List Char)}
    (hfront : sep ∉ front) (htext : pieces sep text = piece :: more) :
    pieces sep (front ++ text) = (front ++ piece) :: more := by
  induction front with
  | nil => exact htext
  | cons c rest ih =>
    simp only [List.mem_cons, not_or] at hfront
    obtain ⟨hc, hrest⟩ := hfront
    rw [List.cons_append, pieces, if_neg (Ne.symm hc), ih hrest]
    rfl

theorem pieces_of_notMem {sep : Char} {text : List Char} (h : sep ∉ text) :
    pieces sep text = [text] := by
  have hnil : pieces sep [] = [[]] := rfl
  simpa using pieces_append h hnil

/-- Cutting undoes the joining of texts without the separator. -/
theorem pieces_intercalate {sep : Char} {texts : List (List Char)} (hne : texts ≠ [])
    (htexts : ∀ text ∈ texts, sep ∉ text) : pieces sep (List.intercalate [sep] texts) = texts := by
  induction texts with
  | nil => exact absurd rfl hne
  | cons text rest ih =>
    obtain ⟨htext, hrest⟩ := List.forall_mem_cons.1 htexts
    cases rest with
    | nil => rw [List.intercalate_singleton, pieces_of_notMem htext]
    | cons next more =>
      have hmore := ih (List.cons_ne_nil next more) hrest
      have hcut : pieces sep (sep :: List.intercalate [sep] (next :: more)) =
          [] :: next :: more := by
        rw [pieces, if_pos rfl, hmore]
      rw [List.intercalate_cons_cons, List.append_assoc, List.singleton_append,
        pieces_append htext hcut, List.append_nil]

/-- No piece has a separator left. -/
theorem notMem_of_mem_pieces {sep : Char} {text piece : List Char} (h : piece ∈ pieces sep text) :
    sep ∉ piece := by
  induction text generalizing piece with
  | nil =>
    obtain rfl := List.mem_singleton.1 h
    exact List.not_mem_nil
  | cons c rest ih =>
    simp only [pieces] at h
    split at h
    case isTrue =>
      rcases List.mem_cons.1 h with rfl | h
      · exact List.not_mem_nil
      · exact ih h
    case isFalse hc =>
      cases hp : pieces sep rest with
      | nil => exact absurd hp (pieces_ne_nil sep rest)
      | cons p ps =>
        rw [hp] at h ih
        rcases List.mem_cons.1 h with rfl | h
        · exact List.not_mem_cons_of_ne_of_not_mem (Ne.symm hc) (ih (List.mem_cons_self ..))
        · exact ih (List.mem_cons_of_mem p h)

/-- A piece is a part of the text. -/
theorem sublist_of_mem_pieces {sep : Char} {text piece : List Char} (h : piece ∈ pieces sep text) :
    piece.Sublist text := by
  induction text generalizing piece with
  | nil =>
    obtain rfl := List.mem_singleton.1 h
    exact List.Sublist.slnil
  | cons c rest ih =>
    simp only [pieces] at h
    split at h
    case isTrue =>
      rcases List.mem_cons.1 h with rfl | h
      · exact List.nil_sublist _
      · exact (ih h).cons c
    case isFalse =>
      cases hp : pieces sep rest with
      | nil => exact absurd hp (pieces_ne_nil sep rest)
      | cons p ps =>
        rw [hp] at h ih
        rcases List.mem_cons.1 h with rfl | h
        · exact (ih (List.mem_cons_self ..)).cons_cons c
        · exact (ih (List.mem_cons_of_mem p h)).cons c

theorem cutAt_eq_none_iff {sep : Char} {text : List Char} : cutAt sep text = none ↔ sep ∉ text := by
  induction text with
  | nil => simp [cutAt]
  | cons c rest ih =>
    by_cases h : c = sep
    · simp [cutAt, h]
    · simp [cutAt, h, ih, Ne.symm h]

theorem cutAt_append {sep : Char} {before : List Char} (h : sep ∉ before) (after : List Char) :
    cutAt sep (before ++ sep :: after) = some (before, after) := by
  induction before with
  | nil => simp [cutAt]
  | cons c rest ih =>
    simp only [List.mem_cons, not_or] at h
    obtain ⟨hc, hrest⟩ := h
    simp [cutAt, Ne.symm hc, ih hrest]

/-- The cut is at the first separator. -/
theorem cutAt_eq_some_iff {sep : Char} {text before after : List Char} :
    cutAt sep text = some (before, after) ↔ text = before ++ sep :: after ∧ sep ∉ before := by
  constructor
  · intro h
    induction text generalizing before with
    | nil => simp [cutAt] at h
    | cons c rest ih =>
      simp only [cutAt] at h
      split at h
      case isTrue hc => simp_all
      case isFalse hc =>
        obtain ⟨⟨b, a⟩, hb, he⟩ := Option.map_eq_some_iff.1 h
        simp only [Prod.mk.injEq] at he
        obtain ⟨rfl, rfl⟩ := he
        obtain ⟨hrest, hmem⟩ := ih hb
        exact ⟨by rw [hrest, List.cons_append], List.not_mem_cons_of_ne_of_not_mem (Ne.symm hc) hmem⟩
  · rintro ⟨rfl, h⟩
    exact cutAt_append h after

end Corkboard.Text
