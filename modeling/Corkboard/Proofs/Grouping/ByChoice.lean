-- SUMMARY: Columns by the choices of a template: the columns part the cards by the choice that each card names, and the card without such a choice goes to the empty id.
import Corkboard.Grouping.ByChoice
import Corkboard.Proofs.Grouping.Parting
import Corkboard.Proofs.Property.Lookup

/-!
# Columns by choice

Every card has a slot: the id of the choice it names, or the empty id. The listed ids may be
any texts. Ids that name no choice have no column, and an id that is listed twice has two columns
with the same cards.
-/

namespace Corkboard.Grouping

open Property (Choice Template)

/-! ## Slots -/

/-- The id under which a card stands: the choice that it names, or the empty id. -/
def slot (template : Template) (card : Card) : String :=
  ((choiceId? template card).filter fun id => (template.findChoice? id).isSome).getD ""

/-- Whether an id has a column. -/
def hasColumn (template : Template) (id : String) : Bool :=
  id.isEmpty || (template.findChoice? id).isSome

section Slot

variable {template : Template} {card : Card} {id : String}

theorem ne_empty_of_choiceId? (h : choiceId? template card = some id) : id ≠ "" := by
  simpa using (Option.filter_eq_some_iff.1 h).2

theorem slot_of_choiceId? (h : choiceId? template card = some id) :
    slot template card = if (template.findChoice? id).isSome then id else "" := by
  rw [slot, h, Option.filter_some]
  split <;> rfl

theorem isUnassigned_iff : isUnassigned template card ↔ slot template card = "" := by
  cases hid : choiceId? template card with
  | none => simp [isUnassigned, slot, hid]
  | some id =>
    have hne := ne_empty_of_choiceId? hid
    rw [slot_of_choiceId? hid]
    cases hfound : template.findChoice? id <;> simp [isUnassigned, hid, hfound, hne]

theorem choiceId?_eq_some_iff (hne : id ≠ "") (hchoice : (template.findChoice? id).isSome) :
    choiceId? template card = some id ↔ slot template card = id := by
  cases hid : choiceId? template card with
  | none => simp [slot, hid, hne.symm]
  | some id' =>
    rw [slot_of_choiceId? hid, Option.some_inj]
    split
    case isTrue => rfl
    case isFalse hmissing =>
      have hother : id' ≠ id := fun h => hmissing (h ▸ hchoice)
      simp [hother, hne.symm]

theorem hasColumn_iff : hasColumn template id ↔ id = "" ∨ id ∈ template.choices.map (·.id) := by
  rw [hasColumn, Bool.or_eq_true, String.isEmpty_iff, Template.isSome_findChoice?_iff]

theorem hasColumn_slot (template : Template) (card : Card) :
    hasColumn template (slot template card) := by
  rw [slot]
  cases hfound : (choiceId? template card).filter fun id => (template.findChoice? id).isSome with
  | none => simp [hasColumn]
  | some id => simp [hasColumn, (Option.filter_eq_some_iff.1 hfound).2]

end Slot

/-! ## The column of an id -/

theorem isSome_columnOf? (template : Template) (cards : List Card) (id : String) :
    (columnOf? template cards id).isSome = hasColumn template id := by
  by_cases hid : id.isEmpty <;> simp [columnOf?, hasColumn, hid]

/-- The column of an id has the cards that stand under it. -/
theorem columnOf?_spec {template : Template} {cards : List Card} {id : String} {column : Column}
    (h : columnOf? template cards id = some column) :
    column.heading.id = id ∧ column.cards = cards.filter (slot template · == id) := by
  rw [columnOf?] at h
  split at h
  case isTrue hid =>
    obtain rfl : id = "" := by simpa using hid
    obtain rfl := Option.some.inj h
    refine ⟨rfl, List.filter_congr fun card _ => ?_⟩
    rw [Bool.eq_iff_iff, isUnassigned_iff, beq_iff_eq]
  case isFalse hid =>
    obtain ⟨choice, hchoice, rfl⟩ := Option.map_eq_some_iff.1 h
    refine ⟨by simpa using List.find?_some hchoice, List.filter_congr fun card _ => ?_⟩
    have hsome : (template.findChoice? id).isSome := by simp [hchoice]
    rw [Bool.eq_iff_iff, beq_iff_eq, beq_iff_eq]
    exact choiceId?_eq_some_iff (by simpa using hid) hsome

theorem ids_filterMap_columnOf? (template : Template) (cards : List Card) (ids : List String) :
    (ids.filterMap (columnOf? template cards)).map (·.heading.id) =
      ids.filter (hasColumn template) := by
  induction ids with
  | nil => rfl
  | cons id rest ih =>
    have hsome := isSome_columnOf? template cards id
    cases hcolumn : columnOf? template cards id with
    | none => simpa [hcolumn, ← hsome] using ih
    | some column => simpa [hcolumn, ← hsome, (columnOf?_spec hcolumn).1] using ih

/-! ## All columns -/

section Listed

variable {template : Template} {visible hidden : List String}

theorem mem_unlisted {id : String} :
    id ∈ unlisted template visible hidden ↔
      id ∈ template.choices.map (·.id) ∧ id ∉ visible ∧ id ∉ hidden := by
  simp [unlisted]

theorem mem_shownIds_append_iff {id : String} :
    id ∈ shownIds template visible hidden ++ hidden ↔
      id = "" ∨ id ∈ visible ++ hidden ∨ id ∈ template.choices.map (·.id) := by
  have hshown : id ∈ visible ++ unlisted template visible hidden ++ hidden ↔
      id ∈ visible ++ hidden ∨ id ∈ template.choices.map (·.id) := by
    simp only [List.mem_append, mem_unlisted]
    tauto
  rw [← hshown, shownIds]
  split
  case isTrue hempty =>
    have hempty : "" ∈ visible ++ unlisted template visible hidden ++ hidden := by
      simpa using hempty
    exact ⟨.inr, fun h => h.elim (fun h => h ▸ hempty) fun h => h⟩
  case isFalse => rw [List.cons_append, List.mem_cons]

/-- Every id that can have a column is listed or added to the list. -/
theorem mem_shownIds_append_of_hasColumn {id : String} (h : hasColumn template id) :
    id ∈ shownIds template visible hidden ++ hidden :=
  mem_shownIds_append_iff.2 ((hasColumn_iff.1 h).imp_right .inr)

theorem nodup_shownIds_append (hchoices : template.DistinctChoices)
    (hlists : (visible ++ hidden).Nodup) :
    (shownIds template visible hidden ++ hidden).Nodup := by
  have hunlisted : (unlisted template visible hidden).Nodup := hchoices.filter _
  have hperm : (unlisted template visible hidden ++ (visible ++ hidden)).Perm
      (visible ++ unlisted template visible hidden ++ hidden) := by
    rw [← List.append_assoc]
    exact List.perm_append_comm.append_right hidden
  have hshown : (visible ++ unlisted template visible hidden ++ hidden).Nodup := by
    refine hperm.nodup_iff.1 (List.nodup_append.2 ⟨hunlisted, hlists, ?_⟩)
    rintro id hid id' hid' rfl
    obtain ⟨-, hvisible, hhidden⟩ := mem_unlisted.1 hid
    exact (List.mem_append.1 hid').elim hvisible hhidden
  rw [shownIds]
  split
  case isTrue => exact hshown
  case isFalse hempty => exact List.nodup_cons.2 ⟨by simpa using hempty, hshown⟩

end Listed

section All

variable (template : Template) (visible hidden : List String) (cards : List Card)

theorem byChoice_all :
    (byChoice template visible hidden cards).all =
      (shownIds template visible hidden ++ hidden).filterMap (columnOf? template cards) :=
  (List.filterMap_append ..).symm

/-- Every column is the one of its own id. -/
theorem columnOf?_of_mem_byChoice {column : Column}
    (h : column ∈ (byChoice template visible hidden cards).all) :
    columnOf? template cards column.heading.id = some column := by
  rw [byChoice_all] at h
  obtain ⟨id, -, hid⟩ := List.mem_filterMap.1 h
  rwa [(columnOf?_spec hid).1]

/-- The columns of the choices part the cards by their slots. -/
theorem byChoice_parts :
    PartedBy (slot template) cards (byChoice template visible hidden cards).all where
  cards_eq _ hcolumn :=
    (columnOf?_spec (columnOf?_of_mem_byChoice template visible hidden cards hcolumn)).2
  covered card hcard := by
    rw [byChoice_all, ids_filterMap_columnOf?, List.mem_filter]
    have hslot := hasColumn_slot template card
    exact ⟨mem_shownIds_append_of_hasColumn hslot, hslot⟩

theorem nodup_ids_byChoice (hchoices : template.DistinctChoices)
    (hlists : (visible ++ hidden).Nodup) :
    ((byChoice template visible hidden cards).all.map (·.heading.id)).Nodup := by
  rw [byChoice_all, ids_filterMap_columnOf?]
  exact (nodup_shownIds_append hchoices hlists).filter _

end All
end Corkboard.Grouping
