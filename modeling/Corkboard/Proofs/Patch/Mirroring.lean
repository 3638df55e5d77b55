-- SUMMARY: The two patches of an edit mirror each other: neither deletes what it updates, and each carries what the other one deletes.
import Corkboard.Proofs.Patch.Content

/-!
# Patches that mirror each other

Going back is possible only because the two patches of an edit fit together. What one of them
deletes is gone from the board, so the other one must carry it as it was. For properties this is
so because a key that is missing on one side differs on the other. For templates it is so because
a missing id makes two sequences of ids that differ, and then all templates are sent.

None of this needs distinct ids. An id that occurs more than once is deleted with all its
templates, and they are all carried.
-/

namespace Corkboard

open Property (Template Value)

namespace Patch

/-! ## Properties -/

section Properties

variable {before after : KeyMap Value} {key : String}

theorem get?_changedEntries_eq_some_iff {value : Value} :
    (changedEntries before after).get? key = some value ↔
      after.get? key = some value ∧ before.get? key ≠ some value := by
  rw [changedEntries, KeyMap.get?_filter, Option.filter_eq_some_iff, bne_iff_ne]

theorem mem_keys_changedEntries :
    key ∈ (changedEntries before after).keys ↔
      ∃ value, after.get? key = some value ∧ before.get? key ≠ some value := by
  rw [KeyMap.mem_keys, KeyMap.contains, Option.isSome_iff_exists]
  simp only [get?_changedEntries_eq_some_iff]

theorem get?_of_mem_missingKeys (h : key ∈ missingKeys before after) :
    (∃ value, before.get? key = some value) ∧ after.get? key = none := by
  rwa [mem_missingKeys, KeyMap.contains, KeyMap.contains, Option.isSome_iff_exists,
    Option.isSome_eq_false_iff, Option.isNone_iff_eq_none] at h

theorem notMem_keys_changedEntries (h : key ∈ missingKeys before after) :
    key ∉ (changedEntries before after).keys := by
  obtain ⟨-, hafter⟩ := get?_of_mem_missingKeys h
  rw [mem_keys_changedEntries]
  rintro ⟨value, hvalue, -⟩
  exact Option.some_ne_none value (hvalue.symm.trans hafter)

theorem get?_changedEntries_of_mem_missingKeys (h : key ∈ missingKeys before after) :
    ∃ value, before.get? key = some value ∧
      (changedEntries after before).get? key = some value := by
  obtain ⟨⟨value, hvalue⟩, hafter⟩ := get?_of_mem_missingKeys h
  have hother : after.get? key ≠ some value := by simp [hafter]
  exact ⟨value, hvalue, get?_changedEntries_eq_some_iff.2 ⟨hvalue, hother⟩⟩

/-- Both patches update a key exactly if it has a value on either side, and not the same one. -/
theorem mem_keys_changedEntries_both_iff :
    key ∈ (changedEntries before after).keys ∧ key ∈ (changedEntries after before).keys ↔
      ∃ old new, before.get? key = some old ∧ after.get? key = some new ∧ old ≠ new := by
  rw [mem_keys_changedEntries, mem_keys_changedEntries]
  constructor
  · rintro ⟨⟨new, hnew, hne⟩, ⟨old, hold, -⟩⟩
    refine ⟨old, new, hold, hnew, ?_⟩
    rintro rfl
    exact hne hold
  · rintro ⟨old, new, hold, hnew, hne⟩
    refine ⟨⟨new, hnew, ?_⟩, ⟨old, hold, ?_⟩⟩
    · rw [hold]
      exact fun h => hne (Option.some.inj h)
    · rw [hnew]
      exact fun h => hne (Option.some.inj h).symm

end Properties

/-! ## Templates -/

/-- The templates with this id in their order, without the notes of positions. -/
def contentsOf (ts : List Template) (id : String) : List Template :=
  (ts.map (·.withoutIndex)).filter (·.id == id)

theorem contentsOf_indexed (position : Nat) (ts : List Template) (id : String) :
    contentsOf (indexed position ts) id = contentsOf ts id := by
  rw [contentsOf, withoutIndex_indexed, contentsOf]

theorem contentsOf_ne_nil_iff {ts : List Template} {id : String} :
    contentsOf ts id ≠ [] ↔ id ∈ ts.map (·.id) := by
  simp [contentsOf, List.filter_eq_nil_iff]

section Templates

variable {before after : List Template} {id : String} (h : id ∈ missingIds before after)
include h

/-- Any deletion makes the sequences of ids differ, so the way back sends all templates. -/
theorem templateUpdates_back_of_mem_missingIds :
    templateUpdates after before = indexed 0 before := by
  have hne : before.map (·.id) ≠ after.map (·.id) := by
    obtain ⟨hbefore, hafter⟩ := mem_missingIds.1 h
    intro heq
    exact hafter (heq ▸ hbefore)
  rw [templateUpdates, if_neg hne]

theorem notMem_ids_templateUpdates : id ∉ (templateUpdates before after).map (·.id) := by
  intro hmem
  obtain ⟨t, ht, rfl⟩ := List.mem_map.1 hmem
  obtain ⟨i, u, hu, rfl⟩ := mem_templateUpdates ht
  exact (mem_missingIds.1 h).2 (List.mem_map.2 ⟨u, List.mem_of_getElem? hu, rfl⟩)

theorem contentsOf_templateUpdates_back :
    contentsOf before id ≠ [] ∧
      contentsOf (templateUpdates after before) id = contentsOf before id := by
  constructor
  · exact contentsOf_ne_nil_iff.2 (mem_missingIds.1 h).1
  · rw [templateUpdates_back_of_mem_missingIds h, contentsOf_indexed]

end Templates

/-! ## Both patches -/

/-- No key and no id is both deleted and updated. -/
structure Consistent (p : Patch) : Prop where
  keys : ∀ key ∈ p.deletedProperties, key ∉ p.updatedProperties.keys
  ids : ∀ id ∈ p.deletedTemplates, id ∉ p.updatedTemplates.map (·.id)

/-- What `p` deletes was there in `b`, and `back` carries it as it was there. -/
structure RestoredBy (p back : Patch) (b : Board) : Prop where
  keys : ∀ key ∈ p.deletedProperties, ∃ value,
    b.properties.get? key = some value ∧ back.updatedProperties.get? key = some value
  ids : ∀ id ∈ p.deletedTemplates, contentsOf b.templates id ≠ [] ∧
    contentsOf back.updatedTemplates id = contentsOf b.templates id

theorem consistent_between (before after : Board) : (Patch.between before after).Consistent where
  keys _ hkey := notMem_keys_changedEntries hkey
  ids _ hid := notMem_ids_templateUpdates hid

theorem restoredBy_between (before after : Board) :
    (Patch.between before after).RestoredBy (Patch.between after before) before where
  keys _ hkey := get?_changedEntries_of_mem_missingKeys hkey
  ids _ hid := contentsOf_templateUpdates_back hid

/-- The two patches of an edit mirror each other, whatever the boards are. The edit that goes the
    other way has the same two patches. Neither patch deletes what it updates, and what one of them
    deletes the other carries as it was on the board where it is deleted. A key that both update
    has a value on both sides, and not the same one. -/
theorem update_and_undo_mirror (before after : Board) :
    let edit := Edit.between before after
    Edit.between after before = ⟨edit.undo, edit.update⟩ ∧
      edit.update.Consistent ∧ edit.undo.Consistent ∧
      edit.update.RestoredBy edit.undo before ∧ edit.undo.RestoredBy edit.update after ∧
      ∀ key, key ∈ edit.update.updatedProperties.keys ∧ key ∈ edit.undo.updatedProperties.keys ↔
        ∃ old new, before.properties.get? key = some old ∧
          after.properties.get? key = some new ∧ old ≠ new := by
  intro edit
  refine ⟨rfl, consistent_between before after, consistent_between after before,
    restoredBy_between before after, restoredBy_between after before, ?_⟩
  intro key
  exact mem_keys_changedEntries_both_iff

end Patch
end Corkboard
