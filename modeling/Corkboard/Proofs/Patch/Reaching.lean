-- SUMMARY: The patch between two versions of a board leads from the first one to the second.
import Corkboard.Editor
import Corkboard.Proofs.Patch.Templates

/-!
# Reaching a version

Details and properties come out exactly as in the new version. For the templates there are two
ways. If the sequence of ids changes, all templates are sent with their positions, and the
result is the new list. Otherwise only changed templates are sent, and the others stay as they
are, with the note of their position and the order of their choices.

The patches of an undo stack are applied to boards that only resemble the ones they were made
for. Therefore the lemmas on templates ask for no more than the ids of the list to be edited.
-/

namespace Corkboard

open Property (Template Value)

/-! ## Details and properties -/

theorem getD_changed? {α : Type} [DecidableEq α] (before after : α) :
    (changed? before after).getD before = after := by
  by_cases h : before = after <;> simp [changed?, h]

theorem DetailChanges.applyTo_between (before after : Details) :
    (DetailChanges.between before after).applyTo before = after := by
  simp only [between, applyTo, getD_changed?]

namespace Patch

theorem mem_missingKeys {before after : KeyMap Value} {key : String} :
    key ∈ missingKeys before after ↔ before.contains key ∧ after.contains key = false := by
  simp [missingKeys, KeyMap.mem_keys]

theorem properties_reached (before after : KeyMap Value) :
    (before.eraseAll (missingKeys before after)).insertAll (changedEntries before after).entries =
      after := by
  apply KeyMap.ext_get?
  intro key
  rw [KeyMap.get?_insertAll, KeyMap.get?_eraseAll, changedEntries, KeyMap.get?_filter]
  simp only [mem_missingKeys, KeyMap.contains]
  cases hafter : after.get? key with
  | none => cases before.get? key <;> simp
  | some value =>
    by_cases hsame : before.get? key = some value
    · simp [Option.filter, hsame]
    · simp [Option.filter, hsame]

/-! ## All templates sent -/

theorem indexed_eq_mapIdx (position : Nat) (ts : List Template) :
    indexed position ts = ts.mapIdx fun i t => t.withIndex (position + i) := by
  induction ts generalizing position with
  | nil => rfl
  | cons t rest ih => simp [indexed, ih, List.mapIdx_cons, Nat.add_assoc, Nat.add_comm 1]

@[simp] theorem ids_indexed (position : Nat) (ts : List Template) :
    (indexed position ts).map (·.id) = ts.map (·.id) := by
  induction ts generalizing position with
  | nil => rfl
  | cons t rest ih => simp [indexed, Template.withIndex, ih]

theorem placements_indexed (position : Nat) (ts : List Template) :
    placements (indexed position ts) =
      ((ts.map (·.id)).zipIdx position).map fun e => (e.2, e.1) := by
  have hmap : (indexed position ts).filterMap (fun t => t.index.map (·, t.id)) =
      ((ts.map (·.id)).zipIdx position).map fun e => (e.2, e.1) := by
    induction ts generalizing position with
    | nil => rfl
    | cons t rest ih => simp [indexed, Template.withIndex, ih, List.zipIdx_cons]
  rw [placements, hmap]
  refine List.mergeSort_of_pairwise (List.pairwise_map.2 ?_)
  have hsorted : (((ts.map (·.id)).zipIdx position).map (·.2)).Pairwise (· < ·) := by
    rw [List.zipIdx_map_snd]
    exact List.pairwise_lt_range'
  rw [List.pairwise_map] at hsorted
  exact hsorted.imp fun h => by simpa using Nat.le_of_lt h

/-- Sending all templates of `after` with their positions makes them the list, whatever the
    list was. What they do not replace must be deleted. -/
theorem editTemplates_indexed {after ts : List Template} {deleted : List String}
    (hafter : (after.map (·.id)).Nodup) (hts : (ts.map (·.id)).Nodup)
    (hdel : ∀ id ∈ ts.map (·.id), id ∉ deleted → id ∈ after.map (·.id)) :
    editTemplates (indexed 0 after) deleted ts = indexed 0 after := by
  have hnodup := nodup_ids_mergeTemplates (indexed 0 after) deleted hts
  have hperm : ((mergeTemplates (indexed 0 after) deleted ts).map (·.id)).Perm
      (after.map (·.id)) := by
    apply (List.perm_ext_iff_of_nodup hnodup hafter).2
    intro id
    rw [mem_ids_mergeTemplates, ids_indexed]
    constructor
    · rintro (hid | ⟨hid, hkept⟩)
      · exact hid
      · exact hdel id hid hkept
    · exact .inl
  have hids : (editTemplates (indexed 0 after) deleted ts).map (·.id) = after.map (·.id) := by
    rw [ids_editTemplates, placements_indexed]
    simpa using placeAll_zipIdx [] (by simpa using hafter) hperm
  apply Template.eq_of_find? (hids ▸ hafter) (by rw [hids, ids_indexed])
  intro id hid
  rw [find?_editTemplates _ _ hts, Template.find?_reverse (by rwa [ids_indexed])]
  cases hfound : Template.find? (indexed 0 after) id with
  | some t => rfl
  | none =>
    refine absurd ?_ (Template.find?_eq_none_iff.1 hfound)
    rwa [ids_indexed, ← hids]

/-! ## Changed templates sent -/

theorem changedTemplates_eq_filterMap (before : List Template) (position : Nat)
    (after : List Template) :
    changedTemplates before position after =
      (after.zipIdx position).filterMap fun (t, i) =>
        if (Template.find? before t.id).any t.sameAs then none else some (t.withIndex i) := by
  induction after generalizing position with
  | nil => rfl
  | cons t rest ih =>
    rw [changedTemplates, List.zipIdx_cons, List.filterMap_cons, ih]
    by_cases h : (Template.find? before t.id).any t.sameAs <;> simp [h]

theorem mem_changedTemplates {before after : List Template} {t : Template} :
    t ∈ changedTemplates before 0 after ↔
      ∃ (i : Nat) (u : Template), after[i]? = some u ∧
        (Template.find? before u.id).any u.sameAs = false ∧ t = u.withIndex i := by
  rw [changedTemplates_eq_filterMap, List.mem_filterMap]
  constructor
  · rintro ⟨⟨u, i⟩, hmem, h⟩
    by_cases hsame : (Template.find? before u.id).any u.sameAs
    · simp [hsame] at h
    · simp only [hsame, Bool.false_eq_true, if_false, Option.some.injEq] at h
      exact ⟨i, u, List.mem_zipIdx_iff_getElem?.1 hmem, by simpa using hsame, h.symm⟩
  · rintro ⟨i, u, hu, hchanged, rfl⟩
    exact ⟨(u, i), List.mem_zipIdx_iff_getElem?.2 hu, by simp [hchanged]⟩

/-- Nothing is sent exactly if the templates say the same at each position. -/
theorem changedTemplates_eq_nil_iff {before after : List Template}
    (hbefore : (before.map (·.id)).Nodup) (hids : after.map (·.id) = before.map (·.id)) :
    changedTemplates before 0 after = [] ↔
      ∀ (i : Nat) (t u : Template), before[i]? = some t → after[i]? = some u → u.sameAs t := by
  rw [changedTemplates_eq_filterMap, List.filterMap_eq_nil_iff]
  constructor
  · intro hnone i t u ht hu
    have hsame := hnone (u, i) (List.mem_zipIdx_iff_getElem?.2 hu)
    simpa [Template.find?_of_ids_eq hbefore hids ht hu] using hsame
  · rintro hsame ⟨u, i⟩ hmem
    have hu : after[i]? = some u := List.mem_zipIdx_iff_getElem?.1 hmem
    obtain ⟨t, ht, -⟩ := Template.getElem?_of_ids_eq hids.symm hu
    simp [Template.find?_of_ids_eq hbefore hids ht hu, hsame i t u ht hu]

theorem ids_changedTemplates_sublist (before after : List Template) (position : Nat) :
    ((changedTemplates before position after).map (·.id)).Sublist (after.map (·.id)) := by
  induction after generalizing position with
  | nil => exact .refl _
  | cons a rest ih =>
    rw [changedTemplates]
    split
    · exact (ih (position + 1)).cons a.id
    · exact (ih (position + 1)).cons_cons a.id

section SameIds

variable (before : List Template) {after ts : List Template}
  (hids : ts.map (·.id) = after.map (·.id)) (hts : (ts.map (·.id)).Nodup)
include hids hts

theorem ids_editTemplates_changed :
    (editTemplates (changedTemplates before 0 after) [] ts).map (·.id) = ts.map (·.id) := by
  have hmerge : (mergeTemplates (changedTemplates before 0 after) [] ts).map (·.id) =
      ts.map (·.id) := by
    rw [mergeTemplates, List.filter_eq_self.2 (by simp)]
    refine ids_foldl_put_of_subset fun t ht => hids ▸ ?_
    exact (ids_changedTemplates_sublist before after 0).subset (List.mem_map_of_mem ht)
  rw [ids_editTemplates, hmerge]
  apply placeAll_eq_self hts
  intro m hm
  obtain ⟨t, ht, hindex, hid⟩ := mem_placements.1 hm
  obtain ⟨i, u, hu, -, rfl⟩ := mem_changedTemplates.1 ht
  obtain rfl : i = m.1 := by simpa [Template.withIndex] using hindex
  rw [hids, List.getElem?_map, hu, ← hid]
  rfl

theorem find?_changedTemplates {i : Nat} {t : Template} (ht : after[i]? = some t) :
    Template.find? (changedTemplates before 0 after).reverse t.id =
      if (Template.find? before t.id).any t.sameAs then none else some (t.withIndex i) := by
  have hafter : (after.map (·.id)).Nodup := hids ▸ hts
  have hnodup := hafter.sublist (ids_changedTemplates_sublist before after 0)
  have hsameIndex {j : Nat} {u : Template} (hu : after[j]? = some u) (hid : u.id = t.id) :
      j = i := by
    have hj : j < (after.map (·.id)).length := by simpa using (List.getElem?_eq_some_iff.1 hu).1
    exact (List.getElem?_inj hj hafter).1 (by simp [hu, ht, hid])
  rw [Template.find?_reverse hnodup]
  split
  case isTrue hsame =>
    apply Template.find?_eq_none_iff.2
    intro hmem
    obtain ⟨c, hc, hid⟩ := List.mem_map.1 hmem
    obtain ⟨j, u, hu, hchanged, rfl⟩ := mem_changedTemplates.1 hc
    obtain rfl := hsameIndex hu hid
    obtain rfl : t = u := Option.some.inj (ht.symm.trans hu)
    exact Bool.false_ne_true (hchanged.symm.trans hsame)
  case isFalse hchanged =>
    refine (Template.find?_eq_some_iff hnodup).2 ⟨mem_changedTemplates.2 ⟨i, t, ht, ?_, rfl⟩, rfl⟩
    simpa using hchanged

/-- Sending the changed templates of `after` puts these into their places, and leaves what
    stands in the other places. -/
theorem getElem?_editTemplates_changed {i : Nat} {t u : Template} (ht : after[i]? = some t)
    (hu : ts[i]? = some u) :
    (editTemplates (changedTemplates before 0 after) [] ts)[i]? =
      some (if (Template.find? before t.id).any t.sameAs then u else t.withIndex i) := by
  have hresult := ids_editTemplates_changed before hids hts
  have hid : u.id = t.id := Template.id_eq_of_getElem? hids ht hu
  obtain ⟨r, hr, hrid⟩ := Template.getElem?_of_ids_eq hresult hu
  have hfound := Template.find?_of_getElem? (hresult ▸ hts) hr
  have hold := Template.find?_of_ids_eq hts hids.symm hu ht
  rw [find?_editTemplates _ _ hts, hrid, hid, find?_changedTemplates before hids hts ht] at hfound
  rw [hr, ← hfound]
  split <;> simp [hold]

end SameIds

/-! ## The patch between two versions -/

theorem mem_missingIds {before after : List Template} {id : String} :
    id ∈ missingIds before after ↔ id ∈ before.map (·.id) ∧ id ∉ after.map (·.id) := by
  simp only [missingIds, List.mem_filter, List.contains_eq_mem, Bool.not_eq_eq_eq_not,
    Bool.not_true, decide_eq_false_iff_not]

theorem missingIds_of_ids_eq {before after : List Template}
    (h : after.map (·.id) = before.map (·.id)) : missingIds before after = [] := by
  apply List.eq_nil_iff_forall_not_mem.2
  intro id hid
  obtain ⟨hbefore, hafter⟩ := mem_missingIds.1 hid
  exact hafter (h ▸ hbefore)

/-- The templates of the patch from `before` to `after`, applied to templates with the ids of
    `before`. -/
theorem editTemplates_of_ids_ne {before after ts : List Template}
    (hafter : (after.map (·.id)).Nodup) (hbefore : (before.map (·.id)).Nodup)
    (hids : ts.map (·.id) = before.map (·.id)) (hne : after.map (·.id) ≠ before.map (·.id)) :
    editTemplates (templateUpdates before after) (missingIds before after) ts =
      indexed 0 after := by
  rw [templateUpdates, if_neg hne]
  apply editTemplates_indexed hafter (hids ▸ hbefore)
  intro id hid hkept
  by_contra hafter
  exact hkept (mem_missingIds.2 ⟨hids ▸ hid, hafter⟩)

theorem editTemplates_of_ids_eq {before after : List Template} (ts : List Template)
    (heq : after.map (·.id) = before.map (·.id)) :
    editTemplates (templateUpdates before after) (missingIds before after) ts =
      editTemplates (changedTemplates before 0 after) [] ts := by
  rw [templateUpdates, if_pos heq, missingIds_of_ids_eq heq]

/-- The ids come out in the order of `after`. -/
theorem ids_editTemplates_between {before after ts : List Template}
    (hbefore : (before.map (·.id)).Nodup) (hafter : (after.map (·.id)).Nodup)
    (hids : ts.map (·.id) = before.map (·.id)) :
    (editTemplates (templateUpdates before after) (missingIds before after) ts).map (·.id) =
      after.map (·.id) := by
  by_cases heq : after.map (·.id) = before.map (·.id)
  · rw [editTemplates_of_ids_eq ts heq,
      ids_editTemplates_changed before (hids.trans heq.symm) (hids ▸ hbefore), hids, heq]
  · rw [editTemplates_of_ids_ne hafter hbefore hids heq, ids_indexed]

/-- The templates that the patch from `before` to `after` makes of `before`. If the ids are the
    same, a template that says the same stays. All others come from `after`, with a note of their
    positions. -/
def reachedTemplates (before after : List Template) : List Template :=
  if after.map (·.id) = before.map (·.id) then
    (after.zip before).mapIdx fun i (t, u) => if t.sameAs u then u else t.withIndex i
  else
    after.mapIdx fun i t => t.withIndex i

theorem editTemplates_eq_reachedTemplates {before after : List Template}
    (hbefore : (before.map (·.id)).Nodup) (hafter : (after.map (·.id)).Nodup) :
    editTemplates (templateUpdates before after) (missingIds before after) before =
      reachedTemplates before after := by
  by_cases heq : after.map (·.id) = before.map (·.id)
  · have hids := ids_editTemplates_changed before heq.symm hbefore
    have hlength := Template.length_eq_of_ids_eq heq
    rw [editTemplates_of_ids_eq before heq, reachedTemplates, if_pos heq]
    apply Property.ext_getElem?_along before
    · exact Template.length_eq_of_ids_eq hids
    · simp [hlength]
    intro i u hu
    obtain ⟨t, ht, -⟩ := Template.getElem?_of_ids_eq heq hu
    have hzip : (after.zip before)[i]? = some (t, u) := List.getElem?_zip_eq_some.2 ⟨ht, hu⟩
    rw [getElem?_editTemplates_changed before heq.symm hbefore ht hu,
      Template.find?_of_ids_eq hbefore heq hu ht, List.getElem?_mapIdx, hzip]
    rfl
  · rw [editTemplates_of_ids_ne hafter hbefore rfl heq, reachedTemplates, if_neg heq,
      indexed_eq_mapIdx]
    simp only [Nat.zero_add]

theorem applyTo_between (before after c : Board) (hdetails : c.details = before.details)
    (hproperties : c.properties = before.properties) :
    (Patch.between before after).applyTo c =
      { id := c.id, details := after.details, properties := after.properties,
        templates := editTemplates (templateUpdates before.templates after.templates)
          (missingIds before.templates after.templates) c.templates } := by
  simp only [Patch.between, applyTo, hdetails, hproperties, DetailChanges.applyTo_between,
    properties_reached]

/-- The update of an edit makes the new version of the old one. Its id stays, and a template
    that says the same in both versions stays as it is if the ids keep their order. -/
theorem update_reaches_version (before after : Board)
    (hbefore : (before.templates.map (·.id)).Nodup)
    (hafter : (after.templates.map (·.id)).Nodup) :
    (Edit.between before after).update.applyTo before =
        { id := before.id, details := after.details, properties := after.properties,
          templates := reachedTemplates before.templates after.templates } ∧
      ((Edit.between before after).update.applyTo before).templates.map (·.id) =
        after.templates.map (·.id) := by
  simp only [Edit.between, applyTo_between before after before rfl rfl]
  exact ⟨by rw [editTemplates_eq_reachedTemplates hbefore hafter],
    ids_editTemplates_between hbefore hafter rfl⟩

/-- A template is moved to the front, one comes anew, and one goes. -/
theorem update_reaches_version_reordered :
    let plan : Template := ⟨"plan", "Plan", .text, [], none⟩
    let owner : Template := ⟨"owner", "Owner", .person, [], some 7⟩
    let due : Template := ⟨"due", "Due", .date, [], none⟩
    let old := Board.new "b" "Old" 1 [plan, owner]
    let new := Board.new "c" "New" 2 [due, plan]
    (old.templates.map (·.id)).Nodup ∧ (new.templates.map (·.id)).Nodup ∧
      ((Edit.between old new).update.applyTo old).templates =
        [due.withIndex 0, plan.withIndex 1] := by
  intro plan owner due old new
  have hold : (old.templates.map (·.id)).Nodup := by decide
  have hnew : (new.templates.map (·.id)).Nodup := by decide
  refine ⟨hold, hnew, ?_⟩
  rw [(update_reaches_version old new hold hnew).1]
  decide

end Patch
end Corkboard
