-- SUMMARY: What is left to send after an update has been applied: templates whose new version does not note their position, and nothing else.
import Corkboard.Proofs.Patch.Content

/-!
# Comparing again

Once an update has been applied, details and properties are those of the new version, and the
templates stand in its order. Whether a second comparison still finds something depends on the
notes of positions alone. A template that was sent carries a note now. If the new version does not
note the same position, the two are told apart, and the template is sent once more, to no effect.
-/

namespace Corkboard

open Property (Template Value)

/-! ## Nothing to change -/

@[simp] theorem DetailChanges.between_self (d : Details) : between d d = .none := by
  simp only [between, changed?, if_true, none]

namespace Patch

@[simp] theorem missingKeys_self (m : KeyMap Value) : missingKeys m m = [] := by
  apply List.eq_nil_iff_forall_not_mem.2
  intro key hkey
  obtain ⟨hbefore, hafter⟩ := mem_missingKeys.1 hkey
  exact Bool.false_ne_true (hafter.symm.trans hbefore)

@[simp] theorem changedEntries_self (m : KeyMap Value) : changedEntries m m = .empty := by
  apply KeyMap.ext_get?
  intro key
  rw [changedEntries, KeyMap.get?_filter]
  cases m.get? key <;> simp [Option.filter]

/-- Between boards with the same details, properties and ids, only templates are sent. -/
theorem between_eq_of_ids_eq {before after : Board} (hdetails : after.details = before.details)
    (hproperties : after.properties = before.properties)
    (hids : after.templates.map (·.id) = before.templates.map (·.id)) :
    Patch.between before after =
      { Patch.empty with
        updatedTemplates := changedTemplates before.templates 0 after.templates } := by
  simp only [between, hdetails, hproperties, missingIds_of_ids_eq hids, templateUpdates, hids,
    if_true, DetailChanges.between_self, missingKeys_self, changedEntries_self]
  rfl

/-! ## Who is sent -/

/-- Whether the patch from `before` to `after` does without `t`, a template of `after`. The ids
    must keep their order, and `before` must have a template that says the same. -/
def omits (before after : List Template) (t : Template) : Bool :=
  decide (after.map (·.id) = before.map (·.id)) && (Template.find? before t.id).any t.sameAs

theorem templateUpdates_eq_filterMap (before after : List Template) :
    templateUpdates before after =
      after.zipIdx.filterMap fun (t, i) =>
        if omits before after t then none else some (t.withIndex i) := by
  by_cases heq : after.map (·.id) = before.map (·.id)
  · simp only [templateUpdates, omits, heq, if_true, decide_true, Bool.true_and,
      changedTemplates_eq_filterMap]
  · simp only [templateUpdates, omits, heq, if_false, decide_false, Bool.false_and,
      Bool.false_eq_true, indexed_eq_mapIdx, Nat.zero_add, List.mapIdx_eq_zipIdx_map]
    exact (congrFun List.filterMap_eq_map _).symm

section Reached

variable {before after : List Template} {i : Nat} {t : Template}

/-- What was not sent is still what it was. What was sent has a note of its position. -/
theorem getElem?_reachedTemplates (ht : after[i]? = some t)
    (hbefore : (before.map (·.id)).Nodup) :
    (reachedTemplates before after)[i]? =
      if omits before after t then before[i]? else some (t.withIndex i) := by
  by_cases heq : after.map (·.id) = before.map (·.id)
  · obtain ⟨u, hu, -⟩ := Template.getElem?_of_ids_eq heq.symm ht
    have hfound := Template.find?_of_ids_eq hbefore heq hu ht
    have hzip : (after.zip before)[i]? = some (t, u) := List.getElem?_zip_eq_some.2 ⟨ht, hu⟩
    simp only [reachedTemplates, omits, heq, if_true, List.getElem?_mapIdx, hzip, hfound, hu,
      Option.map_some, Option.any_some, decide_true, Bool.true_and]
    split <;> rfl
  · simp [reachedTemplates, omits, heq, ht]

theorem ids_reachedTemplates (hbefore : (before.map (·.id)).Nodup)
    (hafter : (after.map (·.id)).Nodup) :
    (reachedTemplates before after).map (·.id) = after.map (·.id) := by
  rw [← editTemplates_eq_reachedTemplates hbefore hafter]
  exact ids_editTemplates_between hbefore hafter rfl

end Reached

end Patch

namespace Property.Template

/-- A note of a position makes another template, unless it says what was noted already. -/
theorem sameAs_withIndex {t : Template} (ht : t.DistinctChoices) (i : Nat) :
    t.sameAs (t.withIndex i) ↔ t.index = some i := by
  rw [sameAs_iff_perm ht (show (t.withIndex i).DistinctChoices from ht)]
  simp [withIndex]

theorem withIndex_mem_iff {ts : List Template} (hts : (ts.map (·.id)).Nodup) {i : Nat}
    {t : Template} (ht : ts[i]? = some t) : t.withIndex i ∈ ts ↔ t.index = some i := by
  have hmem : t ∈ ts := List.mem_of_getElem? ht
  constructor
  · intro hnoted
    have heq : t.withIndex i = t :=
      List.inj_on_of_nodup_map hts hnoted hmem rfl
    rw [← heq]
    rfl
  · intro hindex
    have heq : t.withIndex i = t := by simp [withIndex, ← hindex]
    rwa [heq]

end Property.Template

namespace Patch

/-! ## What a second comparison finds -/

section Again

variable {before after : List Template} (hbefore : (before.map (·.id)).Nodup)
  (hafter : (after.map (·.id)).Nodup) (hchoices : ∀ t ∈ after, t.DistinctChoices)
include hbefore hafter hchoices

/-- A template says the same as the one reached if it was not sent, or if it notes its position
    itself. -/
theorem any_sameAs_reachedTemplates {i : Nat} {t : Template} (ht : after[i]? = some t) :
    (Template.find? (reachedTemplates before after) t.id).any t.sameAs ↔
      omits before after t ∨ t.index = some i := by
  have hids := ids_reachedTemplates hbefore hafter
  have hreached := getElem?_reachedTemplates ht hbefore
  obtain ⟨r, hr, hid⟩ := Template.getElem?_of_ids_eq hids ht
  rw [Template.find?_of_ids_eq (hids ▸ hafter) hids.symm hr ht, Option.any_some]
  cases homits : omits before after t with
  | true =>
    -- The template reached is the one from before, which says the same.
    rw [homits, if_pos rfl, hr] at hreached
    have hsame : (Template.find? before t.id).any t.sameAs := (Bool.and_eq_true_iff.1 homits).2
    rw [← hid, Template.find?_of_getElem? hbefore hreached.symm, Option.any_some] at hsame
    simp [hsame]
  | false =>
    rw [homits, if_neg Bool.false_ne_true, hr, Option.some_inj] at hreached
    rw [hreached, Template.sameAs_withIndex (hchoices t (List.mem_of_getElem? ht))]
    simp

/-- A second comparison sends those of the templates sent before that the new version does not
    have with the same note. -/
theorem changedTemplates_reachedTemplates :
    changedTemplates (reachedTemplates before after) 0 after =
      (templateUpdates before after).filter (· ∉ after) := by
  rw [changedTemplates_eq_filterMap, templateUpdates_eq_filterMap, List.filter_filterMap]
  apply List.filterMap_congr
  rintro ⟨t, i⟩ hmem
  have ht : after[i]? = some t := List.mem_zipIdx_iff_getElem?.1 hmem
  have hsame := any_sameAs_reachedTemplates hbefore hafter hchoices ht
  have hnoted := Template.withIndex_mem_iff hafter ht
  by_cases homits : omits before after t
  · simp [hsame, homits]
  · by_cases hindex : t.index = some i <;> simp [hsame, hnoted, homits, hindex, Option.filter]

/-- Sending these templates has no effect: each stands with its note at its position already. -/
theorem editTemplates_reachedTemplates :
    editTemplates (changedTemplates (reachedTemplates before after) 0 after) []
      (reachedTemplates before after) = reachedTemplates before after := by
  have hids := ids_reachedTemplates hbefore hafter
  have hnodup : ((reachedTemplates before after).map (·.id)).Nodup := hids ▸ hafter
  have hagain := ids_editTemplates_changed (reachedTemplates before after) hids hnodup
  apply Property.ext_getElem?_along after
  · exact Template.length_eq_of_ids_eq (hagain.trans hids)
  · exact Template.length_eq_of_ids_eq hids
  intro i t ht
  obtain ⟨r, hr, -⟩ := Template.getElem?_of_ids_eq hids ht
  have hreached := getElem?_reachedTemplates ht hbefore
  rw [getElem?_editTemplates_changed _ hids hnodup ht hr]
  split
  case isTrue => exact hr.symm
  case isFalse hchanged =>
    rw [any_sameAs_reachedTemplates hbefore hafter hchoices ht, not_or] at hchanged
    rw [hreached, if_neg hchanged.1]

end Again

theorem isEmpty_iff (p : Patch) : p.isEmpty ↔ p = empty := by
  simp [isEmpty]

theorem applyTo_between_eq_reached {before after : Board}
    (hbefore : (before.templates.map (·.id)).Nodup)
    (hafter : (after.templates.map (·.id)).Nodup) :
    (Edit.between before after).update.applyTo before =
      ⟨before.id, after.details, after.properties,
        reachedTemplates before.templates after.templates⟩ := by
  rw [← editTemplates_eq_reachedTemplates hbefore hafter]
  exact applyTo_between before after before rfl rfl

/-- The update of an edit is not sent in full again: when the new version is compared with the
    board that the update has made, only those templates of the update are left that the new
    version itself does not have with the same note of their position. To send them changes
    nothing. So nothing is left exactly if every template that was sent carries the note that it
    has in the new version. -/
theorem second_update_resends_unnoted (before after : Board) (hbefore : before.Distinct)
    (hafter : after.Distinct) :
    let sent := (Edit.between before after).update.updatedTemplates
    let reached := (Edit.between before after).update.applyTo before
    let again := (Edit.between reached after).update
    again = { Patch.empty with updatedTemplates := sent.filter (· ∉ after.templates) } ∧
      again.applyTo reached = reached ∧
      (again.isEmpty ↔ ∀ t ∈ sent, t ∈ after.templates) := by
  intro sent reached again
  have hreached : reached = ⟨before.id, after.details, after.properties,
      reachedTemplates before.templates after.templates⟩ :=
    applyTo_between_eq_reached hbefore.ids hafter.ids
  have hids : after.templates.map (·.id) = reached.templates.map (·.id) := by
    rw [hreached]
    exact (ids_reachedTemplates hbefore.ids hafter.ids).symm
  have hagain : again = { Patch.empty with
      updatedTemplates := changedTemplates reached.templates 0 after.templates } :=
    between_eq_of_ids_eq (by rw [hreached]) (by rw [hreached]) hids
  have hsent : changedTemplates reached.templates 0 after.templates =
      sent.filter (· ∉ after.templates) := by
    rw [hreached]
    exact changedTemplates_reachedTemplates hbefore.ids hafter.ids hafter.choices
  refine ⟨by rw [hagain, hsent], ?_, ?_⟩
  · have hsettled := editTemplates_reachedTemplates hbefore.ids hafter.ids hafter.choices
    have happly : again.applyTo reached = _ := applyTo_between reached after reached rfl rfl
    rw [happly, editTemplates_of_ids_eq _ hids, hreached, hsettled]
  · rw [isEmpty_iff, hagain, hsent]
    simp [empty]

/-- All three templates are sent, since one of them is new and one has moved. Two of them note
    their positions in the new version already. -/
theorem second_update_resends_moved :
    let plan : Template := ⟨"plan", "Plan", .text, [], none⟩
    let owner : Template := ⟨"owner", "Owner", .person, [], none⟩
    let due : Template := ⟨"due", "Due", .date, [], some 2⟩
    let old := Board.new "b" "Old" 1 [plan, owner]
    let new := Board.new "b" "New" 2 [owner.withIndex 0, plan, due]
    let reached := (Edit.between old new).update.applyTo old
    old.Distinct ∧ new.Distinct ∧
      (Edit.between reached new).update =
        { Patch.empty with updatedTemplates := [plan.withIndex 1] } ∧
      (Edit.between reached new).update.applyTo reached = reached := by
  intro plan owner due old new reached
  have hold : old.Distinct := ⟨by decide, by decide⟩
  have hnew : new.Distinct := ⟨by decide, by decide⟩
  obtain ⟨hagain, hsettled, -⟩ := second_update_resends_unnoted old new hold hnew
  exact ⟨hold, hnew, hagain, hsettled⟩

/-- A second comparison may find something. A template is added without a note of its position,
    and the board that the update makes has the note. -/
theorem second_update_not_empty :
    let plan : Template := ⟨"plan", "Plan", .text, [], none⟩
    let old := Board.new "b" "Board" 0 []
    let new := Board.new "b" "Board" 0 [plan]
    let reached := (Edit.between old new).update.applyTo old
    old.Distinct ∧ new.Distinct ∧ (Edit.between reached new).update.isEmpty = false := by
  intro plan old new reached
  have hold : old.Distinct := ⟨by decide, by decide⟩
  have hnew : new.Distinct := ⟨by decide, by decide⟩
  have hreached : reached = { new with templates := [plan.withIndex 0] } :=
    applyTo_between_eq_reached hold.ids hnew.ids
  refine ⟨hold, hnew, ?_⟩
  rw [hreached]
  decide

end Patch
end Corkboard
