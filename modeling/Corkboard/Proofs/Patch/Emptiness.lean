-- SUMMARY: When the patches of an edit are empty: both at once, and exactly if the two versions differ in nothing but the order of choices.
import Corkboard.Proofs.Patch.Convergence

/-!
# Empty patches

An empty patch says that there is nothing to do, so it must be empty only if the two versions say
the same. They need not be equal. The id of a board is never sent, and neither is the order of the
choices of a template. The note of a position counts, also if it is all that differs.

Choices are compared in one direction only. That the update and the undo are empty together rests
on the symmetry of this comparison, and so on distinct ids.
-/

namespace Corkboard

open Property (Template Value)

/-- The boards differ at most in their ids and in the order of the choices of their templates. -/
structure Board.SaysSame (b c : Board) : Prop where
  details : b.details = c.details
  properties : b.properties = c.properties
  ids : b.templates.map (·.id) = c.templates.map (·.id)
  templates : ∀ (i : Nat) (t u : Template), b.templates[i]? = some t → c.templates[i]? = some u →
    t.name = u.name ∧ t.kind = u.kind ∧ t.index = u.index ∧ t.choices.Perm u.choices

theorem Board.SaysSame.symm {b c : Board} (h : b.SaysSame c) : c.SaysSame b where
  details := h.details.symm
  properties := h.properties.symm
  ids := h.ids.symm
  templates i u t hu ht := by
    obtain ⟨hname, hkind, hindex, hchoices⟩ := h.templates i t u ht hu
    exact ⟨hname.symm, hkind.symm, hindex.symm, hchoices.symm⟩

theorem Board.saysSame_comm {b c : Board} : b.SaysSame c ↔ c.SaysSame b :=
  ⟨SaysSame.symm, SaysSame.symm⟩

namespace Patch

theorem applyTo_empty (b : Board) : empty.applyTo b = b := by
  simp [empty, applyTo, DetailChanges.applyTo, DetailChanges.none, KeyMap.eraseAll,
    KeyMap.insertAll, KeyMap.empty]

/-! ## Details and properties -/

/-- If there is nothing to do, the old version is where the update leads. -/
theorem details_and_properties_eq_of_between_eq_empty {before after : Board}
    (h : Patch.between before after = empty) :
    before.details = after.details ∧ before.properties = after.properties := by
  have hreached := applyTo_between before after before rfl rfl
  rw [h, applyTo_empty] at hreached
  exact ⟨(congrArg Board.details hreached :), (congrArg Board.properties hreached :)⟩

/-! ## Templates -/

section Templates

variable {before after : List Template}

/-- If the ids differ, then something is sent, or nothing is left and all is deleted. -/
theorem ids_eq_of_nothing_sent (hupdates : templateUpdates before after = [])
    (hmissing : missingIds before after = []) : after.map (·.id) = before.map (·.id) := by
  by_contra hne
  rw [templateUpdates, if_neg hne] at hupdates
  have hafter : after.map (·.id) = [] := by
    rw [← ids_indexed 0 after, hupdates, List.map_nil]
  have hbefore : before.map (·.id) = [] := by
    simpa [missingIds, hafter] using hmissing
  exact hne (hafter.trans hbefore.symm)

theorem sameAs_iff_of_getElem? (hchoices : ∀ t ∈ before, t.DistinctChoices)
    (hchoices' : ∀ t ∈ after, t.DistinctChoices) (hids : after.map (·.id) = before.map (·.id))
    {i : Nat} {t u : Template} (ht : before[i]? = some t) (hu : after[i]? = some u) :
    u.sameAs t ↔
      t.name = u.name ∧ t.kind = u.kind ∧ t.index = u.index ∧ t.choices.Perm u.choices := by
  have ht' := hchoices t (List.mem_of_getElem? ht)
  have hu' := hchoices' u (List.mem_of_getElem? hu)
  have hid : t.id = u.id := Template.id_eq_of_getElem? hids.symm hu ht
  rw [Template.sameAs_comm hu' ht', Template.sameAs_iff_perm ht' hu']
  simp [hid]

end Templates

/-! ## Boards -/

section Boards

variable {before after : Board} (hbefore : before.Distinct) (hafter : after.Distinct)
include hbefore hafter

theorem changedTemplates_eq_nil_iff_of_distinct
    (hids : after.templates.map (·.id) = before.templates.map (·.id)) :
    changedTemplates before.templates 0 after.templates = [] ↔
      ∀ (i : Nat) (t u : Template), before.templates[i]? = some t → after.templates[i]? = some u →
        t.name = u.name ∧ t.kind = u.kind ∧ t.index = u.index ∧ t.choices.Perm u.choices := by
  rw [changedTemplates_eq_nil_iff hbefore.ids hids]
  refine forall₅_congr fun i t u ht hu => ?_
  exact sameAs_iff_of_getElem? hbefore.choices hafter.choices hids ht hu

theorem isEmpty_between_iff : (Patch.between before after).isEmpty ↔ before.SaysSame after := by
  rw [isEmpty_iff]
  constructor
  · intro hempty
    obtain ⟨hdetails, hproperties⟩ := details_and_properties_eq_of_between_eq_empty hempty
    have hupdates : templateUpdates before.templates after.templates = [] :=
      congrArg Patch.updatedTemplates hempty
    have hids := ids_eq_of_nothing_sent hupdates (congrArg Patch.deletedTemplates hempty)
    rw [templateUpdates, if_pos hids] at hupdates
    exact ⟨hdetails, hproperties, hids.symm,
      (changedTemplates_eq_nil_iff_of_distinct hbefore hafter hids).1 hupdates⟩
  · rintro ⟨hdetails, hproperties, hids, htemplates⟩
    have hnone := (changedTemplates_eq_nil_iff_of_distinct hbefore hafter hids.symm).2 htemplates
    rw [between_eq_of_ids_eq hdetails.symm hproperties.symm hids.symm, hnone]
    rfl

end Boards

/-- The update and the undo of an edit are empty together, and exactly if the two versions agree
    in all details, in all properties and in the sequence of ids, and have at each position
    templates with the same name, kind, note of position and choices, these in any order. -/
theorem patches_empty_iff_versions_say_same (before after : Board) (hbefore : before.Distinct)
    (hafter : after.Distinct) :
    let edit := Edit.between before after
    (edit.update.isEmpty ↔ edit.undo.isEmpty) ∧
      (edit.update.isEmpty ↔ before.SaysSame after) := by
  intro edit
  have hupdate : edit.update.isEmpty ↔ before.SaysSame after := isEmpty_between_iff hbefore hafter
  have hundo : edit.undo.isEmpty ↔ after.SaysSame before := isEmpty_between_iff hafter hbefore
  refine ⟨?_, hupdate⟩
  rw [hupdate, hundo, Board.saysSame_comm]

/-- Two boards with the choices of a template in another order say the same. With a note of a
    position in place of none they do not. -/
theorem patches_empty_for_reordered_choices :
    let yes : Property.Choice := ⟨"yes", "Yes", ""⟩
    let no : Property.Choice := ⟨"no", "No", ""⟩
    let done (choices : List Property.Choice) (index : Option Nat) : Template :=
      ⟨"done", "Done", .select, choices, index⟩
    let board (id : String) (template : Template) : Board := Board.new id "Board" 0 [template]
    let old := board "b" (done [yes, no] none)
    let reordered := board "c" (done [no, yes] none)
    let noted := board "b" (done [yes, no] (some 0))
    old.Distinct ∧ reordered.Distinct ∧ noted.Distinct ∧
      (Edit.between old reordered).undo.isEmpty ∧ old.SaysSame reordered ∧
      ¬old.SaysSame noted := by
  intro yes no done board old reordered noted
  have hold : old.Distinct := ⟨by decide, by decide⟩
  have hreordered : reordered.Distinct := ⟨by decide, by decide⟩
  have hnoted : noted.Distinct := ⟨by decide, by decide⟩
  obtain ⟨hboth, hsame⟩ := patches_empty_iff_versions_say_same old reordered hold hreordered
  obtain ⟨-, hother⟩ := patches_empty_iff_versions_say_same old noted hold hnoted
  have hempty : (Edit.between old reordered).update.isEmpty := by decide
  have hsent : (Edit.between old noted).update.isEmpty = false := by decide
  refine ⟨hold, hreordered, hnoted, hboth.1 hempty, hsame.1 hempty, fun h => ?_⟩
  exact Bool.false_ne_true (hsent.symm.trans (hother.2 h))

end Patch
end Corkboard
