-- SUMMARY: Edits that have no change in common can be made in either order, and one of them can be undone without the other.
import Corkboard.Proofs.Patch.Content

/-!
# Independent edits

Two edits start from the same board and change different things: other details, other properties,
other templates. Then it does not matter whose update comes first. The undo of one of them, made
for a board without the other edit, still takes back just this one.

For details and properties this is the same argument: a patch replays a change of one value, and a
value is changed by one of the edits at most.
-/

namespace Corkboard

open Property (Template)

/-! ## One value -/

section Replay

variable {α : Type} [DecidableEq α] {base left right : α}

/-- What a change from `before` to `after` makes of a value that may be another one by now. -/
def replay (before after current : α) : α := if before = after then current else after

theorem getD_changed?_eq_replay (before after current : α) :
    (changed? before after).getD current = replay before after current := by
  by_cases h : before = after <;> simp [changed?, replay, h]

theorem replay_comm (h : base = left ∨ base = right) :
    replay base right (replay base left base) = replay base left (replay base right base) := by
  rcases h with rfl | rfl <;> simp [replay]

theorem replay_back (h : base = left ∨ base = right) :
    replay left base (replay base right (replay base left base)) = replay base right base := by
  rcases h with rfl | rfl
  · simp [replay]
  · by_cases hleft : base = left <;> simp [replay, hleft, eq_comm]

end Replay

/-! ## Details -/

/-- No detail of `base` is another one both in `left` and in `right`. -/
structure Details.Apart (base left right : Details) : Prop where
  teamId : base.teamId = left.teamId ∨ base.teamId = right.teamId
  channelId : base.channelId = left.channelId ∨ base.channelId = right.channelId
  createdBy : base.createdBy = left.createdBy ∨ base.createdBy = right.createdBy
  modifiedBy : base.modifiedBy = left.modifiedBy ∨ base.modifiedBy = right.modifiedBy
  access : base.access = left.access ∨ base.access = right.access
  minimumRole : base.minimumRole = left.minimumRole ∨ base.minimumRole = right.minimumRole
  title : base.title = left.title ∨ base.title = right.title
  description : base.description = left.description ∨ base.description = right.description
  icon : base.icon = left.icon ∨ base.icon = right.icon
  showDescription :
    base.showDescription = left.showDescription ∨ base.showDescription = right.showDescription
  isTemplate : base.isTemplate = left.isTemplate ∨ base.isTemplate = right.isTemplate
  templateVersion :
    base.templateVersion = left.templateVersion ∨ base.templateVersion = right.templateVersion
  createdAt : base.createdAt = left.createdAt ∨ base.createdAt = right.createdAt
  updatedAt : base.updatedAt = left.updatedAt ∨ base.updatedAt = right.updatedAt
  deletedAt : base.deletedAt = left.deletedAt ∨ base.deletedAt = right.deletedAt

namespace DetailChanges

variable {base left right : Details} (h : Details.Apart base left right)
include h

theorem applyTo_comm :
    (between base right).applyTo ((between base left).applyTo base) =
      (between base left).applyTo ((between base right).applyTo base) := by
  cases h
  simp only [applyTo, between, getD_changed?_eq_replay, Details.mk.injEq]
  and_intros <;> exact replay_comm (by assumption)

theorem applyTo_back :
    (between left base).applyTo ((between base right).applyTo ((between base left).applyTo base)) =
      (between base right).applyTo base := by
  cases h
  simp only [applyTo, between, getD_changed?_eq_replay, Details.mk.injEq]
  and_intros <;> exact replay_back (by assumption)

end DetailChanges

namespace Patch

/-! ## Properties and templates -/

/-- Under each key a patch replays the change of the value, where no value counts as one too. -/
theorem get?_properties_between (before after b : Board) (key : String) :
    ((Patch.between before after).applyTo b).properties.get? key =
      replay (before.properties.get? key) (after.properties.get? key) (b.properties.get? key) := by
  simp only [applyTo, between, KeyMap.get?_insertAll, KeyMap.get?_eraseAll, changedEntries,
    KeyMap.get?_filter, mem_missingKeys, KeyMap.contains]
  cases hafter : after.properties.get? key with
  | none => cases hbefore : before.properties.get? key <;> simp [replay]
  | some value =>
    by_cases hsame : before.properties.get? key = some value <;>
      simp [replay, Option.filter, hsame]

theorem templates_between {before after : Board} (b : Board)
    (hids : after.templates.map (·.id) = before.templates.map (·.id)) :
    ((Patch.between before after).applyTo b).templates =
      replayTemplates before.templates after.templates b.templates :=
  editTemplates_of_ids_eq b.templates hids

end Patch

/-! ## Boards -/

/-- Two edits of `base` keep its templates in their order, and change nothing in common: no
    detail, no property and no template. -/
structure Board.Independent (base left right : Board) : Prop where
  ids_left : left.templates.map (·.id) = base.templates.map (·.id)
  ids_right : right.templates.map (·.id) = base.templates.map (·.id)
  details : Details.Apart base.details left.details right.details
  properties : ∀ key, base.properties.get? key = left.properties.get? key ∨
    base.properties.get? key = right.properties.get? key
  templates : ∀ t ∈ base.templates,
    (left.findTemplate? t.id).any t.sameAs ∨ (right.findTemplate? t.id).any t.sameAs

theorem Board.eq_of_parts {b c : Board} (hid : b.id = c.id) (hdetails : b.details = c.details)
    (hproperties : ∀ key, b.properties.get? key = c.properties.get? key)
    (htemplates : b.templates = c.templates) : b = c := by
  cases b
  cases c
  exact (Board.mk.injEq ..).mpr ⟨hid, hdetails, KeyMap.ext_get? hproperties, htemplates⟩

namespace Patch

section Independent

variable {base left right : Board} (hbase : base.Distinct) (hleft : left.Distinct)
  (hright : right.Distinct) (h : base.Independent left right)
include hbase hleft hright h

theorem sameAs_of_independent (i : Nat) (r s t : Template) (hr : base.templates[i]? = some r)
    (hs : left.templates[i]? = some s) (ht : right.templates[i]? = some t) :
    s.sameAs r ∨ t.sameAs r := by
  have hchoices := hbase.choices r (List.mem_of_getElem? hr)
  have hfound : left.findTemplate? r.id = some s :=
    Template.find?_of_ids_eq hleft.ids h.ids_left.symm hs hr
  have hfound' : right.findTemplate? r.id = some t :=
    Template.find?_of_ids_eq hright.ids h.ids_right.symm ht hr
  have hsame := h.templates r (List.mem_of_getElem? hr)
  rwa [hfound, hfound', Option.any_some, Option.any_some,
    Template.sameAs_comm hchoices (hleft.choices s (List.mem_of_getElem? hs)),
    Template.sameAs_comm hchoices (hright.choices t (List.mem_of_getElem? ht))] at hsame

theorem applyTo_comm :
    (Patch.between base right).applyTo ((Patch.between base left).applyTo base) =
      (Patch.between base left).applyTo ((Patch.between base right).applyTo base) := by
  apply Board.eq_of_parts
  · rfl
  · exact DetailChanges.applyTo_comm h.details
  · intro key
    simp only [get?_properties_between]
    exact replay_comm (h.properties key)
  · simp only [templates_between _ h.ids_left, templates_between _ h.ids_right]
    exact replayTemplates_comm hbase.ids h.ids_left h.ids_right
      (sameAs_of_independent hbase hleft hright h)

theorem content_applyTo_back :
    ((Patch.between left base).applyTo
        ((Patch.between base right).applyTo ((Patch.between base left).applyTo base))).content =
      ((Patch.between base right).applyTo base).content := by
  apply Board.eq_of_parts
  · rfl
  · exact DetailChanges.applyTo_back h.details
  · intro key
    simp only [Board.content, get?_properties_between]
    exact replay_back (h.properties key)
  · simp only [Board.content, templates_between _ h.ids_left, templates_between _ h.ids_right,
      templates_between _ h.ids_left.symm]
    exact withoutIndex_replayTemplates_back hbase.ids h.ids_left h.ids_right hbase.choices
      hleft.choices (sameAs_of_independent hbase hleft hright h)

end Independent

/-- Edits of a board that have no change in common lead to the same board in either order, and to
    undo one of them then leaves what the other one alone makes of the board, up to the notes of
    positions. -/
theorem independent_edits_commute (base left right : Board) (hbase : base.Distinct)
    (hleft : left.Distinct) (hright : right.Distinct) (h : base.Independent left right) :
    (Edit.between base right).update.applyTo ((Edit.between base left).update.applyTo base) =
        (Edit.between base left).update.applyTo ((Edit.between base right).update.applyTo base) ∧
      ((Edit.between base left).undo.applyTo ((Edit.between base right).update.applyTo
          ((Edit.between base left).update.applyTo base))).content =
        ((Edit.between base right).update.applyTo base).content :=
  ⟨applyTo_comm hbase hleft hright h, content_applyTo_back hbase hleft hright h⟩

/-- One edit renames the board and a template and gives a property another value. The other edit
    changes the description, relabels a choice and adds a property. -/
theorem independent_edits_commute_renamed :
    let plan (name : String) : Template := ⟨"plan", name, .text, [], none⟩
    let status (label : String) : Template :=
      ⟨"status", "Status", .select, [⟨"open", label, ""⟩, ⟨"closed", "Closed", ""⟩], some 1⟩
    let base : Board := { Board.new "b" "Board" 0 [plan "Plan", status "Open"] with
      properties := KeyMap.empty.insert "color" (.text "red") }
    let left : Board := { Board.new "b" "Renamed" 0 [plan "Goal", status "Open"] with
      properties := base.properties.insert "color" (.text "blue") }
    let right : Board := { base with
      details := { base.details with description := "About" }
      properties := base.properties.insert "size" (.text "big")
      templates := [plan "Plan", status "To do"] }
    base.Distinct ∧ left.Distinct ∧ right.Distinct ∧ base.Independent left right ∧
      (Edit.between base right).update.applyTo ((Edit.between base left).update.applyTo base) =
        (Edit.between base left).update.applyTo ((Edit.between base right).update.applyTo base) ∧
      ((Edit.between base left).undo.applyTo ((Edit.between base right).update.applyTo
          ((Edit.between base left).update.applyTo base))).content =
        ((Edit.between base right).update.applyTo base).content := by
  intro plan status base left right
  have hbase : base.Distinct := ⟨by decide, by decide⟩
  have hleft : left.Distinct := ⟨by decide, by decide⟩
  have hright : right.Distinct := ⟨by decide, by decide⟩
  have hproperties : ∀ key, base.properties.get? key = left.properties.get? key ∨
      base.properties.get? key = right.properties.get? key := by
    intro key
    by_cases hkey : key = "color"
    · exact .inr (by simp [right, hkey])
    · exact .inl (by simp [left, hkey])
  have h : base.Independent left right :=
    { ids_left := by decide
      ids_right := by decide
      details := by constructor <;> decide
      properties := hproperties
      templates := by decide }
  exact ⟨hbase, hleft, hright, h, independent_edits_commute base left right hbase hleft hright h⟩

end Patch
end Corkboard
