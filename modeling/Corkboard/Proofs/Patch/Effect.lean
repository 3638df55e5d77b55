-- SUMMARY: What any patch does to a board, whatever it lists and in whatever order.
import Corkboard.Proofs.Patch.Templates

/-!
# The effect of a patch

A patch may come from elsewhere. It may list an id twice, delete what it updates, or ask for
positions that the list does not have. Still it changes nothing but what it names: the deletions
and the updates decide which templates there are, and the moves only take the updated ones to
other places among the rest.
-/

namespace Corkboard

open Property (Template)

/-! ## Details -/

/-- The details that a patch does not name are the same before and after. -/
structure DetailChanges.Spares (c : DetailChanges) (before after : Details) : Prop where
  teamId : c.teamId = .none → after.teamId = before.teamId
  channelId : c.channelId = .none → after.channelId = before.channelId
  createdBy : c.createdBy = .none → after.createdBy = before.createdBy
  modifiedBy : c.modifiedBy = .none → after.modifiedBy = before.modifiedBy
  access : c.access = .none → after.access = before.access
  minimumRole : c.minimumRole = .none → after.minimumRole = before.minimumRole
  title : c.title = .none → after.title = before.title
  description : c.description = .none → after.description = before.description
  icon : c.icon = .none → after.icon = before.icon
  showDescription : c.showDescription = .none → after.showDescription = before.showDescription
  isTemplate : c.isTemplate = .none → after.isTemplate = before.isTemplate
  templateVersion : c.templateVersion = .none → after.templateVersion = before.templateVersion
  createdAt : c.createdAt = .none → after.createdAt = before.createdAt
  updatedAt : c.updatedAt = .none → after.updatedAt = before.updatedAt
  deletedAt : c.deletedAt = .none → after.deletedAt = before.deletedAt

theorem DetailChanges.spares_applyTo (c : DetailChanges) (d : Details) :
    c.Spares d (c.applyTo d) := by
  constructor <;> intro h <;> simp only [applyTo, h, Option.getD_none]

namespace Patch

/-! ## Properties -/

/-- An update of a key counts, then a deletion, and otherwise the value from before. -/
theorem get?_properties_applyTo (p : Patch) (b : Board) (key : String) :
    (p.applyTo b).properties.get? key =
      (p.updatedProperties.get? key).or
        (if key ∈ p.deletedProperties then none else b.properties.get? key) := by
  rw [applyTo, KeyMap.get?_insertAll, KeyMap.get?_eraseAll]

/-! ## Templates that are left alone

A patch is seen here through the templates whose ids satisfy `keep`. If it names none of them,
each of its steps leaves this part of the list as it is. -/

section Keep

variable {keep : String → Bool}

theorem filter_putTemplate {t : Template} (ht : keep t.id = false) (ts : List Template) :
    (putTemplate ts t).filter (keep ·.id) = ts.filter (keep ·.id) := by
  induction ts with
  | nil => simp [putTemplate, ht]
  | cons u rest ih =>
    rw [putTemplate]
    split
    case isTrue hu => simp [hu, ht]
    case isFalse => rw [List.filter_cons, List.filter_cons, ih]

theorem filter_foldl_put {updated : List Template} (h : ∀ t ∈ updated, keep t.id = false)
    (ts : List Template) :
    (updated.foldl putTemplate ts).filter (keep ·.id) = ts.filter (keep ·.id) := by
  induction updated generalizing ts with
  | nil => rfl
  | cons t updated ih =>
    rw [List.foldl_cons, ih fun u hu => h u (by simp [hu]), filter_putTemplate (h t (by simp))]

theorem filter_moveTemplate {id : String} (hid : keep id = false) (ts : List Template)
    (position : Nat) : (moveTemplate ts id position).filter (keep ·.id) = ts.filter (keep ·.id) := by
  cases ht : Template.find? ts id with
  | none => rw [moveTemplate_of_missing ht]
  | some t =>
    have htid : t.id = id := by simpa using List.find?_some ht
    have ht' : keep t.id = false := htid ▸ hid
    obtain ⟨before, after, rfl, hmove⟩ := exists_split_moveTemplate ht position
    rw [hmove, List.filter_append, List.filter_cons_of_neg (by simp [ht']),
      ← List.filter_append, List.take_append_drop]
    simp [ht']

theorem filter_foldl_move {moves : List (Nat × String)} (h : ∀ m ∈ moves, keep m.2 = false)
    (ts : List Template) :
    (moves.foldl (fun ts (position, id) => moveTemplate ts id position) ts).filter (keep ·.id) =
      ts.filter (keep ·.id) := by
  induction moves generalizing ts with
  | nil => rfl
  | cons m moves ih =>
    rw [List.foldl_cons, ih fun m' hm' => h m' (by simp [hm']),
      filter_moveTemplate (h m (by simp))]

/-- The templates that a patch does not name stay as they are, in their order. -/
theorem filter_editTemplates {updated : List Template} {deleted : List String}
    (hupdated : ∀ t ∈ updated, keep t.id = false) (hdeleted : ∀ id ∈ deleted, keep id = false)
    (ts : List Template) :
    (editTemplates updated deleted ts).filter (keep ·.id) = ts.filter (keep ·.id) := by
  have hmoves : ∀ m ∈ placements updated, keep m.2 = false := by
    intro m hm
    obtain ⟨t, ht, -, hid⟩ := mem_placements.1 hm
    exact hid ▸ hupdated t ht
  rw [editTemplates, filter_foldl_move hmoves, filter_foldl_put hupdated, List.filter_filter]
  apply List.filter_congr
  intro t _
  cases hkeep : keep t.id with
  | false => rfl
  | true =>
    have hkept : t.id ∉ deleted := by
      intro hmem
      exact Bool.false_ne_true ((hdeleted t.id hmem).symm.trans hkeep)
    simp [hkept]

end Keep

/-- Whether the patch neither updates nor deletes a template with this id. -/
def leaves (p : Patch) (id : String) : Bool :=
  decide (id ∉ p.updatedTemplates.map (·.id) ∧ id ∉ p.deletedTemplates)

theorem filter_leaves_applyTo (p : Patch) (b : Board) :
    (p.applyTo b).templates.filter (p.leaves ·.id) = b.templates.filter (p.leaves ·.id) := by
  apply filter_editTemplates
  · intro t ht
    have : t.id ∈ p.updatedTemplates.map (·.id) := List.mem_map_of_mem ht
    simp only [leaves, this, not_true_eq_false, false_and, decide_false]
  · intro id hid
    simp only [leaves, hid, not_true_eq_false, and_false, decide_false]

/-! ## The whole board -/

theorem ids_applyTo (p : Patch) (b : Board) (id : String) :
    id ∈ (p.applyTo b).templates.map (·.id) ↔
      id ∈ p.updatedTemplates.map (·.id) ∨
        id ∈ b.templates.map (·.id) ∧ id ∉ p.deletedTemplates := by
  rw [← mem_ids_mergeTemplates]
  exact ((editTemplates_perm _ _ _).map _).mem_iff

/-- The last update of a template wins. -/
theorem findTemplate?_applyTo_last {p : Patch} {b : Board} (hb : (b.templates.map (·.id)).Nodup)
    {earlier later : List Template} {t : Template}
    (hupdated : p.updatedTemplates = earlier ++ t :: later) (hlast : t.id ∉ later.map (·.id)) :
    (p.applyTo b).findTemplate? t.id = some t := by
  have hlater : Template.find? later.reverse t.id = none := by
    rw [Template.find?_eq_none_iff]
    simpa using hlast
  have hfound : Template.find? p.updatedTemplates.reverse t.id = some t := by
    rw [Template.find?] at hlater ⊢
    simp [hupdated, List.find?_append, hlater]
  rw [Board.findTemplate?, applyTo, find?_editTemplates _ _ hb, hfound, Option.some_or]

/-- Whatever a patch lists, the templates afterwards have distinct ids again. They are the
    updated ones, each as it was listed last, and those from before that are not deleted. What
    the patch does not name stays, and the templates it does not name stay in their order. -/
theorem applyTo_changes_only_named (p : Patch) (b : Board)
    (hb : (b.templates.map (·.id)).Nodup) :
    ((p.applyTo b).templates.map (·.id)).Nodup ∧
      (∀ id, id ∈ (p.applyTo b).templates.map (·.id) ↔
        id ∈ p.updatedTemplates.map (·.id) ∨
          id ∈ b.templates.map (·.id) ∧ id ∉ p.deletedTemplates) ∧
      (∀ earlier t later, p.updatedTemplates = earlier ++ t :: later →
        t.id ∉ later.map (·.id) → (p.applyTo b).findTemplate? t.id = some t) ∧
      (p.applyTo b).templates.filter (p.leaves ·.id) = b.templates.filter (p.leaves ·.id) ∧
      (∀ key, (p.applyTo b).properties.get? key =
        (p.updatedProperties.get? key).or
          (if key ∈ p.deletedProperties then none else b.properties.get? key)) ∧
      p.details.Spares b.details (p.applyTo b).details ∧ (p.applyTo b).id = b.id := by
  refine ⟨nodup_ids_editTemplates _ _ hb, ids_applyTo p b, ?_, filter_leaves_applyTo p b,
    get?_properties_applyTo p b, DetailChanges.spares_applyTo _ _, rfl⟩
  intro earlier t later hupdated hlast
  exact findTemplate?_applyTo_last hb hupdated hlast

/-- A template is deleted and updated twice, with a position behind the end of the list and with
    one that another template asks for as well. -/
theorem applyTo_changes_only_named_overlapping :
    let text (id name : String) (index : Option Nat) : Template := ⟨id, name, .text, [], index⟩
    let board := Board.new "b" "Board" 0
      [text "w" "W" none, text "x" "X" none, text "y" "Y" none, text "z" "Z" (some 1)]
    let patch : Patch :=
      { Patch.empty with
        updatedTemplates := [text "y" "Y1" (some 9), text "v" "V" (some 0), text "y" "Y2" (some 0)]
        deletedTemplates := ["x", "y", "gone"] }
    (board.templates.map (·.id)).Nodup ∧
      ((patch.applyTo board).templates.map (·.id)).Nodup ∧
      (patch.applyTo board).findTemplate? "y" = some (text "y" "Y2" (some 0)) ∧
      (patch.applyTo board).templates.filter (patch.leaves ·.id) =
        [text "w" "W" none, text "z" "Z" (some 1)] := by
  intro text board patch
  have hb : (board.templates.map (·.id)).Nodup := by decide
  obtain ⟨hnodup, -, hlast, hleaves, -⟩ := applyTo_changes_only_named patch board hb
  refine ⟨hb, hnodup, ?_, ?_⟩
  · exact hlast [text "y" "Y1" (some 9), text "v" "V" (some 0)] (text "y" "Y2" (some 0)) [] rfl
      (by decide)
  · rw [hleaves]
    decide

end Patch
end Corkboard
