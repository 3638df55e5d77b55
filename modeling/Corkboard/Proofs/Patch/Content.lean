-- SUMMARY: The content of a board without the notes of positions, and the two patches of an edit as inverses of each other on content.
import Corkboard.Proofs.Patch.Reaching

/-!
# Content

The index of a template is a note of its position, and patches leave such notes behind. Going
forward and back again therefore does not give the same board, but one with the same content.
This is enough for the next step, since a patch decides nothing by the notes on the board. It
looks only at ids.

Where the ids keep their order, a patch replays the change of each template at its place. Two such
patches stay out of each other's way if no template is changed by both.
-/

namespace Corkboard

open Property (Template)

/-- The template without the note of its position. -/
def Property.Template.withoutIndex (t : Template) : Template := { t with index := none }

@[simp] theorem Property.Template.id_withoutIndex (t : Template) : t.withoutIndex.id = t.id := rfl

@[simp] theorem Property.Template.withoutIndex_withIndex (t : Template) (i : Nat) :
    (t.withIndex i).withoutIndex = t.withoutIndex := rfl

/-- The board without the notes of positions. -/
def Board.content (b : Board) : Board :=
  { b with templates := b.templates.map (·.withoutIndex) }

/-- No two templates have the same id, and neither have two choices of one template. -/
structure Board.Distinct (b : Board) : Prop where
  ids : (b.templates.map (·.id)).Nodup
  choices : ∀ t ∈ b.templates, t.DistinctChoices

theorem Board.ids_content (b : Board) :
    b.content.templates.map (·.id) = b.templates.map (·.id) := by
  simp [content]

theorem Board.distinct_content_iff {b : Board} : b.content.Distinct ↔ b.Distinct := by
  constructor
  · rintro ⟨hids, hchoices⟩
    exact ⟨b.ids_content ▸ hids, fun t ht => hchoices t.withoutIndex (List.mem_map_of_mem ht)⟩
  · rintro ⟨hids, hchoices⟩
    refine ⟨b.ids_content.symm ▸ hids, fun t ht => ?_⟩
    obtain ⟨u, hu, rfl⟩ := List.mem_map.1 ht
    exact hchoices u hu

theorem Board.Distinct.of_content_eq {b c : Board} (hb : b.Distinct) (h : b.content = c.content) :
    c.Distinct :=
  distinct_content_iff.1 (h ▸ distinct_content_iff.2 hb)

namespace Patch

/-! ## Patches and content -/

section Map

variable {f : Template → Template} (hf : ∀ t, (f t).id = t.id)
include hf

theorem map_putTemplate (ts : List Template) (t : Template) :
    (putTemplate ts t).map f = putTemplate (ts.map f) (f t) := by
  induction ts with
  | nil => rfl
  | cons u rest ih =>
    rw [List.map_cons, putTemplate, putTemplate, hf, hf]
    split
    case isTrue => rfl
    case isFalse => rw [List.map_cons, ih]

theorem map_foldl_put (updated ts : List Template) :
    (updated.foldl putTemplate ts).map f = (updated.map f).foldl putTemplate (ts.map f) := by
  induction updated generalizing ts with
  | nil => rfl
  | cons t updated ih =>
    rw [List.map_cons, List.foldl_cons, List.foldl_cons, ih, map_putTemplate hf]

theorem map_mergeTemplates (updated : List Template) (deleted : List String) (ts : List Template) :
    (mergeTemplates updated deleted ts).map f =
      mergeTemplates (updated.map f) deleted (ts.map f) := by
  simp only [mergeTemplates, map_foldl_put hf, List.filter_map, Function.comp_def, hf]

theorem map_moveTemplate (ts : List Template) (id : String) (position : Nat) :
    (moveTemplate ts id position).map f = moveTemplate (ts.map f) id position := by
  cases ht : Template.find? ts id with
  | none =>
    have ht' : Template.find? (ts.map f) id = none := by
      rw [Template.find?_eq_none_iff] at ht ⊢
      simpa [hf] using ht
    rw [moveTemplate_of_missing ht, moveTemplate_of_missing ht']
  | some t =>
    have ht' : Template.find? (ts.map f) id = some (f t) := by
      rw [Template.find?] at ht ⊢
      simp only [List.find?_map, Function.comp_def, hf, ht, Option.map_some]
    simp only [moveTemplate_eq ht, moveTemplate_eq ht', List.map_append, List.map_cons,
      List.map_take, List.map_drop, List.eraseP_map, Function.comp_def, hf]

theorem map_foldl_move (moves : List (Nat × String)) (ts : List Template) :
    (moves.foldl (fun ts (position, id) => moveTemplate ts id position) ts).map f =
      moves.foldl (fun ts (position, id) => moveTemplate ts id position) (ts.map f) := by
  induction moves generalizing ts with
  | nil => rfl
  | cons m moves ih =>
    rw [List.foldl_cons, List.foldl_cons, ih, map_moveTemplate hf]

end Map

theorem withoutIndex_editTemplates (updated : List Template) (deleted : List String)
    {ts ts' : List Template} (h : ts.map (·.withoutIndex) = ts'.map (·.withoutIndex)) :
    (editTemplates updated deleted ts).map (·.withoutIndex) =
      (editTemplates updated deleted ts').map (·.withoutIndex) := by
  have hid (t : Template) : t.withoutIndex.id = t.id := rfl
  have hedit (us : List Template) : (editTemplates updated deleted us).map (·.withoutIndex) =
      (placements updated).foldl (fun ts (position, id) => moveTemplate ts id position)
        (mergeTemplates (updated.map (·.withoutIndex)) deleted (us.map (·.withoutIndex))) := by
    rw [← map_mergeTemplates hid]
    exact map_foldl_move hid _ _
  rw [hedit, hedit, h]

/-- A patch makes boards with the same content of boards with the same content. -/
theorem content_applyTo (p : Patch) {b c : Board} (h : b.content = c.content) :
    (p.applyTo b).content = (p.applyTo c).content := by
  simp only [Board.content, Board.mk.injEq] at h
  obtain ⟨hid, hdetails, hproperties, htemplates⟩ := h
  have := withoutIndex_editTemplates p.updatedTemplates p.deletedTemplates htemplates
  simp only [Board.content, applyTo, hid, hdetails, hproperties, this]

/-! ## Templates that keep their ids -/

/-- The templates of `ts`, with those of `after` that `before` has otherwise in their places. -/
def replayTemplates (before after ts : List Template) : List Template :=
  editTemplates (changedTemplates before 0 after) [] ts

/-- Without a change every template stays. -/
theorem replayTemplates_self {before : List Template} (hbefore : (before.map (·.id)).Nodup)
    (hchoices : ∀ t ∈ before, t.DistinctChoices) (ts : List Template) :
    replayTemplates before before ts = ts := by
  have hnone : changedTemplates before 0 before = [] := by
    refine (changedTemplates_eq_nil_iff hbefore rfl).2 fun i t u ht hu => ?_
    obtain rfl : t = u := Option.some.inj (ht.symm.trans hu)
    exact Template.sameAs_self (hchoices t (List.mem_of_getElem? ht))
  rw [replayTemplates, hnone, editTemplates_nil]

section Same

variable {before after ts : List Template} (hbefore : (before.map (·.id)).Nodup)
  (hafter : after.map (·.id) = before.map (·.id)) (hts : ts.map (·.id) = before.map (·.id))
include hbefore hafter hts

theorem ids_replayTemplates :
    (replayTemplates before after ts).map (·.id) = before.map (·.id) :=
  (ids_editTemplates_changed before (hts.trans hafter.symm) (hts ▸ hbefore)).trans hts

/-- At each position the template stays if the one before and the one after say the same. -/
theorem getElem?_replayTemplates {i : Nat} {r s t : Template} (hr : before[i]? = some r)
    (hs : after[i]? = some s) (ht : ts[i]? = some t) :
    (replayTemplates before after ts)[i]? = some (if s.sameAs r then t else s.withIndex i) := by
  rw [replayTemplates, getElem?_editTemplates_changed before (hts.trans hafter.symm)
    (hts ▸ hbefore) hs ht, Template.find?_of_ids_eq hbefore hafter hr hs, Option.any_some]

end Same

section Apart

variable {base left right : List Template} (hbase : (base.map (·.id)).Nodup)
  (hleft : left.map (·.id) = base.map (·.id)) (hright : right.map (·.id) = base.map (·.id))
include hbase hleft hright

theorem replayTemplates_comm
    (h : ∀ (i : Nat) (r s t : Template), base[i]? = some r → left[i]? = some s →
      right[i]? = some t → s.sameAs r ∨ t.sameAs r) :
    replayTemplates base right (replayTemplates base left base) =
      replayTemplates base left (replayTemplates base right base) := by
  have hids := ids_replayTemplates hbase hleft rfl
  have hids' := ids_replayTemplates hbase hright rfl
  apply Property.ext_getElem?_along base
  · exact Template.length_eq_of_ids_eq (ids_replayTemplates hbase hright hids)
  · exact Template.length_eq_of_ids_eq (ids_replayTemplates hbase hleft hids')
  intro i r hr
  obtain ⟨s, hs, -⟩ := Template.getElem?_of_ids_eq hleft hr
  obtain ⟨t, ht, -⟩ := Template.getElem?_of_ids_eq hright hr
  rw [getElem?_replayTemplates hbase hright hids hr ht
      (getElem?_replayTemplates hbase hleft rfl hr hs hr),
    getElem?_replayTemplates hbase hleft hids' hr hs
      (getElem?_replayTemplates hbase hright rfl hr ht hr)]
  rcases h i r s t hr hs ht with hsame | hsame
  · simp only [hsame, if_true]
  · simp only [hsame, if_true]

/-- Taking back the changes of `left` leaves those of `right`, up to the notes of positions. What
    is sent back is just what was sent, because saying the same is symmetric. -/
theorem withoutIndex_replayTemplates_back (hchoices : ∀ t ∈ base, t.DistinctChoices)
    (hchoices' : ∀ t ∈ left, t.DistinctChoices)
    (h : ∀ (i : Nat) (r s t : Template), base[i]? = some r → left[i]? = some s →
      right[i]? = some t → s.sameAs r ∨ t.sameAs r) :
    (replayTemplates left base
        (replayTemplates base right (replayTemplates base left base))).map (·.withoutIndex) =
      (replayTemplates base right base).map (·.withoutIndex) := by
  have hids := ids_replayTemplates hbase hleft rfl
  have hids' := ids_replayTemplates hbase hright hids
  have hleft' : (left.map (·.id)).Nodup := hleft ▸ hbase
  have hback := ids_replayTemplates hleft' hleft.symm (hids'.trans hleft.symm)
  apply Property.ext_getElem?_along base
  · rw [List.length_map]
    exact Template.length_eq_of_ids_eq (hback.trans hleft)
  · rw [List.length_map]
    exact Template.length_eq_of_ids_eq (ids_replayTemplates hbase hright rfl)
  intro i r hr
  obtain ⟨s, hs, -⟩ := Template.getElem?_of_ids_eq hleft hr
  obtain ⟨t, ht, -⟩ := Template.getElem?_of_ids_eq hright hr
  have hsame : r.sameAs s = s.sameAs r :=
    Template.sameAs_comm (hchoices r (List.mem_of_getElem? hr))
      (hchoices' s (List.mem_of_getElem? hs))
  have hboth := getElem?_replayTemplates hbase hright hids hr ht
    (getElem?_replayTemplates hbase hleft rfl hr hs hr)
  rw [List.getElem?_map, List.getElem?_map,
    getElem?_replayTemplates hleft' hleft.symm (hids'.trans hleft.symm) hs hr hboth,
    getElem?_replayTemplates hbase hright rfl hr ht hr, hsame]
  rcases h i r s t hr hs ht with hsame | hsame
  · simp only [hsame, if_true]
  · by_cases hsame' : s.sameAs r <;> simp [hsame, hsame']

end Apart

/-! ## Forward and back -/

theorem withoutIndex_indexed (position : Nat) (ts : List Template) :
    (indexed position ts).map (·.withoutIndex) = ts.map (·.withoutIndex) := by
  induction ts generalizing position with
  | nil => rfl
  | cons t rest ih => simp [indexed, ih]

theorem mem_templateUpdates {before after : List Template} {t : Template}
    (h : t ∈ templateUpdates before after) :
    ∃ (i : Nat) (u : Template), after[i]? = some u ∧ t = u.withIndex i := by
  rw [templateUpdates] at h
  split at h
  case isTrue =>
    obtain ⟨i, u, hu, -, rfl⟩ := mem_changedTemplates.1 h
    exact ⟨i, u, hu, rfl⟩
  case isFalse =>
    rw [indexed_eq_mapIdx, List.mem_mapIdx] at h
    obtain ⟨i, hi, rfl⟩ := h
    exact ⟨i, after[i], List.getElem?_eq_getElem hi, by rw [Nat.zero_add]⟩

/-- The update of an edit makes a board without repeated ids. -/
theorem distinct_applyTo_between {before after : Board} (hbefore : before.Distinct)
    (hafter : after.Distinct) : ((Patch.between before after).applyTo before).Distinct where
  ids := by
    rw [applyTo_between before after before rfl rfl,
      ids_editTemplates_between hbefore.ids hafter.ids rfl]
    exact hafter.ids
  choices t ht := by
    rcases mem_editTemplates ht with ht | ht
    · obtain ⟨i, u, hu, rfl⟩ := mem_templateUpdates ht
      exact hafter.choices u (List.mem_of_getElem? hu)
    · exact hbefore.choices t ht

/-- If the ids keep their order, the undo takes the update back, as it does next to an edit that
    changes nothing. -/
theorem withoutIndex_back_of_ids_eq {before after : List Template}
    (hbefore : (before.map (·.id)).Nodup) (hids : after.map (·.id) = before.map (·.id))
    (hchoices : ∀ t ∈ before, t.DistinctChoices) (hchoices' : ∀ t ∈ after, t.DistinctChoices) :
    (editTemplates (changedTemplates after 0 before) []
        (editTemplates (changedTemplates before 0 after) [] before)).map (·.withoutIndex) =
      before.map (·.withoutIndex) := by
  have hself (ts : List Template) : replayTemplates before before ts = ts :=
    replayTemplates_self hbefore hchoices ts
  have hback := withoutIndex_replayTemplates_back hbefore hids rfl hchoices hchoices' ?_
  · rwa [hself, hself] at hback
  intro i r s t hr hs ht
  obtain rfl : r = t := Option.some.inj (hr.symm.trans ht)
  exact .inr (Template.sameAs_self (hchoices r (List.mem_of_getElem? hr)))

/-- The undo of an edit takes its update back, up to the notes of positions. -/
theorem content_undo_update {before after : Board} (hbefore : before.Distinct)
    (hafter : after.Distinct) :
    ((Patch.between after before).applyTo ((Patch.between before after).applyTo before)).content =
      before.content := by
  have hforward := applyTo_between before after before rfl rfl
  rw [applyTo_between after before _ (by rw [hforward]) (by rw [hforward]), hforward]
  simp only [Board.content, Board.mk.injEq, true_and]
  have hids := ids_editTemplates_between hbefore.ids hafter.ids rfl
  by_cases heq : after.templates.map (·.id) = before.templates.map (·.id)
  · rw [editTemplates_of_ids_eq _ heq, editTemplates_of_ids_eq _ heq.symm]
    exact withoutIndex_back_of_ids_eq hbefore.ids heq hbefore.choices hafter.choices
  · rw [editTemplates_of_ids_ne hbefore.ids hafter.ids hids (Ne.symm heq), withoutIndex_indexed]

end Patch
end Corkboard
