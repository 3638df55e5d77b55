-- SUMMARY: A patch of an edit that is applied again changes nothing, and update and undo lead to and fro between the same two boards.
import Corkboard.Proofs.Patch.Independence

/-!
# Replaying the patches of an edit

The undo of an edit leads back to the content of the board before, but not to the same board, as it
leaves notes of positions there. From then on nothing changes any more: the update leads to the
board that it has made the first time, and the undo to the board that it has made. A patch that
arrives twice does no harm either.

This is not so for any patch, since what a patch moves may depend on where it stands. The patches of
an edit are of two forms, a full list with all positions or the changes at their places, and both
decide by what they carry alone.
-/

namespace Corkboard

open Property (Template)

/-! ## One value -/

section Replay

variable {α : Type} [DecidableEq α] (before after current : α)

theorem replay_twice : replay before after (replay before after current) =
    replay before after current := by
  by_cases h : before = after <;> simp [replay, h]

theorem replay_to_and_fro :
    replay before after (replay after before (replay before after current)) =
      replay before after current := by
  by_cases h : before = after <;> simp [replay, h]

end Replay

/-! ## Details -/

namespace DetailChanges

variable (before after d : Details)

theorem applyTo_twice :
    (between before after).applyTo ((between before after).applyTo d) =
      (between before after).applyTo d := by
  simp only [applyTo, between, getD_changed?_eq_replay, replay_twice]

theorem applyTo_to_and_fro :
    (between before after).applyTo
        ((between after before).applyTo ((between before after).applyTo d)) =
      (between before after).applyTo d := by
  simp only [applyTo, between, getD_changed?_eq_replay, replay_to_and_fro]

end DetailChanges

namespace Patch

/-! ## Templates -/

section Same

variable {before after ts : List Template} (hbefore : (before.map (·.id)).Nodup)
  (hafter : after.map (·.id) = before.map (·.id)) (hts : ts.map (·.id) = before.map (·.id))
include hbefore hafter hts

theorem getElem?_replayTemplates_of_sameAs {i : Nat} {r s : Template} (hr : before[i]? = some r)
    (hs : after[i]? = some s) (hsame : s.sameAs r) :
    (replayTemplates before after ts)[i]? = ts[i]? := by
  obtain ⟨t, ht, -⟩ := Template.getElem?_of_ids_eq hts hr
  rw [getElem?_replayTemplates hbefore hafter hts hr hs ht, if_pos hsame, ht]

/-- What the patch makes of the templates depends only on those that it leaves alone. -/
theorem replayTemplates_congr {ts' : List Template}
    (hts' : ts'.map (·.id) = before.map (·.id))
    (h : ∀ (i : Nat) (r s : Template), before[i]? = some r → after[i]? = some s → s.sameAs r →
      ts[i]? = ts'[i]?) :
    replayTemplates before after ts = replayTemplates before after ts' := by
  apply Property.ext_getElem?_along before
  · exact Template.length_eq_of_ids_eq (ids_replayTemplates hbefore hafter hts)
  · exact Template.length_eq_of_ids_eq (ids_replayTemplates hbefore hafter hts')
  intro i r hr
  obtain ⟨s, hs, -⟩ := Template.getElem?_of_ids_eq hafter hr
  obtain ⟨t, ht, -⟩ := Template.getElem?_of_ids_eq hts hr
  obtain ⟨t', ht', -⟩ := Template.getElem?_of_ids_eq hts' hr
  rw [getElem?_replayTemplates hbefore hafter hts hr hs ht,
    getElem?_replayTemplates hbefore hafter hts' hr hs ht']
  by_cases hsame : s.sameAs r
  · have heq : some t = some t' := by rw [← ht, ← ht', h i r s hr hs hsame]
    rw [Option.some.inj heq]
  · rw [if_neg hsame, if_neg hsame]

theorem replayTemplates_twice :
    replayTemplates before after (replayTemplates before after ts) =
      replayTemplates before after ts := by
  have hids := ids_replayTemplates hbefore hafter hts
  apply replayTemplates_congr hbefore hafter hids hts
  intro i r s hr hs hsame
  exact getElem?_replayTemplates_of_sameAs hbefore hafter hts hr hs hsame

/-- What is sent back is just what was sent, because saying the same is symmetric. -/
theorem replayTemplates_to_and_fro (hchoices : ∀ t ∈ before, t.DistinctChoices)
    (hchoices' : ∀ t ∈ after, t.DistinctChoices) :
    replayTemplates before after (replayTemplates after before (replayTemplates before after ts)) =
      replayTemplates before after ts := by
  have hids := (ids_replayTemplates hbefore hafter hts).trans hafter.symm
  have hafter' : (after.map (·.id)).Nodup := hafter ▸ hbefore
  have hids' := (ids_replayTemplates hafter' hafter.symm hids).trans hafter
  apply replayTemplates_congr hbefore hafter hids' hts
  intro i r s hr hs hsame
  have hback : r.sameAs s := by
    rwa [Template.sameAs_comm (hchoices r (List.mem_of_getElem? hr))
      (hchoices' s (List.mem_of_getElem? hs))]
  rw [getElem?_replayTemplates_of_sameAs hafter' hafter.symm hids hs hr hback,
    getElem?_replayTemplates_of_sameAs hbefore hafter hts hr hs hsame]

end Same

section Between

variable {before after ts : List Template} (hbefore : (before.map (·.id)).Nodup)
  (hafter : (after.map (·.id)).Nodup) (hts : ts.map (·.id) = before.map (·.id))
include hbefore hafter hts

theorem editTemplates_between_twice :
    editTemplates (templateUpdates before after) (missingIds before after)
        (editTemplates (templateUpdates before after) (missingIds before after) ts) =
      editTemplates (templateUpdates before after) (missingIds before after) ts := by
  by_cases heq : after.map (·.id) = before.map (·.id)
  · simp only [editTemplates_of_ids_eq _ heq]
    exact replayTemplates_twice hbefore heq hts
  · -- The full list is sent a second time, to a board that has it already.
    rw [editTemplates_of_ids_ne hafter hbefore hts heq, templateUpdates, if_neg heq]
    apply editTemplates_indexed hafter
    · rwa [ids_indexed]
    · intro id hid _
      rwa [ids_indexed] at hid

theorem editTemplates_between_to_and_fro (hchoices : ∀ t ∈ before, t.DistinctChoices)
    (hchoices' : ∀ t ∈ after, t.DistinctChoices) :
    editTemplates (templateUpdates before after) (missingIds before after)
        (editTemplates (templateUpdates after before) (missingIds after before)
          (editTemplates (templateUpdates before after) (missingIds before after) ts)) =
      editTemplates (templateUpdates before after) (missingIds before after) ts := by
  by_cases heq : after.map (·.id) = before.map (·.id)
  · simp only [editTemplates_of_ids_eq _ heq, editTemplates_of_ids_eq _ heq.symm]
    exact replayTemplates_to_and_fro hbefore heq hts hchoices hchoices'
  · rw [editTemplates_of_ids_ne hafter hbefore hts heq,
      editTemplates_of_ids_ne hbefore hafter (ids_indexed 0 after) (Ne.symm heq),
      editTemplates_of_ids_ne hafter hbefore (ids_indexed 0 before) heq]

end Between

/-! ## Boards -/

section Boards

variable {before after b : Board} (hbefore : before.Distinct) (hafter : after.Distinct)
  (hb : b.templates.map (·.id) = before.templates.map (·.id))
include hbefore hafter hb

/-- On a board with the ids of `before`, the patch to `after` can be applied again to no effect. -/
theorem applyTo_between_twice :
    (Patch.between before after).applyTo ((Patch.between before after).applyTo b) =
      (Patch.between before after).applyTo b := by
  apply Board.eq_of_parts
  · rfl
  · exact DetailChanges.applyTo_twice before.details after.details b.details
  · intro key
    simp only [get?_properties_between, replay_twice]
  · exact editTemplates_between_twice hbefore.ids hafter.ids hb

/-- Going back in between does not change where the patch to `after` leads. -/
theorem applyTo_between_to_and_fro :
    (Patch.between before after).applyTo
        ((Patch.between after before).applyTo ((Patch.between before after).applyTo b)) =
      (Patch.between before after).applyTo b := by
  apply Board.eq_of_parts
  · rfl
  · exact DetailChanges.applyTo_to_and_fro before.details after.details b.details
  · intro key
    simp only [get?_properties_between, replay_to_and_fro]
  · exact editTemplates_between_to_and_fro hbefore.ids hafter.ids hb hbefore.choices
      hafter.choices

end Boards

/-- The patches of an edit can be replayed without any drift. The update does nothing to the board
    that it has made, the undo does nothing to the board that it has made of this one, and from
    there the update leads to the first of the two again, with the same notes of positions and the
    same order of choices. -/
theorem replays_are_exact (before after : Board) (hbefore : before.Distinct)
    (hafter : after.Distinct) :
    let edit := Edit.between before after
    let forward := edit.update.applyTo before
    let back := edit.undo.applyTo forward
    edit.update.applyTo forward = forward ∧ edit.undo.applyTo back = back ∧
      edit.update.applyTo back = forward := by
  intro edit forward back
  have hforward : forward.templates.map (·.id) = after.templates.map (·.id) :=
    ids_editTemplates_between hbefore.ids hafter.ids rfl
  exact ⟨applyTo_between_twice hbefore hafter rfl, applyTo_between_twice hafter hbefore hforward,
    applyTo_between_to_and_fro hbefore hafter rfl⟩

/-- Two edits of one board. The first renames a template, changes the order of the choices of
    another one and drops a property. The second moves that template to the front, where it notes
    another position, adds a template and deletes one. -/
theorem replays_are_exact_renamed_and_moved :
    let plan (name : String) : Template := ⟨"plan", name, .text, [], none⟩
    let yes : Property.Choice := ⟨"yes", "Yes", ""⟩
    let no : Property.Choice := ⟨"no", "No", ""⟩
    let done (choices : List Property.Choice) : Template :=
      ⟨"done", "Done", .select, choices, some 7⟩
    let due : Template := ⟨"due", "Due", .date, [], none⟩
    let old : Board := { Board.new "b" "Board" 0 [plan "Plan", done [yes, no]] with
      properties := KeyMap.empty.insert "color" (.text "red") }
    let renamed := Board.new "b" "Board" 1 [plan "Goal", done [no, yes]]
    let moved := Board.new "b" "Board" 2 [done [no], due]
    let first := Edit.between old renamed
    let second := Edit.between old moved
    old.Distinct ∧ renamed.Distinct ∧ moved.Distinct ∧
      first.update.applyTo (first.undo.applyTo (first.update.applyTo old)) =
        first.update.applyTo old ∧
      second.update.applyTo (second.undo.applyTo (second.update.applyTo old)) =
        second.update.applyTo old := by
  intro plan yes no done due old renamed moved first second
  have hold : old.Distinct := ⟨by decide, by decide⟩
  have hrenamed : renamed.Distinct := ⟨by decide, by decide⟩
  have hmoved : moved.Distinct := ⟨by decide, by decide⟩
  obtain ⟨-, -, hfirst⟩ := replays_are_exact old renamed hold hrenamed
  obtain ⟨-, -, hsecond⟩ := replays_are_exact old moved hold hmoved
  exact ⟨hold, hrenamed, hmoved, hfirst, hsecond⟩

end Patch
end Corkboard
