-- SUMMARY: What a patch does to the list of templates: which ones remain, and in which order.
import Corkboard.Patch.Diff
import Corkboard.Proofs.Patch.Moves
import Corkboard.Proofs.Property.Lookup

/-!
# Templates under a patch

A list of templates without repeated ids is seen through its ids and through look-ups. The
deletions and updates decide what the look-ups give, and the moves only rearrange the ids.
-/

namespace Corkboard.Patch

open Property (Template)

/-! ## Putting -/

theorem ids_putTemplate (ts : List Template) (t : Template) :
    (putTemplate ts t).map (·.id) =
      if t.id ∈ ts.map (·.id) then ts.map (·.id) else ts.map (·.id) ++ [t.id] := by
  induction ts with
  | nil => simp [putTemplate]
  | cons u rest ih =>
    by_cases hu : u.id = t.id
    · simp [putTemplate, hu]
    · simp only [putTemplate, hu, if_false, List.map_cons, ih, List.mem_cons, Ne.symm hu, false_or]
      split <;> rfl

theorem find?_putTemplate (ts : List Template) (t : Template) (id : String) :
    Template.find? (putTemplate ts t) id =
      if t.id = id then some t else Template.find? ts id := by
  induction ts with
  | nil => by_cases hid : t.id = id <;> simp [putTemplate, Template.find?, hid]
  | cons u rest ih =>
    simp only [Template.find?] at ih ⊢
    rw [putTemplate]
    split
    case isTrue hu =>
      by_cases hid : t.id = id <;> simp [hu, hid]
    case isFalse hu =>
      rw [List.find?_cons, List.find?_cons, ih]
      by_cases hid : u.id = id
      · have ht : t.id ≠ id := fun h => hu (hid.trans h.symm)
        simp [hid, ht]
      · rw [beq_eq_false_iff_ne.2 hid]

theorem mem_putTemplate {ts : List Template} {t u : Template} (h : u ∈ putTemplate ts t) :
    u = t ∨ u ∈ ts := by
  induction ts with
  | nil => exact .inl (List.mem_singleton.1 h)
  | cons v rest ih =>
    rw [putTemplate] at h
    split at h
    case isTrue => exact (List.mem_cons.1 h).imp id (List.mem_cons_of_mem v)
    case isFalse =>
      rcases List.mem_cons.1 h with rfl | h
      · exact .inr (by simp)
      · exact (ih h).imp id (List.mem_cons_of_mem v)

/-- The templates after the deletions and the updates, before the moves. -/
def mergeTemplates (updated : List Template) (deleted : List String) (ts : List Template) :
    List Template :=
  updated.foldl putTemplate (ts.filter fun t => !deleted.contains t.id)

theorem nodup_ids_foldl_put {ts : List Template} (updated : List Template)
    (h : (ts.map (·.id)).Nodup) : ((updated.foldl putTemplate ts).map (·.id)).Nodup := by
  induction updated generalizing ts with
  | nil => exact h
  | cons t updated ih =>
    refine ih ?_
    rw [ids_putTemplate]
    exact Property.nodup_append_missing h t.id

theorem ids_foldl_put_of_subset {updated ts : List Template}
    (h : ∀ t ∈ updated, t.id ∈ ts.map (·.id)) :
    (updated.foldl putTemplate ts).map (·.id) = ts.map (·.id) := by
  induction updated generalizing ts with
  | nil => rfl
  | cons t updated ih =>
    have hput : (putTemplate ts t).map (·.id) = ts.map (·.id) := by
      rw [ids_putTemplate, if_pos (h t (by simp))]
    rw [List.foldl_cons, ih, hput]
    rw [hput]
    exact fun t' ht' => h t' (by simp [ht'])

/-- The last update of a template wins. -/
theorem find?_foldl_put (updated ts : List Template) (id : String) :
    Template.find? (updated.foldl putTemplate ts) id =
      (Template.find? updated.reverse id).or (Template.find? ts id) := by
  induction updated generalizing ts with
  | nil => rfl
  | cons t updated ih =>
    rw [List.foldl_cons, ih, find?_putTemplate]
    simp only [Template.find?, List.reverse_cons, List.find?_append, List.find?_singleton,
      Option.or_assoc, beq_iff_eq]
    split <;> rfl

theorem mem_foldl_put {updated ts : List Template} {u : Template}
    (h : u ∈ updated.foldl putTemplate ts) : u ∈ updated ∨ u ∈ ts := by
  induction updated generalizing ts with
  | nil => exact .inr h
  | cons t updated ih =>
    rcases ih h with h | h
    · exact .inl (List.mem_cons_of_mem t h)
    · exact (mem_putTemplate h).imp (fun h => by simp [h]) id

theorem find?_filter_deleted (deleted : List String) (ts : List Template) (id : String) :
    Template.find? (ts.filter fun t => !deleted.contains t.id) id =
      if id ∈ deleted then none else Template.find? ts id := by
  simp only [Template.find?, List.find?_filter]
  split
  case isTrue h => simpa using fun t _ ht hid => ht (hid ▸ h)
  case isFalse h =>
    congr 1
    ext t
    by_cases hid : t.id = id <;> simp [hid, h]

theorem find?_mergeTemplates (updated : List Template) (deleted : List String)
    (ts : List Template) (id : String) :
    Template.find? (mergeTemplates updated deleted ts) id =
      (Template.find? updated.reverse id).or
        (if id ∈ deleted then none else Template.find? ts id) := by
  rw [mergeTemplates, find?_foldl_put, find?_filter_deleted]

theorem nodup_ids_mergeTemplates (updated : List Template) (deleted : List String)
    {ts : List Template} (h : (ts.map (·.id)).Nodup) :
    ((mergeTemplates updated deleted ts).map (·.id)).Nodup :=
  nodup_ids_foldl_put updated (h.sublist (List.filter_sublist.map _))

/-! ## Moving -/

theorem insertIdx_min (ts : List Template) (position : Nat) (t : Template) :
    ts.insertIdx (min position ts.length) t = ts.take position ++ t :: ts.drop position := by
  induction ts generalizing position with
  | nil => simp
  | cons u rest ih =>
    cases position with
    | zero => simp
    | succ n => simpa [Nat.succ_min_succ] using ih n

theorem moveTemplate_of_missing {ts : List Template} {id : String}
    (ht : Template.find? ts id = none) (position : Nat) : moveTemplate ts id position = ts := by
  rw [Template.find?] at ht
  simp only [moveTemplate, ht]

theorem moveTemplate_eq {ts : List Template} {id : String} {t : Template}
    (ht : Template.find? ts id = some t) (position : Nat) :
    moveTemplate ts id position =
      (ts.eraseP (·.id == id)).take position ++ t :: (ts.eraseP (·.id == id)).drop position := by
  rw [Template.find?] at ht
  simp only [moveTemplate, ht, insertIdx_min]

theorem ids_moveTemplate {ts : List Template} {id : String} (position : Nat)
    (h : id ∈ ts.map (·.id)) :
    (moveTemplate ts id position).map (·.id) = place (ts.map (·.id)) position id := by
  cases ht : Template.find? ts id with
  | none => exact absurd h (Template.find?_eq_none_iff.1 ht)
  | some t =>
    have hid : t.id = id := by simpa using List.find?_some ht
    have herase : (ts.eraseP (·.id == id)).map (·.id) = (ts.map (·.id)).erase id := by
      rw [List.erase_eq_eraseP', List.eraseP_map]
      rfl
    rw [moveTemplate_eq ht, place, ← herase, ← List.map_take, ← List.map_drop, List.map_append,
      List.map_cons, hid]

/-- A move takes the template out of its place and lets it split the rest at another one. -/
theorem exists_split_moveTemplate {ts : List Template} {id : String} {t : Template}
    (ht : Template.find? ts id = some t) (position : Nat) :
    ∃ before after, ts = before ++ t :: after ∧
      moveTemplate ts id position =
        (before ++ after).take position ++ t :: (before ++ after).drop position := by
  have heq := moveTemplate_eq ht position
  obtain ⟨hid, before, after, rfl, hbefore⟩ := List.find?_eq_some_iff_append.1 ht
  have herase : (before ++ t :: after).eraseP (·.id == id) = before ++ after := by
    rw [List.eraseP_append_right _ (by simpa using hbefore)]
    simp [hid]
  exact ⟨before, after, rfl, herase ▸ heq⟩

theorem moveTemplate_perm (ts : List Template) (id : String) (position : Nat) :
    (moveTemplate ts id position).Perm ts := by
  cases ht : Template.find? ts id with
  | none => rw [moveTemplate_of_missing ht]
  | some t =>
    obtain ⟨before, after, rfl, hmove⟩ := exists_split_moveTemplate ht position
    rw [hmove]
    refine List.perm_middle.trans ?_
    rw [List.take_append_drop]
    exact List.perm_middle.symm

/-- The moves rearrange the templates as they rearrange the ids. -/
theorem ids_foldl_move {moves : List (Nat × String)} {ts : List Template}
    (h : ∀ m ∈ moves, m.2 ∈ ts.map (·.id)) :
    (moves.foldl (fun ts (position, id) => moveTemplate ts id position) ts).map (·.id) =
      placeAll moves (ts.map (·.id)) := by
  induction moves generalizing ts with
  | nil => rfl
  | cons m moves ih =>
    have hm := ids_moveTemplate m.1 (h m (by simp))
    rw [List.foldl_cons, placeAll_cons, ih, hm]
    intro m' hm'
    rw [hm, (place_perm m.1 (h m (by simp))).mem_iff]
    exact h m' (by simp [hm'])

theorem foldl_move_perm (moves : List (Nat × String)) (ts : List Template) :
    (moves.foldl (fun ts (position, id) => moveTemplate ts id position) ts).Perm ts := by
  induction moves generalizing ts with
  | nil => exact .refl ts
  | cons m moves ih => exact (ih _).trans (moveTemplate_perm ts m.2 m.1)

/-! ## The whole edit -/

@[simp] theorem editTemplates_nil (ts : List Template) : editTemplates [] [] ts = ts := by
  simp [editTemplates, placements]

theorem mem_placements {updated : List Template} {m : Nat × String} :
    m ∈ placements updated ↔ ∃ t ∈ updated, t.index = some m.1 ∧ t.id = m.2 := by
  simp only [placements, List.mem_mergeSort, List.mem_filterMap, Option.map_eq_some_iff]
  constructor
  · rintro ⟨t, ht, i, hi, rfl⟩
    exact ⟨t, ht, hi, rfl⟩
  · rintro ⟨t, ht, hi, hid⟩
    exact ⟨t, ht, m.1, hi, by rw [hid]⟩

theorem mem_ids_mergeTemplates {updated : List Template} {deleted : List String}
    {ts : List Template} {id : String} :
    id ∈ (mergeTemplates updated deleted ts).map (·.id) ↔
      id ∈ updated.map (·.id) ∨ id ∈ ts.map (·.id) ∧ id ∉ deleted := by
  rw [← not_iff_not, ← Template.find?_eq_none_iff, find?_mergeTemplates, Option.or_eq_none_iff,
    Template.find?_eq_none_iff, List.map_reverse, List.mem_reverse, not_or, not_and_not_right]
  split
  case isTrue h => simp [h]
  case isFalse h => simp [h, Template.find?_eq_none_iff]

theorem editTemplates_perm (updated : List Template) (deleted : List String)
    (ts : List Template) :
    (editTemplates updated deleted ts).Perm (mergeTemplates updated deleted ts) :=
  foldl_move_perm _ _

theorem mem_editTemplates {updated ts : List Template} {deleted : List String} {u : Template}
    (h : u ∈ editTemplates updated deleted ts) : u ∈ updated ∨ u ∈ ts :=
  (mem_foldl_put ((editTemplates_perm updated deleted ts).mem_iff.1 h)).imp id
    fun h => (List.mem_filter.1 h).1

theorem ids_editTemplates (updated : List Template) (deleted : List String)
    (ts : List Template) :
    (editTemplates updated deleted ts).map (·.id) =
      placeAll (placements updated) ((mergeTemplates updated deleted ts).map (·.id)) := by
  apply ids_foldl_move
  intro m hm
  obtain ⟨t, ht, -, hid⟩ := mem_placements.1 hm
  exact mem_ids_mergeTemplates.2 (.inl (hid ▸ List.mem_map_of_mem ht))

theorem nodup_ids_editTemplates (updated : List Template) (deleted : List String)
    {ts : List Template} (h : (ts.map (·.id)).Nodup) :
    ((editTemplates updated deleted ts).map (·.id)).Nodup :=
  ((editTemplates_perm updated deleted ts).map _).nodup_iff.2
    (nodup_ids_mergeTemplates updated deleted h)

theorem find?_editTemplates (updated : List Template) (deleted : List String)
    {ts : List Template} (h : (ts.map (·.id)).Nodup) (id : String) :
    Template.find? (editTemplates updated deleted ts) id =
      (Template.find? updated.reverse id).or
        (if id ∈ deleted then none else Template.find? ts id) := by
  rw [← find?_mergeTemplates]
  exact Template.find?_of_perm (nodup_ids_editTemplates updated deleted h)
    (editTemplates_perm updated deleted ts) id

end Corkboard.Patch
