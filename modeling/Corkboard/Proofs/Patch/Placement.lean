-- SUMMARY: When the templates that a patch updates stand at the positions they ask for.
import Corkboard.Proofs.Patch.Templates

/-!
# Placement

An updated template with an index asks for a position. A patch that asks for all positions gets
what it asks for. Other patches may not: a template that fills a position nobody asked for may
be moved on from there, and then all templates behind it slip forward by one.
-/

namespace Corkboard.Patch

open Property (Template)

/-! ## The moves of a patch -/

theorem placements_perm (updated : List Template) :
    (placements updated).Perm (updated.filterMap fun t => t.index.map (·, t.id)) :=
  List.mergeSort_perm _ _

theorem positions_placements_perm (updated : List Template) :
    ((placements updated).map (·.1)).Perm (updated.filterMap (·.index)) := by
  refine ((placements_perm updated).map _).trans (.of_eq ?_)
  rw [List.map_filterMap]
  congr 1
  ext t : 1
  simp [Option.map_map, Function.comp_def]

theorem ids_placements_sublist (updated : List Template) :
    ((updated.filterMap fun t => t.index.map (·, t.id)).map (·.2)).Sublist
      (updated.map (·.id)) := by
  induction updated with
  | nil => exact .refl _
  | cons t rest ih =>
    cases hindex : t.index with
    | none => simpa [hindex] using ih.cons t.id
    | some i => simpa [hindex] using ih

/-- Distinct templates that ask for distinct positions make an orderly sequence of moves. -/
theorem orderly_placements {updated : List Template} {l : List String}
    (hids : (updated.map (·.id)).Nodup) (hindices : (updated.filterMap (·.index)).Nodup)
    (hpresent : ∀ t ∈ updated, t.id ∈ l)
    (hbounded : ∀ t ∈ updated, ∀ i ∈ t.index, i < l.length) : Orderly (placements updated) l where
  ascending := by
    have hle : (placements updated).Pairwise fun a b => a.1 ≤ b.1 := by
      refine (List.pairwise_mergeSort ?_ ?_ _).imp fun h => by simpa using h
      · intro a b c hab hbc
        simp only [decide_eq_true_eq] at *
        omega
      · intro a b
        simp only [Bool.or_eq_true, decide_eq_true_eq]
        omega
    have hne : (placements updated).Pairwise fun a b => a.1 ≠ b.1 :=
      List.pairwise_map.1 ((positions_placements_perm updated).nodup_iff.2 hindices)
    exact hle.imp₂ (fun a b hle hne => Nat.lt_of_le_of_ne hle hne) hne
  distinct :=
    ((placements_perm updated).map _).nodup_iff.2 (hids.sublist (ids_placements_sublist updated))
  present m hm := by
    obtain ⟨t, ht, -, hid⟩ := mem_placements.1 hm
    exact hid ▸ hpresent t ht
  bounded m hm := by
    obtain ⟨t, ht, hindex, -⟩ := mem_placements.1 hm
    exact hbounded t ht m.1 hindex

/-! ## Who fills the gaps -/

/-- The updated templates that ask for a position up to `i`. -/
def askersUpTo (updated : List Template) (i : Nat) : List Template :=
  updated.filter fun t => t.index.any (· ≤ i)

/-- The templates that fill the positions up to `i` nobody asks for. These are the first of the
    templates that ask for no position up to `i`, in the order before the moves. -/
def gapFillers (p : Patch) (b : Board) (i : Nat) : List Template :=
  let askers := askersUpTo p.updatedTemplates i
  ((mergeTemplates p.updatedTemplates p.deletedTemplates b.templates).filter fun t =>
    t.id ∉ askers.map (·.id)).take (i + 1 - askers.length)

theorem ids_placements_upTo_perm (updated : List Template) (i : Nat) :
    (((placements updated).filter (·.1 ≤ i)).map (·.2)).Perm
      ((askersUpTo updated i).map (·.id)) := by
  refine (((placements_perm updated).filter _).map _).trans (.of_eq ?_)
  induction updated with
  | nil => rfl
  | cons t rest ih =>
    cases hindex : t.index with
    | none => simpa [askersUpTo, hindex] using ih
    | some j => by_cases hj : j ≤ i <;> simpa [askersUpTo, hindex, hj] using ih

theorem ids_gapFillers (p : Patch) (b : Board) (i : Nat) :
    (gapFillers p b i).map (·.id) =
      fillers (placements p.updatedTemplates)
        ((mergeTemplates p.updatedTemplates p.deletedTemplates b.templates).map (·.id)) i := by
  have hperm := ids_placements_upTo_perm p.updatedTemplates i
  have hlen := hperm.length_eq
  rw [List.length_map, List.length_map] at hlen
  simp only [gapFillers, fillers, List.map_take, List.filter_map, hlen, Function.comp_def,
    hperm.mem_iff]

/-! ## The result -/

/-- An updated template stands where its id stands. -/
theorem getElem?_applyTo_iff {p : Patch} {b : Board} (hb : (b.templates.map (·.id)).Nodup)
    (hids : (p.updatedTemplates.map (·.id)).Nodup) {t : Template} (ht : t ∈ p.updatedTemplates)
    (i : Nat) :
    (p.applyTo b).templates[i]? = some t ↔
      ((p.applyTo b).templates.map (·.id))[i]? = some t.id := by
  constructor
  · intro h
    rw [List.getElem?_map, h]
    rfl
  · intro h
    obtain ⟨r, hr, hid⟩ := Option.map_eq_some_iff.1 (List.getElem?_map .. ▸ h)
    have hnodup := nodup_ids_editTemplates p.updatedTemplates p.deletedTemplates hb
    have hfound : Template.find? (p.applyTo b).templates r.id = some r :=
      Template.find?_of_getElem? hnodup hr
    have hupdated : Template.find? p.updatedTemplates t.id = some t :=
      (Template.find?_eq_some_iff hids).2 ⟨ht, rfl⟩
    rw [applyTo, find?_editTemplates _ _ hb, hid, Template.find?_reverse hids, hupdated,
      Option.some_or] at hfound
    rw [hr, hfound]

/-- Templates that ask for distinct positions of the list all come to stand there exactly if no
    template that fills a gap in front of one of these positions asks for a position itself. -/
theorem updated_stand_at_index_iff (p : Patch) (b : Board)
    (hb : (b.templates.map (·.id)).Nodup)
    (hids : (p.updatedTemplates.map (·.id)).Nodup)
    (hindices : (p.updatedTemplates.filterMap (·.index)).Nodup)
    (hbounded : ∀ t ∈ p.updatedTemplates, ∀ i ∈ t.index, i < (p.applyTo b).templates.length) :
    (∀ t ∈ p.updatedTemplates, ∀ i ∈ t.index, (p.applyTo b).templates[i]? = some t) ↔
      ∀ t ∈ p.updatedTemplates, ∀ i ∈ t.index, ∀ f ∈ gapFillers p b i,
        ∀ s ∈ p.updatedTemplates, s.id = f.id → s.index = none := by
  have hnodup := nodup_ids_mergeTemplates p.updatedTemplates p.deletedTemplates hb
  have horderly : Orderly (placements p.updatedTemplates)
      ((mergeTemplates p.updatedTemplates p.deletedTemplates b.templates).map (·.id)) := by
    refine orderly_placements hids hindices (fun t ht => ?_) fun t ht i hi => ?_
    · exact mem_ids_mergeTemplates.2 (.inl (List.mem_map_of_mem ht))
    · have hlen := (editTemplates_perm p.updatedTemplates p.deletedTemplates b.templates).length_eq
      rw [List.length_map, ← hlen]
      exact hbounded t ht i hi
  have hsettled := horderly.settled_iff hnodup
  rw [← ids_editTemplates] at hsettled
  constructor
  · intro hplaced t ht i hi f hf s hs hid
    by_contra hindex
    obtain ⟨j, hj⟩ := Option.ne_none_iff_exists'.1 hindex
    refine hsettled.1 (fun m hm => ?_) (i, t.id) (mem_placements.2 ⟨t, ht, hi, rfl⟩) f.id ?_ ?_
    · obtain ⟨u, hu, hindex, hid⟩ := mem_placements.1 hm
      rw [← hid]
      exact (getElem?_applyTo_iff hb hids hu m.1).1 (hplaced u hu m.1 hindex)
    · rw [← ids_gapFillers]
      exact List.mem_map_of_mem hf
    · exact List.mem_map.2 ⟨(j, f.id), mem_placements.2 ⟨s, hs, hj, hid⟩, rfl⟩
  · intro hfree t ht i hi
    refine (getElem?_applyTo_iff hb hids ht i).2 ?_
    refine hsettled.2 (fun m hm x hx hmem => ?_) (i, t.id) (mem_placements.2 ⟨t, ht, hi, rfl⟩)
    rw [← ids_gapFillers] at hx
    obtain ⟨f, hf, rfl⟩ := List.mem_map.1 hx
    obtain ⟨u, hu, hindex, -⟩ := mem_placements.1 hm
    obtain ⟨m', hm', hid⟩ := List.mem_map.1 hmem
    obtain ⟨s, hs, hindex', hid'⟩ := mem_placements.1 hm'
    rw [hfree u hu m.1 hindex f hf s hs (hid'.trans hid)] at hindex'
    cases hindex'

/-- Two of four templates are placed, and a third one fills the gap between them. -/
theorem updated_stand_at_index_across_gap :
    let text (id : String) (index : Option Nat) : Template := ⟨id, id, .text, [], index⟩
    let board := Board.new "b" "Board" 0
      [text "w" none, text "x" none, text "y" none, text "z" none]
    let patch : Patch :=
      { Patch.empty with updatedTemplates := [text "w" (some 2), text "y" (some 0)] }
    (board.templates.map (·.id)).Nodup ∧ (patch.updatedTemplates.map (·.id)).Nodup ∧
      (patch.updatedTemplates.filterMap (·.index)).Nodup ∧
      (∀ t ∈ patch.updatedTemplates, ∀ i ∈ t.index, i < (patch.applyTo board).templates.length) ∧
      gapFillers patch board 2 = [text "x" none] ∧
      ∀ t ∈ patch.updatedTemplates, ∀ i ∈ t.index,
        (patch.applyTo board).templates[i]? = some t := by
  intro text board patch
  have hb : (board.templates.map (·.id)).Nodup := by decide
  have hids : (patch.updatedTemplates.map (·.id)).Nodup := by decide
  have hindices : (patch.updatedTemplates.filterMap (·.index)).Nodup := by decide
  have hlen : (patch.applyTo board).templates.length = 4 :=
    (editTemplates_perm _ _ _).length_eq
  have hbounded : ∀ t ∈ patch.updatedTemplates, ∀ i ∈ t.index,
      i < (patch.applyTo board).templates.length := by
    rw [hlen]
    decide
  have hgap : gapFillers patch board 2 = [text "x" none] := by decide
  refine ⟨hb, hids, hindices, hbounded, hgap, ?_⟩
  exact (updated_stand_at_index_iff patch board hb hids hindices hbounded).2 (by decide)

/-- Asking for distinct positions of the list is not enough. Here `x` is put to position 1,
    where it stands already, and then `w` is taken away in front of it. -/
theorem updated_slips_forward :
    let text (id : String) (index : Option Nat) : Template := ⟨id, id, .text, [], index⟩
    let board := Board.new "b" "Board" 0 [text "w" none, text "x" none, text "y" none]
    let patch : Patch :=
      { Patch.empty with updatedTemplates := [text "x" (some 1), text "w" (some 2)] }
    (board.templates.map (·.id)).Nodup ∧ (patch.updatedTemplates.map (·.id)).Nodup ∧
      (∀ t ∈ patch.updatedTemplates, t.id ∉ patch.deletedTemplates) ∧
      (patch.updatedTemplates.filterMap (·.index)).Nodup ∧
      (∀ t ∈ patch.updatedTemplates, ∀ i ∈ t.index, i < (patch.applyTo board).templates.length) ∧
      (patch.applyTo board).templates[1]? ≠ some (text "x" (some 1)) := by
  intro text board patch
  have hmoves : placements patch.updatedTemplates = [(1, "x"), (2, "w")] :=
    (List.mergeSort_of_pairwise (by decide)).trans rfl
  have hresult : (patch.applyTo board).templates =
      [text "x" (some 1), text "y" none, text "w" (some 2)] := by
    simp only [applyTo, editTemplates, hmoves]
    rfl
  rw [hresult]
  exact ⟨by decide, by decide, by decide, by decide, by decide, by decide⟩

end Corkboard.Patch
