-- SUMMARY: Finding choices and templates by their ids in lists without repeated ids, and what it means for two templates to say the same.
import Mathlib.Data.List.Nodup
import Mathlib.Data.List.Perm.Subperm
import Corkboard.Board

/-!
# Look-up by id

The code finds choices and templates by their ids. In a list without repeated ids a look-up
says which items are in the list, and the ids say where they stand. Together the two determine
the list.
-/

namespace Corkboard.Property

/-! ## Lists with a key -/

section Key

variable {α : Type} {key : α → String} {l l' : List α}

theorem find?_key_eq_some_iff (hl : (l.map key).Nodup) {k : String} {a : α} :
    l.find? (key · == k) = some a ↔ a ∈ l ∧ key a = k := by
  induction l with
  | nil => simp
  | cons b rest ih =>
    obtain ⟨hb, hrest⟩ := List.nodup_cons.1 hl
    by_cases hk : key b = k
    · have hother : a ∈ rest → key a ≠ k := fun ha h =>
        hb (List.mem_map.2 ⟨a, ha, h.trans hk.symm⟩)
      rw [List.find?_cons_of_pos (by simp [hk]), Option.some_inj, List.mem_cons]
      constructor
      · rintro rfl
        exact ⟨.inl rfl, hk⟩
      · rintro ⟨rfl | ha, h⟩
        · rfl
        · exact (hother ha h).elim
    · rw [List.find?_cons_of_neg (by simp [hk]), ih hrest, List.mem_cons]
      constructor
      · rintro ⟨ha, h⟩
        exact ⟨.inr ha, h⟩
      · rintro ⟨rfl | ha, h⟩
        · exact (hk h).elim
        · exact ⟨ha, h⟩

theorem find?_key_eq_none_iff {k : String} : l.find? (key · == k) = none ↔ k ∉ l.map key := by
  rw [List.find?_eq_none, List.mem_map]
  simp

theorem find?_key_of_perm (hl : (l.map key).Nodup) (h : l.Perm l') (k : String) :
    l.find? (key · == k) = l'.find? (key · == k) := by
  have hl' : (l'.map key).Nodup := (h.map key).nodup_iff.1 hl
  ext a
  rw [find?_key_eq_some_iff hl, find?_key_eq_some_iff hl', h.mem_iff]

theorem find?_key_getElem {i : Nat} (hl : (l.map key).Nodup) (hi : i < l.length) :
    l.find? (key · == key l[i]) = some l[i] :=
  (find?_key_eq_some_iff hl).2 ⟨List.getElem_mem hi, rfl⟩

/-- Appending a key only where it is missing keeps the keys distinct. -/
theorem nodup_append_missing {keys : List String} (h : keys.Nodup) (k : String) :
    (if k ∈ keys then keys else keys ++ [k]).Nodup := by
  split
  case isTrue => exact h
  case isFalse hk =>
    refine List.nodup_append.2 ⟨h, by simp, fun k₁ h₁ k₂ h₂ heq => hk ?_⟩
    obtain rfl : k₂ = k := by simpa using h₂
    exact heq ▸ h₁

/-- Lists with the same keys in the same order and the same answers to each look-up are equal. -/
theorem eq_of_find?_key (hl : (l.map key).Nodup) (hkeys : l.map key = l'.map key)
    (hfind : ∀ k ∈ l.map key, l.find? (key · == k) = l'.find? (key · == k)) : l = l' := by
  have hlen : l.length = l'.length := by simpa using congrArg List.length hkeys
  apply List.ext_getElem hlen
  intro i hi hi'
  have hkey : key l[i] = key l'[i] := by
    have := congrArg (·[i]?) hkeys
    simpa [hi, hi'] using this
  have := hfind (key l[i]) (List.mem_map_of_mem (List.getElem_mem hi))
  rw [find?_key_getElem hl hi, hkey, find?_key_getElem (hkeys ▸ hl) hi'] at this
  simpa using this

end Key

/-- Two lists as long as a third one are equal if they agree wherever the third one has an item. -/
theorem ext_getElem?_along {α β : Type} {l l' : List α} (ts : List β)
    (hl : l.length = ts.length) (hl' : l'.length = ts.length)
    (h : ∀ (i : Nat) (t : β), ts[i]? = some t → l[i]? = l'[i]?) : l = l' := by
  apply List.ext_getElem?
  intro i
  cases ht : ts[i]? with
  | some t => exact h i t ht
  | none =>
    have hi := List.getElem?_eq_none_iff.1 ht
    rw [List.getElem?_eq_none (hl ▸ hi), List.getElem?_eq_none (hl' ▸ hi)]

namespace Template

/-! ## Lists of templates -/

section Lists

variable {ts ts' : List Template} {id : String} {t : Template}

theorem find?_eq_some_iff (h : (ts.map (·.id)).Nodup) : find? ts id = some t ↔ t ∈ ts ∧ t.id = id :=
  find?_key_eq_some_iff h

theorem find?_eq_none_iff : find? ts id = none ↔ id ∉ ts.map (·.id) :=
  find?_key_eq_none_iff

theorem find?_of_perm (h : (ts.map (·.id)).Nodup) (hp : ts.Perm ts') (id : String) :
    find? ts id = find? ts' id :=
  find?_key_of_perm h hp id

theorem find?_reverse (h : (ts.map (·.id)).Nodup) (id : String) :
    find? ts.reverse id = find? ts id :=
  (find?_of_perm h (List.reverse_perm ts).symm id).symm

theorem find?_of_getElem? {i : Nat} (h : (ts.map (·.id)).Nodup) (ht : ts[i]? = some t) :
    find? ts t.id = some t :=
  (find?_eq_some_iff h).2 ⟨List.mem_of_getElem? ht, rfl⟩

theorem length_eq_of_ids_eq (hids : ts'.map (·.id) = ts.map (·.id)) : ts'.length = ts.length := by
  simpa using congrArg List.length hids

theorem getElem?_of_ids_eq {i : Nat} (hids : ts'.map (·.id) = ts.map (·.id))
    (ht : ts[i]? = some t) : ∃ u, ts'[i]? = some u ∧ u.id = t.id := by
  simpa [ht] using congrArg (·[i]?) hids

theorem id_eq_of_getElem? {i : Nat} {u : Template} (hids : ts'.map (·.id) = ts.map (·.id))
    (ht : ts[i]? = some t) (hu : ts'[i]? = some u) : u.id = t.id := by
  simpa [ht, hu] using congrArg (·[i]?) hids

/-- Where the ids are the same, the id at a position leads to the template at this position. -/
theorem find?_of_ids_eq {i : Nat} {u : Template} (h : (ts.map (·.id)).Nodup)
    (hids : ts'.map (·.id) = ts.map (·.id)) (ht : ts[i]? = some t) (hu : ts'[i]? = some u) :
    find? ts u.id = some t := by
  rw [id_eq_of_getElem? hids ht hu]
  exact find?_of_getElem? h ht

theorem eq_of_find? (h : (ts.map (·.id)).Nodup) (hids : ts.map (·.id) = ts'.map (·.id))
    (hfind : ∀ id ∈ ts.map (·.id), find? ts id = find? ts' id) : ts = ts' :=
  eq_of_find?_key h hids hfind

end Lists

/-! ## Choices of a template -/

theorem findChoice?_eq_none_iff {t : Template} {id : String} :
    t.findChoice? id = none ↔ id ∉ t.choices.map (·.id) :=
  find?_key_eq_none_iff

theorem isSome_findChoice?_iff {t : Template} {id : String} :
    (t.findChoice? id).isSome ↔ id ∈ t.choices.map (·.id) := by
  rw [Option.isSome_iff_ne_none, ne_eq, findChoice?_eq_none_iff, not_not]

/-! ## Templates that say the same -/

/-- No two choices have the same id. -/
def DistinctChoices (t : Template) : Prop := (t.choices.map (·.id)).Nodup

instance (t : Template) : Decidable t.DistinctChoices :=
  inferInstanceAs (Decidable (List.Nodup _))

theorem sameAs_iff_found {a b : Template} :
    a.sameAs b ↔
      a.id = b.id ∧ a.name = b.name ∧ a.kind = b.kind ∧ a.index = b.index ∧
        a.choices.length = b.choices.length ∧
        ∀ c ∈ a.choices, b.findChoice? c.id = some c := by
  simp [sameAs, and_assoc]

/-- If no two choices share an id, the order of the choices is all that templates that say the
    same may differ in. -/
theorem sameAs_iff_perm {a b : Template} (ha : a.DistinctChoices) (hb : b.DistinctChoices) :
    a.sameAs b ↔
      a.id = b.id ∧ a.name = b.name ∧ a.kind = b.kind ∧ a.index = b.index ∧
        a.choices.Perm b.choices := by
  have hchoices : (a.choices.length = b.choices.length ∧
      ∀ c ∈ a.choices, b.findChoice? c.id = some c) ↔ a.choices.Perm b.choices := by
    constructor
    · rintro ⟨hlen, hfound⟩
      have hsub : a.choices ⊆ b.choices := fun c hc => List.mem_of_find?_eq_some (hfound c hc)
      exact ((List.Nodup.of_map _ ha).subperm hsub).perm_of_length_le (Nat.le_of_eq hlen.symm)
    · intro hperm
      exact ⟨hperm.length_eq, fun c hc =>
        (find?_key_eq_some_iff hb).2 ⟨hperm.mem_iff.1 hc, rfl⟩⟩
  rw [sameAs_iff_found, hchoices]

theorem sameAs_self {t : Template} (ht : t.DistinctChoices) : t.sameAs t := by
  simp [sameAs_iff_perm ht ht]

theorem sameAs_comm {a b : Template} (ha : a.DistinctChoices) (hb : b.DistinctChoices) :
    a.sameAs b = b.sameAs a := by
  rw [Bool.eq_iff_iff, sameAs_iff_perm ha hb, sameAs_iff_perm hb ha, List.perm_comm]
  simp only [eq_comm]

end Template
end Corkboard.Property
