-- SUMMARY: Finite maps from texts to values, kept as lists in ascending order of their keys.

/-!
# Maps with text keys

The written form of a map lists its keys in ascending order by code point. A `KeyMap` keeps
its entries in that order, and no key occurs twice. Therefore each map has one
representation, and two maps with the same answers to `get?` are equal.
-/

namespace Corkboard

/-- A finite map. The order of the keys is part of the type. -/
structure KeyMap (α : Type) where
  entries : List (String × α)
  sorted : entries.Pairwise fun a b => a.1 < b.1
  deriving DecidableEq

namespace KeyMap

variable {α : Type}

/-- The map without keys. -/
def empty : KeyMap α := ⟨[], .nil⟩

instance : Inhabited (KeyMap α) := ⟨empty⟩

/-- The keys, in ascending order. -/
def keys (m : KeyMap α) : List String := m.entries.map (·.1)

/-- The value under `key`, if there is one. -/
def get? (m : KeyMap α) (key : String) : Option α := m.entries.lookup key

/-- Whether the map has a value under `key`. -/
def contains (m : KeyMap α) (key : String) : Bool := (m.get? key).isSome

/-- Puts one entry in its place, over an entry with the same key. -/
private def insertEntry (key : String) (value : α) : List (String × α) → List (String × α)
  | [] => [(key, value)]
  | e :: rest =>
    if key < e.1 then (key, value) :: e :: rest
    else if e.1 < key then e :: insertEntry key value rest
    else (key, value) :: rest

private theorem mem_insertEntry {key : String} {value : α} {l : List (String × α)}
    {e : String × α} (h : e ∈ insertEntry key value l) : e = (key, value) ∨ e ∈ l := by
  induction l with
  | nil => simpa [insertEntry] using h
  | cons d rest ih =>
    simp only [insertEntry] at h
    split at h
    · simpa using h
    · split at h
      · rcases List.mem_cons.1 h with h | h
        · exact .inr (by simp [h])
        · exact (ih h).imp id (List.mem_cons_of_mem d)
      · rcases List.mem_cons.1 h with h | h
        · exact .inl h
        · exact .inr (List.mem_cons_of_mem d h)

private theorem pairwise_insertEntry (key : String) (value : α) {l : List (String × α)}
    (hl : l.Pairwise fun a b => a.1 < b.1) :
    (insertEntry key value l).Pairwise fun a b => a.1 < b.1 := by
  induction l with
  | nil => simp [insertEntry]
  | cons d rest ih =>
    obtain ⟨hd, hrest⟩ := List.pairwise_cons.1 hl
    simp only [insertEntry]
    split
    case isTrue hk =>
      refine List.pairwise_cons.2 ⟨fun e he => ?_, hl⟩
      rcases List.mem_cons.1 he with rfl | he
      · exact hk
      · exact String.lt_trans hk (hd e he)
    case isFalse hk =>
      split
      case isTrue hdk =>
        refine List.pairwise_cons.2 ⟨fun e he => ?_, ih hrest⟩
        rcases mem_insertEntry he with rfl | he
        · exact hdk
        · exact hd e he
      case isFalse hdk =>
        have : d.1 = key := String.le_antisymm (String.not_lt.1 hk) (String.not_lt.1 hdk)
        exact List.pairwise_cons.2 ⟨fun e he => this ▸ hd e he, hrest⟩

/-- The map with `value` under `key`. -/
def insert (m : KeyMap α) (key : String) (value : α) : KeyMap α :=
  ⟨insertEntry key value m.entries, pairwise_insertEntry key value m.sorted⟩

/-- The entries that satisfy `keep`. -/
def filter (m : KeyMap α) (keep : String → α → Bool) : KeyMap α :=
  ⟨m.entries.filter fun e => keep e.1 e.2, m.sorted.filter _⟩

/-- The map without `key`. -/
def erase (m : KeyMap α) (key : String) : KeyMap α :=
  m.filter fun k _ => k != key

/-- Inserts the entries one after the other, so that the last value of a key wins. -/
def insertAll (m : KeyMap α) (entries : List (String × α)) : KeyMap α :=
  entries.foldl (fun m e => m.insert e.1 e.2) m

/-- Erases the keys one after the other. -/
def eraseAll (m : KeyMap α) (keys : List String) : KeyMap α :=
  keys.foldl erase m

/-- The map of a list of entries; the last value of a key wins. -/
def ofList (entries : List (String × α)) : KeyMap α := empty.insertAll entries

-- ---------------------------------------------------------------------------
-- Lemmas: each operation, seen through `get?`
-- ---------------------------------------------------------------------------

@[simp] theorem get?_empty (key : String) : (empty : KeyMap α).get? key = none := rfl

private theorem lookup_insertEntry (key k : String) (value : α) {l : List (String × α)}
    (hl : l.Pairwise fun a b => a.1 < b.1) :
    (insertEntry key value l).lookup k = if k = key then some value else l.lookup k := by
  induction l with
  | nil =>
    by_cases h : k = key
    · simp [insertEntry, h]
    · simp [insertEntry, List.lookup_cons, beq_eq_false_iff_ne.2 h, h]
  | cons d rest ih =>
    obtain ⟨hd, hrest⟩ := List.pairwise_cons.1 hl
    obtain ⟨dk, dv⟩ := d
    by_cases hk : key < dk
    · rw [show insertEntry key value ((dk, dv) :: rest) = (key, value) :: (dk, dv) :: rest by
        simp [insertEntry, hk]]
      by_cases h : k = key
      · simp [h]
      · simp [h, List.lookup_cons, beq_eq_false_iff_ne.2 h]
    · by_cases hdk : dk < key
      · rw [show insertEntry key value ((dk, dv) :: rest) =
            (dk, dv) :: insertEntry key value rest by simp [insertEntry, hk, hdk],
          List.lookup_cons, ih hrest, List.lookup_cons]
        by_cases h : k = dk
        · have : dk ≠ key := fun he => String.lt_irrefl _ (he ▸ hdk)
          simp [h, this]
        · simp [beq_eq_false_iff_ne.2 h]
      · have hkey : dk = key := String.le_antisymm (String.not_lt.1 hk) (String.not_lt.1 hdk)
        subst hkey
        rw [show insertEntry dk value ((dk, dv) :: rest) = (dk, value) :: rest by
          simp [insertEntry]]
        by_cases h : k = dk
        · simp [h]
        · simp [h, List.lookup_cons, beq_eq_false_iff_ne.2 h]

@[simp] theorem get?_insert (m : KeyMap α) (key k : String) (value : α) :
    (m.insert key value).get? k = if k = key then some value else m.get? k :=
  lookup_insertEntry key k value m.sorted

theorem mem_entries_of_get? {m : KeyMap α} {key : String} {value : α}
    (h : m.get? key = some value) : (key, value) ∈ m.entries := by
  obtain ⟨entries, sorted⟩ := m
  simp only [get?] at h ⊢
  clear sorted
  induction entries with
  | nil => simp at h
  | cons d rest ih =>
    rw [List.lookup_cons] at h
    by_cases hk : key = d.1
    · have : d = (key, value) := Prod.ext hk.symm (by simpa [hk] using h)
      simp [this]
    · rw [beq_eq_false_iff_ne.2 hk] at h
      exact List.mem_cons_of_mem d (ih h)

theorem get?_of_mem_entries {m : KeyMap α} {key : String} {value : α}
    (h : (key, value) ∈ m.entries) : m.get? key = some value := by
  obtain ⟨entries, sorted⟩ := m
  simp only [get?] at h ⊢
  induction entries with
  | nil => simp at h
  | cons d rest ih =>
    obtain ⟨hd, hrest⟩ := List.pairwise_cons.1 sorted
    rcases List.mem_cons.1 h with rfl | h
    · simp
    · have : key ≠ d.1 := fun he => String.lt_irrefl _ (he ▸ hd _ h)
      rw [List.lookup_cons, beq_eq_false_iff_ne.2 this]
      exact ih hrest h

/-- A value is found under a key exactly if the two are an entry. -/
theorem get?_eq_some_iff {m : KeyMap α} {key : String} {value : α} :
    m.get? key = some value ↔ (key, value) ∈ m.entries :=
  ⟨mem_entries_of_get?, get?_of_mem_entries⟩

theorem get?_filter (m : KeyMap α) (keep : String → α → Bool) (key : String) :
    (m.filter keep).get? key = (m.get? key).filter (keep key) := by
  cases h : (m.get? key).filter (keep key) with
  | some value =>
    obtain ⟨hget, hkeep⟩ := Option.filter_eq_some_iff.1 h
    exact get?_of_mem_entries (List.mem_filter.2 ⟨mem_entries_of_get? hget, hkeep⟩)
  | none =>
    cases hf : (m.filter keep).get? key with
    | none => rfl
    | some value =>
      obtain ⟨hmem, hkeep⟩ := List.mem_filter.1 (mem_entries_of_get? hf)
      rw [get?_of_mem_entries hmem] at h
      simp_all

@[simp] theorem get?_erase (m : KeyMap α) (key k : String) :
    (m.erase key).get? k = if k = key then none else m.get? k := by
  rw [erase, get?_filter]
  by_cases h : k = key
  · cases m.get? k <;> simp [h]
  · cases m.get? k <;> simp [h]

theorem get?_eraseAll (m : KeyMap α) (keys : List String) (k : String) :
    (m.eraseAll keys).get? k = if k ∈ keys then none else m.get? k := by
  induction keys generalizing m with
  | nil => simp [eraseAll]
  | cons key rest ih =>
    rw [eraseAll, List.foldl_cons, ← eraseAll, ih, get?_erase]
    by_cases hk : k = key <;> by_cases hr : k ∈ rest <;> simp [hk, hr]

private theorem get?_insertAll_of_pairwise (m : KeyMap α) {l : List (String × α)}
    (hl : l.Pairwise fun a b => a.1 < b.1) (k : String) :
    (m.insertAll l).get? k = (l.lookup k).or (m.get? k) := by
  induction l generalizing m with
  | nil => rfl
  | cons e rest ih =>
    obtain ⟨he, hrest⟩ := List.pairwise_cons.1 hl
    rw [insertAll, List.foldl_cons, ← insertAll, ih _ hrest, get?_insert, List.lookup_cons]
    by_cases hk : k = e.1
    · have hnone : rest.lookup k = none := by
        refine List.lookup_eq_none_iff.2 fun d hd => bne_iff_ne.2 fun h => ?_
        exact String.lt_irrefl e.1 ((hk.symm.trans h) ▸ he d hd)
      rw [hnone]
      simp [hk]
    · simp [hk, beq_eq_false_iff_ne.2 hk]

/-- Inserting all entries of a map: where it has a value, that value wins. -/
theorem get?_insertAll (m n : KeyMap α) (k : String) :
    (m.insertAll n.entries).get? k = (n.get? k).or (m.get? k) :=
  get?_insertAll_of_pairwise m n.sorted k

/-- Inserting any entries: the last value of a key wins. -/
theorem get?_insertAll_eq_lookup (m : KeyMap α) (l : List (String × α)) (k : String) :
    (m.insertAll l).get? k = (l.reverse.lookup k).or (m.get? k) := by
  induction l generalizing m with
  | nil => rfl
  | cons e rest ih =>
    obtain ⟨key, value⟩ := e
    rw [insertAll, List.foldl_cons, ← insertAll, ih, get?_insert, List.reverse_cons,
      List.lookup_append, Option.or_assoc]
    congr 1
    by_cases hk : k = key
    · simp [hk]
    · simp [List.lookup_cons, hk, beq_eq_false_iff_ne.2 hk]

theorem get?_ofList (l : List (String × α)) (k : String) :
    (ofList l).get? k = l.reverse.lookup k := by
  rw [ofList, get?_insertAll_eq_lookup, get?_empty, Option.or_none]

theorem mem_of_get?_ofList {l : List (String × α)} {key : String} {value : α}
    (h : (ofList l).get? key = some value) : (key, value) ∈ l := by
  rw [get?_ofList] at h
  obtain ⟨later, earlier, hl, -⟩ := List.lookup_eq_some_iff.1 h
  have hmem : (key, value) ∈ l.reverse := by simp [hl]
  exact List.mem_reverse.1 hmem

theorem isSome_get?_ofList {l : List (String × α)} {e : String × α} (h : e ∈ l) :
    ((ofList l).get? e.1).isSome := by
  rw [get?_ofList, List.lookup_isSome_iff]
  exact ⟨e, List.mem_reverse.2 h, beq_self_eq_true e.1⟩

theorem lookup_reverse_entries (m : KeyMap α) (k : String) :
    m.entries.reverse.lookup k = m.get? k := by
  rw [← get?_ofList, ofList, get?_insertAll, get?_empty, Option.or_none]

theorem mem_keys {m : KeyMap α} {key : String} : key ∈ m.keys ↔ m.contains key := by
  rw [contains, Option.isSome_iff_exists, keys, List.mem_map]
  constructor
  · rintro ⟨⟨key, value⟩, h, rfl⟩
    exact ⟨value, get?_of_mem_entries h⟩
  · rintro ⟨value, h⟩
    exact ⟨_, mem_entries_of_get? h, rfl⟩

/-- Maps that answer every question alike are equal. -/
theorem ext_get? {m n : KeyMap α} (h : ∀ key, m.get? key = n.get? key) : m = n := by
  have distinct (m : KeyMap α) : m.entries.Nodup := by
    refine m.sorted.imp fun {a b} hab hne => ?_
    exact String.lt_irrefl b.1 (hne ▸ hab)
  have same (e : String × α) : e ∈ m.entries ↔ e ∈ n.entries := by
    obtain ⟨key, value⟩ := e
    rw [← get?_eq_some_iff, ← get?_eq_some_iff, h]
  have perm : m.entries.Perm n.entries :=
    (List.perm_ext_iff_of_nodup (distinct m) (distinct n)).2 same
  have entries : m.entries = n.entries :=
    perm.eq_of_pairwise (fun a b _ _ hab hba => (String.lt_asymm hab hba).elim) m.sorted n.sorted
  cases m
  cases n
  simpa using entries

end KeyMap
end Corkboard
