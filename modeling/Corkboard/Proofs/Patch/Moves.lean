-- SUMMARY: Moving items of a list to given positions one after the other, and when all of them stay there.
import Mathlib.Data.List.Induction
import Mathlib.Data.List.Nodup
import Mathlib.Data.List.Perm.Basic

/-!
# Moves

A move takes an item out of a list and puts it back at a given position. The moves of a patch
are made in ascending order of their positions. A later move goes to a position behind all
earlier ones, so it disturbs an earlier item only if it takes something away in front of it.

The items here are distinct and carry no data; a patch moves templates by their ids.
-/

namespace Corkboard.Patch

variable {α : Type} [DecidableEq α]

/-! ## One move -/

/-- The list with `x` at position `i`, or at the end if the list is too short for that. -/
def place (l : List α) (i : Nat) (x : α) : List α :=
  (l.erase x).take i ++ x :: (l.erase x).drop i

theorem place_perm_cons (l : List α) (i : Nat) (x : α) : (place l i x).Perm (x :: l.erase x) := by
  refine List.perm_middle.trans (List.Perm.cons x ?_)
  rw [List.take_append_drop]

theorem place_perm {l : List α} {x : α} (i : Nat) (hx : x ∈ l) : (place l i x).Perm l :=
  (place_perm_cons l i x).trans (List.perm_cons_erase hx).symm

theorem nodup_place {l : List α} (i : Nat) (x : α) (hl : l.Nodup) : (place l i x).Nodup :=
  (place_perm_cons l i x).nodup_iff.2 (List.nodup_cons.2 ⟨hl.not_mem_erase, hl.erase x⟩)

theorem getElem?_place_self {l : List α} {i : Nat} {x : α} (hx : x ∈ l) (hi : i < l.length) :
    (place l i x)[i]? = some x := by
  have hlen : ((l.erase x).take i).length = i := by
    rw [List.length_take, List.length_erase_of_mem hx]
    omega
  simp [place, hlen]

theorem take_erase_of_notMem {l : List α} {n : Nat} {x : α} (hx : x ∉ l.take n) :
    (l.erase x).take n = l.take n := by
  conv_lhs => rw [← List.take_append_drop n l, List.erase_append_right _ hx]
  by_cases hn : n ≤ l.length
  · rw [List.take_append_of_le_length (by simp [hn]), List.take_take, Nat.min_self]
  · simp [List.drop_eq_nil_of_le (Nat.le_of_not_le hn), List.take_take]

/-- Taking away one of the first `n` items draws the next one into them. -/
theorem take_erase_of_mem {l : List α} {n : Nat} {x : α} (hx : x ∈ l.take n) :
    (l.erase x).take n = (l.take (n + 1)).erase x := by
  induction l generalizing n with
  | nil => simp at hx
  | cons a rest ih =>
    cases n with
    | zero => simp at hx
    | succ n =>
      by_cases ha : a = x
      · simp [ha]
      · have hrest : x ∈ rest.take n := by simpa [Ne.symm ha] using hx
        simp [List.erase_cons_tail (beq_eq_false_iff_ne.2 ha ▸ Bool.false_ne_true), ih hrest]

theorem mem_take_erase {l : List α} {n : Nat} {x y : α} (hy : y ∈ l.take n) (hne : y ≠ x) :
    y ∈ (l.erase x).take n := by
  by_cases hx : x ∈ l.take n
  · rw [take_erase_of_mem hx, List.mem_erase_of_ne hne, List.take_add_one]
    exact List.mem_append_left _ hy
  · rw [take_erase_of_notMem hx]
    exact hy

omit [DecidableEq α] in
theorem notMem_take_of_getElem? {l : List α} {i : Nat} {y : α} (hl : l.Nodup)
    (hy : l[i]? = some y) : y ∉ l.take i := by
  intro hmem
  obtain ⟨hi, rfl⟩ := List.getElem?_eq_some_iff.1 hy
  obtain ⟨j, hj, heq⟩ := List.mem_take_iff_getElem.1 hmem
  have := (List.Nodup.getElem_inj_iff hl).1 heq
  omega

/-- In front of its position a move only takes away. -/
theorem take_place {l : List α} {i n : Nat} {x : α} (hx : x ∈ l) (hi : i < l.length)
    (hn : n ≤ i) : (place l i x).take n = (l.erase x).take n := by
  have hlen : ((l.erase x).take i).length = i := by
    rw [List.length_take, List.length_erase_of_mem hx]
    omega
  rw [place, List.take_append_of_le_length (by omega), List.take_take, Nat.min_eq_left hn]

/-- An item of the first `i + 1` stands at position `i` after a move to a later position
    exactly if it did so before, and the moved item does not come from in front of it. -/
theorem getElem?_place_iff {l : List α} {i j : Nat} {x y : α} (hl : l.Nodup) (hx : x ∈ l)
    (hj : j < l.length) (hij : i < j) (hne : y ≠ x) (hy : y ∈ l.take (i + 1)) :
    (place l j x)[i]? = some y ↔ l[i]? = some y ∧ x ∉ l.take i := by
  have hfront : ∀ {a : α}, a ∈ (l.erase x).take i → (place l j x)[i]? ≠ some a := by
    intro a ha hat
    refine notMem_take_of_getElem? (nodup_place j x hl) hat ?_
    rwa [take_place hx hj (Nat.le_of_lt hij)]
  constructor
  · intro hat
    have hyi : l[i]? = some y := by
      rw [List.take_add_one, List.mem_append] at hy
      rcases hy with hy | hy
      · exact (hfront (mem_take_erase hy hne) hat).elim
      · simpa using hy
    refine ⟨hyi, fun hxi => ?_⟩
    refine hfront ?_ hat
    rwa [take_erase_of_mem hxi, List.mem_erase_of_ne hne]
  · rintro ⟨hyi, hxi⟩
    have hx' : x ∉ l.take (i + 1) := by
      rw [List.take_add_one, List.mem_append, hyi]
      simpa [hxi] using hne.symm
    have htake : (place l j x).take (i + 1) = l.take (i + 1) := by
      rw [take_place hx hj hij, take_erase_of_notMem hx']
    rw [← List.getElem?_take_of_lt (Nat.lt_succ_self i), htake,
      List.getElem?_take_of_lt (Nat.lt_succ_self i), hyi]

theorem filter_place {l : List α} {x : α} (i : Nat) {keep : α → Bool} (hx : keep x = false) :
    (place l i x).filter keep = l.filter keep := by
  have herase : (l.erase x).filter keep = l.filter keep := by
    rw [← List.erase_filter, List.erase_of_not_mem (by simp [hx])]
  rw [place, List.filter_append, List.filter_cons_of_neg (by simp [hx]), ← List.filter_append,
    List.take_append_drop, herase]

/-- A move to the position where the item stands changes nothing. -/
theorem place_eq_self {l : List α} {i : Nat} {x : α} (hl : l.Nodup) (hx : l[i]? = some x) :
    place l i x = l := by
  obtain ⟨hi, rfl⟩ := List.getElem?_eq_some_iff.1 hx
  have hlen : (l.take i).length = i := by
    rw [List.length_take]
    omega
  have herase : l.erase l[i] = l.take i ++ l.drop (i + 1) := by
    rw [hl.erase_getElem i hi, List.eraseIdx_eq_take_drop_succ]
  rw [place, herase, List.take_left' hlen, List.drop_left' hlen, ← List.drop_eq_getElem_cons hi,
    List.take_append_drop]

/-! ## Moves one after the other -/

/-- Makes the moves in their order. -/
def placeAll (moves : List (Nat × α)) (l : List α) : List α :=
  moves.foldl (fun l m => place l m.1 m.2) l

@[simp] theorem placeAll_nil (l : List α) : placeAll [] l = l := rfl

@[simp] theorem placeAll_cons (m : Nat × α) (moves : List (Nat × α)) (l : List α) :
    placeAll (m :: moves) l = placeAll moves (place l m.1 m.2) := rfl

@[simp] theorem placeAll_append (moves moves' : List (Nat × α)) (l : List α) :
    placeAll (moves ++ moves') l = placeAll moves' (placeAll moves l) :=
  List.foldl_append

theorem placeAll_perm {moves : List (Nat × α)} {l : List α} (h : ∀ m ∈ moves, m.2 ∈ l) :
    (placeAll moves l).Perm l := by
  induction moves generalizing l with
  | nil => exact .refl l
  | cons m moves ih =>
    have hm : (place l m.1 m.2).Perm l := place_perm m.1 (h m (by simp))
    refine (ih fun m' hm' => ?_).trans hm
    exact hm.mem_iff.2 (h m' (by simp [hm']))

theorem filter_placeAll {moves : List (Nat × α)} {keep : α → Bool}
    (h : ∀ m ∈ moves, keep m.2 = false) (l : List α) :
    (placeAll moves l).filter keep = l.filter keep := by
  induction moves generalizing l with
  | nil => rfl
  | cons m moves ih =>
    rw [placeAll_cons, ih fun m' hm' => h m' (by simp [hm']), filter_place m.1 (h m (by simp))]

/-- If each item stands at its position already, nothing happens. -/
theorem placeAll_eq_self {moves : List (Nat × α)} {l : List α} (hl : l.Nodup)
    (h : ∀ m ∈ moves, l[m.1]? = some m.2) : placeAll moves l = l := by
  induction moves with
  | nil => rfl
  | cons m moves ih =>
    rw [placeAll_cons, place_eq_self hl (h m (by simp))]
    exact ih fun m' hm' => h m' (by simp [hm'])

/-- Moves of all items in the order of `items` bring the list into this order. -/
theorem placeAll_zipIdx (placed : List α) {l items : List α} (h : (placed ++ items).Nodup)
    (hl : l.Perm items) :
    placeAll ((items.zipIdx placed.length).map fun e => (e.2, e.1)) (placed ++ l) =
      placed ++ items := by
  induction items generalizing placed l with
  | nil => simp [hl.eq_nil]
  | cons x items ih =>
    have hx : x ∉ placed := fun hmem => (List.nodup_append.1 h).2.2 x hmem x (by simp) rfl
    have hmove : place (placed ++ l) placed.length x = (placed ++ [x]) ++ l.erase x := by
      simp [place, List.erase_append_right _ hx]
    have hrest : (l.erase x).Perm items := by
      simpa using hl.erase x
    have := ih (placed ++ [x]) (by simpa using h) hrest
    simpa [hmove] using this

/-- Moves in ascending order of their positions, each of another item of the list, and to a
    position of the list. -/
structure Orderly (moves : List (Nat × α)) (l : List α) : Prop where
  ascending : moves.Pairwise (·.1 < ·.1)
  distinct : (moves.map (·.2)).Nodup
  present : ∀ m ∈ moves, m.2 ∈ l
  bounded : ∀ m ∈ moves, m.1 < l.length

namespace Orderly

variable {moves moves' : List (Nat × α)} {l : List α}

omit [DecidableEq α] in
theorem of_append (h : Orderly (moves ++ moves') l) : Orderly moves l where
  ascending := (List.pairwise_append.1 h.ascending).1
  distinct := by
    have := h.distinct
    rw [List.map_append] at this
    exact this.of_append_left
  present m hm := h.present m (by simp [hm])
  bounded m hm := h.bounded m (by simp [hm])

theorem of_append_right (h : Orderly (moves ++ moves') l) : Orderly moves' (placeAll moves l) where
  ascending := (List.pairwise_append.1 h.ascending).2.1
  distinct := by
    have := h.distinct
    rw [List.map_append] at this
    exact this.of_append_right
  present m hm := (placeAll_perm h.of_append.present).mem_iff.2 (h.present m (by simp [hm]))
  bounded m hm := (placeAll_perm h.of_append.present).length_eq ▸ h.bounded m (by simp [hm])

theorem perm (h : Orderly moves l) : (placeAll moves l).Perm l := placeAll_perm h.present

section Last

variable {last : Nat × α} (h : Orderly (moves ++ [last]) l)
include h

theorem last_mem : last.2 ∈ placeAll moves l :=
  h.of_append.perm.mem_iff.2 (h.present last (by simp))

theorem last_lt : last.1 < (placeAll moves l).length :=
  h.of_append.perm.length_eq ▸ h.bounded last (by simp)

omit [DecidableEq α] in
theorem lt_last {m : Nat × α} (hm : m ∈ moves) : m.1 < last.1 :=
  (List.pairwise_append.1 h.ascending).2.2 m hm last (by simp)

omit [DecidableEq α] in
theorem ne_last {m : Nat × α} (hm : m ∈ moves) : m.2 ≠ last.2 := by
  have := h.distinct
  rw [List.map_append] at this
  exact (List.nodup_append.1 this).2.2 m.2 (List.mem_map_of_mem hm) last.2 (by simp)

end Last

/-- What stands among the first `n` items stays among them if it is not moved, and all moves go
    behind them. -/
theorem mem_take {n : Nat} {y : α} (h : Orderly moves l) (hn : ∀ m ∈ moves, n ≤ m.1)
    (hne : ∀ m ∈ moves, y ≠ m.2) (hy : y ∈ l.take n) : y ∈ (placeAll moves l).take n := by
  induction moves using List.reverseRecOn with
  | nil => exact hy
  | append_singleton moves last ih =>
    have hinit := ih h.of_append (fun m hm => hn m (by simp [hm])) fun m hm => hne m (by simp [hm])
    rw [placeAll_append, placeAll_cons, placeAll_nil,
      take_place h.last_mem h.last_lt (hn last (by simp))]
    exact mem_take_erase hinit (hne last (by simp))

/-- A moved item never stands behind its position again. -/
theorem mem_take_of_mem (h : Orderly moves l) {m : Nat × α} (hm : m ∈ moves) :
    m.2 ∈ (placeAll moves l).take (m.1 + 1) := by
  induction moves using List.reverseRecOn with
  | nil => simp at hm
  | append_singleton moves last ih =>
    rw [placeAll_append, placeAll_cons, placeAll_nil]
    rcases List.mem_append.1 hm with hm | hm
    · rw [take_place h.last_mem h.last_lt (h.lt_last hm)]
      exact mem_take_erase (ih h.of_append hm) (h.ne_last hm)
    · obtain rfl : m = last := by simpa using hm
      rw [List.take_add_one, getElem?_place_self h.last_mem h.last_lt]
      simp

end Orderly

/-! ## When all items stay where they were put

Up to position `i` there are `i + 1` positions. The moves up to position `i` fill some of them;
the other positions are filled by the first of the other items. If one of these is moved away
later, everything between it and its new position slips forward. -/

/-- The items that fill the positions up to `i` once the moves to these positions have been
    made: the first of those that have not been moved. -/
def fillers (moves : List (Nat × α)) (l : List α) (i : Nat) : List α :=
  let early := moves.filter (·.1 ≤ i)
  (l.filter (· ∉ early.map (·.2))).take (i + 1 - early.length)

/-- If all items of `placed` are among the first `n`, then the others of the first `n` are the
    first of all the others. -/
theorem filter_take_notMem {l placed : List α} {n : Nat} (hl : l.Nodup) (hp : placed.Nodup)
    (hsub : ∀ x ∈ placed, x ∈ l.take n) (hn : n ≤ l.length) :
    (l.take n).filter (· ∉ placed) = (l.filter (· ∉ placed)).take (n - placed.length) := by
  have hperm : ((l.take n).filter (· ∈ placed)).Perm placed := by
    refine (List.perm_ext_iff_of_nodup ((hl.sublist (List.take_sublist n l)).filter _) hp).2 ?_
    intro x
    simpa using hsub x
  have hlen : ((l.take n).filter (· ∉ placed)).length = n - placed.length := by
    have := List.length_eq_length_filter_add (l := l.take n) (· ∈ placed)
    rw [hperm.length_eq, List.length_take, Nat.min_eq_left hn] at this
    simp only [decide_not]
    omega
  conv_rhs => rw [← List.take_append_drop n l, List.filter_append]
  exact (List.take_left' hlen).symm

omit [DecidableEq α] in
theorem filter_append_filter {moves : List (Nat × α)} (h : moves.Pairwise (·.1 < ·.1)) (i : Nat) :
    moves.filter (·.1 ≤ i) ++ moves.filter (i < ·.1) = moves := by
  induction moves with
  | nil => rfl
  | cons m moves ih =>
    obtain ⟨hm, hmoves⟩ := List.pairwise_cons.1 h
    by_cases hi : m.1 ≤ i
    · simpa [hi] using ih hmoves
    · have hlate : ∀ m' ∈ moves, i < m'.1 := fun m' hm' => by
        have := hm m' hm'
        omega
      rw [List.filter_cons_of_neg (by simpa using hi), List.filter_cons_of_pos (by simpa using hi),
        List.filter_eq_nil_iff.2 (by simpa using hlate),
        List.filter_eq_self.2 (by simpa using hlate), List.nil_append]

namespace Orderly

variable {moves : List (Nat × α)} {l : List α}

/-- Before any later move is made, the fillers are what stands at the first positions without
    having been moved there. -/
theorem mem_fillers_iff (hl : l.Nodup) (h : Orderly moves l) {i : Nat} (hi : i < l.length) {x : α} :
    x ∈ fillers moves l i ↔
      x ∈ (placeAll (moves.filter (·.1 ≤ i)) l).take (i + 1) ∧
        x ∉ (moves.filter (·.1 ≤ i)).map (·.2) := by
  rw [← filter_append_filter h.ascending i] at h
  have hearly := h.of_append
  have hbound : ∀ m ∈ moves.filter (·.1 ≤ i), m.1 ≤ i := by simp
  simp only [fillers]
  generalize moves.filter (·.1 ≤ i) = early at hearly hbound
  have hmoved : ∀ y ∈ early.map (·.2), y ∈ (placeAll early l).take (i + 1) := by
    intro y hy
    obtain ⟨m, hm, rfl⟩ := List.mem_map.1 hy
    exact List.take_subset_take_left _ (by have := hbound m hm; omega) (hearly.mem_take_of_mem hm)
  have hothers : (placeAll early l).filter (· ∉ early.map (·.2)) =
      l.filter (· ∉ early.map (·.2)) :=
    filter_placeAll (fun m hm => by simpa using ⟨m.1, hm⟩) l
  have hfill := filter_take_notMem (hearly.perm.nodup_iff.2 hl) hearly.distinct hmoved
    (by rw [hearly.perm.length_eq]; omega)
  rw [hothers, List.length_map] at hfill
  rw [← hfill, List.mem_filter]
  simp

/-- Going on with the moves leaves an item that is not moved among the first `i + 1`. -/
theorem mem_take_of_mem_early (h : Orderly moves l) {i : Nat} {x : α}
    (hne : ∀ m ∈ moves, i < m.1 → x ≠ m.2)
    (hx : x ∈ (placeAll (moves.filter (·.1 ≤ i)) l).take (i + 1)) :
    x ∈ (placeAll moves l).take (i + 1) := by
  have hsplit := filter_append_filter h.ascending i
  rw [← hsplit] at h
  rw [← hsplit, placeAll_append]
  refine h.of_append_right.mem_take ?_ ?_ hx
  · intro m hm
    have : i < m.1 := by simpa using (List.mem_filter.1 hm).2
    exact this
  · intro m hm
    obtain ⟨hm, hlate⟩ := List.mem_filter.1 hm
    exact hne m hm (by simpa using hlate)

theorem fillers_append_last {last : Nat × α} (h : Orderly (moves ++ [last]) l) {m : Nat × α}
    (hm : m ∈ moves) : fillers (moves ++ [last]) l m.1 = fillers moves l m.1 := by
  have hlate : [last].filter (·.1 ≤ m.1) = [] := by simpa using h.lt_last hm
  simp only [fillers, List.filter_append, hlate, List.append_nil]

omit [DecidableEq α] in
theorem filter_le_last {last : Nat × α} (h : Orderly (moves ++ [last]) l) :
    (moves ++ [last]).filter (·.1 ≤ last.1) = moves ++ [last] := by
  refine List.filter_eq_self.2 fun m hm => decide_eq_true ?_
  rcases List.mem_append.1 hm with hm | hm
  · exact Nat.le_of_lt (h.lt_last hm)
  · obtain rfl : m = last := by simpa using hm
    exact Nat.le_refl _

theorem notMem_of_mem_fillers_last {last : Nat × α} (h : Orderly (moves ++ [last]) l) {x : α}
    (hx : x ∈ fillers (moves ++ [last]) l last.1) : x ∉ (moves ++ [last]).map (·.2) := by
  simp only [fillers, h.filter_le_last] at hx
  simpa using (List.mem_filter.1 (List.mem_of_mem_take hx)).2

/-- The last item comes from behind all earlier ones exactly if it filled no position in front
    of one of them. -/
theorem last_notMem_fillers_iff {last : Nat × α} (hl : l.Nodup) (h : Orderly (moves ++ [last]) l)
    (hset : ∀ m ∈ moves, (placeAll moves l)[m.1]? = some m.2) :
    (∀ m ∈ moves, last.2 ∉ fillers moves l m.1) ↔
      ∀ m ∈ moves, last.2 ∉ (placeAll moves l).take m.1 := by
  have hinit := h.of_append
  constructor
  · intro hfill m hm
    -- Everything is decided at the last position so far: all moves up to it have been made.
    obtain rfl | ⟨init, top, rfl⟩ := moves.eq_nil_or_concat'
    · simp at hm
    have htop := hfill top (by simp)
    rw [hinit.mem_fillers_iff hl (hinit.bounded top (by simp)), hinit.filter_le_last] at htop
    have hnew : last.2 ∉ (init ++ [top]).map (·.2) := fun hmem => by
      obtain ⟨m', hm', heq⟩ := List.mem_map.1 hmem
      exact h.ne_last hm' heq
    have hle : m.1 ≤ top.1 := by
      rw [← hinit.filter_le_last] at hm
      simpa using (List.mem_filter.1 hm).2
    exact fun hmem => htop ⟨List.take_subset_take_left _ (by omega) hmem, hnew⟩
  · intro hfront m hm hmem
    rw [hinit.mem_fillers_iff hl (hinit.bounded m hm)] at hmem
    have htake := hinit.mem_take_of_mem_early (fun m' hm' _ => (h.ne_last hm').symm) hmem.1
    rw [List.take_add_one, hset m hm, List.mem_append] at htake
    rcases htake with htake | htake
    · exact hfront m hm htake
    · exact h.ne_last hm (by simpa using htake : last.2 = m.2).symm

/-- All moved items stand at their positions in the end exactly if none of them ever filled a
    position on its way. -/
theorem settled_iff (hl : l.Nodup) (h : Orderly moves l) :
    (∀ m ∈ moves, (placeAll moves l)[m.1]? = some m.2) ↔
      ∀ m ∈ moves, ∀ x ∈ fillers moves l m.1, x ∉ moves.map (·.2) := by
  induction moves using List.reverseRecOn with
  | nil => simp
  | append_singleton moves last ih =>
    have hinit := h.of_append
    have hstep {m : Nat × α} (hm : m ∈ moves) := getElem?_place_iff (hinit.perm.nodup_iff.2 hl)
      h.last_mem h.last_lt (h.lt_last hm) (h.ne_last hm) (hinit.mem_take_of_mem hm)
    rw [placeAll_append, placeAll_cons, placeAll_nil]
    constructor
    · intro hset m hm x hx
      have hstay : ∀ m ∈ moves, _ := fun m hm => (hstep hm).1 (hset m (by simp [hm]))
      have hlast := (last_notMem_fillers_iff hl h fun m hm => (hstay m hm).1).2
        fun m hm => (hstay m hm).2
      rcases List.mem_append.1 hm with hm | hm
      · rw [h.fillers_append_last hm] at hx
        rw [List.map_append, List.mem_append]
        rintro (hmem | hmem)
        · exact (ih hinit).1 (fun m hm => (hstay m hm).1) m hm x hx hmem
        · obtain rfl : x = last.2 := by simpa using hmem
          exact hlast m hm hx
      · obtain rfl : m = last := by simpa using hm
        exact h.notMem_of_mem_fillers_last hx
    · intro hfill m hm
      have hfill' {m : Nat × α} (hm : m ∈ moves) {x : α} (hx : x ∈ fillers moves l m.1) :
          x ∉ (moves ++ [last]).map (·.2) :=
        hfill m (by simp [hm]) x (by rwa [h.fillers_append_last hm])
      have hset := (ih hinit).2 fun m hm x hx hmem => hfill' hm hx <| by
        rw [List.map_append]
        exact List.mem_append_left _ hmem
      have hfront := (last_notMem_fillers_iff hl h hset).1 fun m hm hx => hfill' hm hx (by simp)
      rcases List.mem_append.1 hm with hm | hm
      · exact (hstep hm).2 ⟨hset m hm, hfront m hm⟩
      · obtain rfl : m = last := by simpa using hm
        exact getElem?_place_self h.last_mem h.last_lt

end Orderly

end Corkboard.Patch
