-- SUMMARY: Clauses on one property that ask for different values: when a new card meets a filter all the same.
import Corkboard.Proofs.Filter.Suggestion

/-!
# Clauses that overrule each other

Of several clauses on one property the last one decides what a new card stores. A clause that is
content with any choice is met by every stored text, but it does not leave the value alone that an
earlier clause has asked for: it puts the first choice in its place. The new card misses the
filter in this case, and only in this case.
-/

namespace Corkboard.Filter

open Property (Choice Kind Template Value)

/-! ## What a clause asks for -/

/-- The clause asks a new card for `value`. It does so by name, or it is content with any choice
    and `value` is the first one. The card can store the value for the property, and the stored
    value is what the clause is compared with. -/
inductive Clause.AsksFor (templates : List Template) : Clause → String → Prop
  | named {id value : String} {others : List String} {t : Template}
      (found : Template.find? templates id = some t) (notTitle : id ≠ titleId)
      (stored : t.kind ∉ [.card, .createdBy, .updatedBy]) (filled : value ≠ "") :
      AsksFor templates ⟨id, .includes, value :: others⟩ value
  | any {id : String} {values : List String} {t : Template} {choice : Choice}
      {others : List Choice} (found : Template.find? templates id = some t)
      (notTitle : id ≠ titleId) (select : t.kind = .select) (choices : t.choices = choice :: others)
      (filled : choice.id ≠ "") :
      AsksFor templates ⟨id, .isNotEmpty, values⟩ choice.id

/-- The later clause asks for a value of the same property, and the earlier one, which asks by
    name, does not name this value. -/
def Clause.Overrules (templates : List Template) (later earlier : Clause) : Prop :=
  earlier.condition = .includes ∧ later.propertyId = earlier.propertyId ∧
    ∃ value, later.AsksFor templates value ∧ value ∉ earlier.values

namespace Clause

variable {c d : Clause} {templates : List Template} {value value' : String}

theorem AsksFor.gives (h : c.AsksFor templates value) : c.Gives templates value := by
  cases h with
  | @named id value others t found notTitle stored filled =>
    refine ⟨?_, filled⟩
    -- The two facts on who made and changed the card rule out the branches that suggest nothing.
    simp only [List.mem_cons, List.not_mem_nil, or_false, not_or] at stored
    obtain ⟨-, hcreatedBy, hupdatedBy⟩ := stored
    simp [suggestion?, found]
  | @any id values t choice others found notTitle select choices filled =>
    refine ⟨?_, filled⟩
    simp [suggestion?, found, select, choices]

theorem AsksFor.comparesStored (h : c.AsksFor templates value) : c.ComparesStored templates := by
  cases h with
  | named found notTitle stored filled =>
    refine ⟨notTitle, ?_⟩
    simp only [List.mem_cons, not_or] at stored
    simpa [kind?, found] using stored.1
  | any found notTitle select choices filled =>
    exact ⟨notTitle, by simp [kind?, found, select]⟩

theorem AsksFor.condition (h : c.AsksFor templates value) :
    c.condition = .includes ∧ c.values ≠ [] ∨ c.condition = .isNotEmpty := by
  cases h with
  | named => exact .inl ⟨rfl, List.cons_ne_nil _ _⟩
  | any => exact .inr rfl

/-- Any two clauses that are content with any choice of a property ask for the same one. -/
theorem AsksFor.eq_of_any (hc : c.AsksFor templates value) (hd : d.AsksFor templates value')
    (hid : d.propertyId = c.propertyId) (hcany : c.condition ≠ .includes)
    (hdany : d.condition ≠ .includes) : value = value' := by
  cases hc with
  | named => exact absurd rfl hcany
  | any found _ _ choices _ =>
    cases hd with
    | named => exact absurd rfl hdany
    | any found' _ _ choices' _ =>
      dsimp only at hid
      subst hid
      obtain rfl := Option.some.inj (found.symm.trans found')
      obtain ⟨rfl, -⟩ := List.cons.inj (choices.symm.trans choices')
      rfl

end Clause

/-! ## The suggestions of several clauses -/

namespace Group

variable {templates : List Template}

/-- The filter that needs all of the clauses. -/
def flat (clauses : List Clause) : Group := ⟨.and, clauses.map .clause⟩

@[simp] theorem suggestible_flat (clauses : List Clause) : (flat clauses).suggestible = clauses :=
  clauses_map_clause .and clauses

theorem isMet_flat (clauses : List Clause) (templates : List Template) (card : Card) :
    (flat clauses).isMet templates card = clauses.all (·.isMet templates card) := by
  rw [isMet, toNode, flat, Node.isMet_and, List.all_map]
  rfl

/-- What later clauses suggest goes before what earlier ones suggest. -/
theorem get?_suggestions_flat_append (earlier later : List Clause) (propertyId : String) :
    ((flat (earlier ++ later)).suggestions templates).get? propertyId =
      (((flat later).suggestions templates).get? propertyId).or
        (((flat earlier).suggestions templates).get? propertyId) := by
  simp only [suggestions, suggestible_flat, KeyMap.get?_ofList, List.filterMap_append,
    List.reverse_append, List.lookup_append]

/-- The value of a clause is suggested unless a later clause suggests another. -/
theorem get?_suggestions_flat_split {c : Clause} {value : String}
    (hgives : c.Gives templates value) (earlier later : List Clause) :
    ((flat (earlier ++ c :: later)).suggestions templates).get? c.propertyId =
      some ((((flat later).suggestions templates).get? c.propertyId).getD value) := by
  have hown : ((flat [c]).suggestions templates).get? c.propertyId = some value := by
    apply suggestions_eq_of_gives
    · simp
    · intro d hd _
      simpa using hd
    · exact hgives
  rw [List.append_cons, get?_suggestions_flat_append, get?_suggestions_flat_append, hown,
    Option.some_or]
  cases ((flat later).suggestions templates).get? c.propertyId with
  | none => rfl
  | some value => rfl

end Group

/-! ## The new card -/

/-- A relation holds along a list if it holds between each item and all items behind it. -/
theorem pairwise_iff_forall_split {α : Type} {R : α → α → Prop} {l : List α} :
    l.Pairwise R ↔ ∀ earlier a later, l = earlier ++ a :: later → ∀ b ∈ later, R a b := by
  constructor
  · rintro h earlier a later rfl
    exact (List.pairwise_cons.1 (List.pairwise_append.1 h).2.1).1
  · intro h
    refine List.pairwise_iff_forall_sublist.2 fun {a b} hab => ?_
    obtain ⟨front, back, rfl, ha, hb⟩ := List.cons_sublist_iff.1 hab
    obtain ⟨earlier, later, rfl⟩ := List.append_of_mem ha
    refine h earlier a (later ++ back) (by simp) b ?_
    exact List.mem_append_right later (List.singleton_sublist.1 hb)

/-- Where each property is asked for by name at most once, nothing behind the clause that does so
    asks for the property by name again. -/
theorem not_includes_of_later {earlier later : List Clause} {c d : Clause}
    (hdistinct : (((earlier ++ c :: later).filter (·.condition = .includes)).map
      (·.propertyId)).Nodup)
    (hc : c.condition = .includes) (hd : d ∈ later) (hid : d.propertyId = c.propertyId) :
    d.condition ≠ .includes := by
  intro hincludes
  rw [List.filter_append, List.filter_cons_of_pos (by simpa using hc), List.map_append,
    List.map_cons] at hdistinct
  have hnot := (List.nodup_cons.1 (List.nodup_append.1 hdistinct).2.1).1
  exact hnot (List.mem_map.2 ⟨d, List.mem_filter.2 ⟨hd, by simpa using hincludes⟩, hid⟩)

/-- One clause of a filter is met by the new card exactly if no later clause overrules it. -/
theorem isMet_suggestedCard_iff_of_split {board : Board} {earlier later : List Clause} {c : Clause}
    (id title : String) (now : Int64)
    (hasks : ∀ d ∈ earlier ++ c :: later, ∃ value, d.AsksFor board.templates value)
    (hdistinct : (((earlier ++ c :: later).filter (·.condition = .includes)).map
      (·.propertyId)).Nodup) :
    c.isMet board.templates
        (suggestedCard board (some (Group.flat (earlier ++ c :: later))) id title now) ↔
      ∀ d ∈ later, ¬ d.Overrules board.templates c := by
  obtain ⟨own, hown⟩ := hasks c (by simp)
  have hstored : (suggestedCard board (some (Group.flat (earlier ++ c :: later))) id title
      now).property? c.propertyId = some (.text ((((Group.flat later).suggestions
        board.templates).get? c.propertyId).getD own)) := by
    rw [property?_suggestedCard, Group.get?_suggestions_flat_split hown.gives, Option.map_some]
  cases hlatest : ((Group.flat later).suggestions board.templates).get? c.propertyId with
  | none =>
    -- No later clause asks for this property, so the card stores what the clause asks for.
    rw [hlatest, Option.getD_none] at hstored
    refine iff_of_true (c.isMet_of_gives hown.gives hown.comparesStored hstored) ?_
    rintro d hd ⟨-, hid, value, hvalue, -⟩
    have hsome := Group.isSome_suggestions (g := Group.flat later) (by simpa using hd) hvalue.gives
    rw [hid, hlatest] at hsome
    exact Bool.false_ne_true hsome
  | some latest =>
    rw [hlatest, Option.getD_some] at hstored
    obtain ⟨d, hd, hid, hgives⟩ := Group.gives_of_suggestions hlatest
    rw [Group.suggestible_flat] at hd
    obtain ⟨value, hvalue⟩ := hasks d (by simp [hd])
    obtain rfl : value = latest := Option.some.inj (hvalue.gives.1.symm.trans hgives.1)
    -- The card stores the value of a later clause. Only a clause that asks by name can mind.
    rcases hown.condition with ⟨hincludes, hvalues⟩ | hany
    · rw [c.isMet_iff_mem_values hincludes hvalues hown.comparesStored hstored hgives.2]
      constructor
      · rintro hmem d' hd' ⟨-, hid', value', hvalue', hnot⟩
        have hsame : value = value' := hvalue.eq_of_any hvalue' (hid'.trans hid.symm)
          (not_includes_of_later hdistinct hincludes hd hid)
          (not_includes_of_later hdistinct hincludes hd' hid')
        exact hnot (hsame ▸ hmem)
      · intro hfree
        by_contra hnot
        exact hfree d hd ⟨hincludes, hid, value, hvalue, hnot⟩
    · refine iff_of_true (c.isMet_of_isNotEmpty hany hown.comparesStored hstored hgives.2) ?_
      rintro d' - ⟨hincludes, -⟩
      rw [hany] at hincludes
      cases hincludes

/-- A new card meets a filter of clauses that ask for values, at most one of them by name for each
    property, exactly if no clause overrules an earlier one. -/
theorem suggestedCard_isMet_iff_not_overruled (board : Board) (clauses : List Clause)
    (id title : String) (now : Int64)
    (hasks : ∀ c ∈ clauses, ∃ value, c.AsksFor board.templates value)
    (hdistinct : ((clauses.filter (·.condition = .includes)).map (·.propertyId)).Nodup) :
    (Group.flat clauses).isMet board.templates
        (suggestedCard board (some (Group.flat clauses)) id title now) ↔
      clauses.Pairwise fun earlier later => ¬ later.Overrules board.templates earlier := by
  rw [Group.isMet_flat, List.all_eq_true, pairwise_iff_forall_split]
  constructor
  · rintro hmet earlier c later rfl
    exact (isMet_suggestedCard_iff_of_split id title now hasks hdistinct).1 (hmet c (by simp))
  · intro hfree c hc
    obtain ⟨earlier, later, rfl⟩ := List.append_of_mem hc
    exact (isMet_suggestedCard_iff_of_split id title now hasks hdistinct).2 (hfree _ _ _ rfl)

/-- The same property is asked for by name, and twice by a clause that is content with any choice.
    The last of these puts the first choice in place, but that choice is also named. -/
theorem suggestedCard_isMet_named_choice :
    let status : Template :=
      ⟨"status", "Status", .select, [⟨"todo", "To do", ""⟩, ⟨"done", "Done", ""⟩], none⟩
    let owner : Template := ⟨"owner", "Owner", .person, [], none⟩
    let board := Board.new "b" "Board" 0 [status, owner]
    let clauses : List Clause :=
      [⟨"status", .isNotEmpty, []⟩, ⟨"status", .includes, ["done", "todo"]⟩,
        ⟨"owner", .includes, ["alice"]⟩, ⟨"status", .isNotEmpty, []⟩]
    (∀ c ∈ clauses, ∃ value, c.AsksFor board.templates value) ∧
      ((clauses.filter (·.condition = .includes)).map (·.propertyId)).Nodup ∧
      (clauses.Pairwise fun earlier later => ¬ later.Overrules board.templates earlier) ∧
      (Group.flat clauses).isMet board.templates
        (suggestedCard board (some (Group.flat clauses)) "c" "Card" 7) := by
  intro status owner board clauses
  have hany : Clause.AsksFor board.templates ⟨"status", .isNotEmpty, []⟩ "todo" :=
    .any (t := status) rfl (by decide) rfl rfl (by decide)
  have hnamed : Clause.AsksFor board.templates ⟨"status", .includes, ["done", "todo"]⟩ "done" :=
    .named (t := status) rfl (by decide) (by decide) (by decide)
  have howner : Clause.AsksFor board.templates ⟨"owner", .includes, ["alice"]⟩ "alice" :=
    .named (t := owner) rfl (by decide) (by decide) (by decide)
  have hasks : ∀ c ∈ clauses, ∃ value, c.AsksFor board.templates value := by
    simp only [clauses, List.forall_mem_cons]
    exact ⟨⟨_, hany⟩, ⟨_, hnamed⟩, ⟨_, howner⟩, ⟨_, hany⟩, List.forall_mem_nil _⟩
  have hdistinct : ((clauses.filter (·.condition = .includes)).map (·.propertyId)).Nodup := by
    decide
  have hiff := suggestedCard_isMet_iff_not_overruled board clauses "c" "Card" 7 hasks hdistinct
  have hmet : (Group.flat clauses).isMet board.templates
      (suggestedCard board (some (Group.flat clauses)) "c" "Card" 7) := by decide
  exact ⟨hasks, hdistinct, hiff.1 hmet, hmet⟩

/-- Here the first choice is not named, and it takes the place of the value that is. -/
theorem suggestedCard_misses_named_value :
    let status : Template :=
      ⟨"status", "Status", .select, [⟨"todo", "To do", ""⟩, ⟨"done", "Done", ""⟩], none⟩
    let board := Board.new "b" "Board" 0 [status]
    let clauses : List Clause :=
      [⟨"status", .includes, ["done"]⟩, ⟨"status", .isNotEmpty, []⟩]
    (∀ c ∈ clauses, ∃ value, c.AsksFor board.templates value) ∧
      ((clauses.filter (·.condition = .includes)).map (·.propertyId)).Nodup ∧
      (Group.flat clauses).isMet board.templates
        (suggestedCard board (some (Group.flat clauses)) "c" "Card" 7) = false := by
  intro status board clauses
  have hasks : ∀ c ∈ clauses, ∃ value, c.AsksFor board.templates value := by
    simp only [clauses, List.forall_mem_cons]
    refine ⟨⟨"done", .named (t := status) rfl (by decide) (by decide) (by decide)⟩,
      ⟨"todo", .any (t := status) rfl (by decide) rfl rfl (by decide)⟩, List.forall_mem_nil _⟩
  exact ⟨hasks, by decide, by decide⟩

end Corkboard.Filter
