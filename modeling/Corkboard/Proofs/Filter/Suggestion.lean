-- SUMMARY: A card that is made from the suggestions of a filter meets the filter.
import Mathlib.Data.List.Nodup
import Corkboard.Filter.Suggestion

/-!
# Suggested cards

The suggestions are collected by property, without a look at the card. The verdict looks at the
card, and at values that stand in for missing ones. The two meet in the stored value: what is
suggested for a clause is stored as a text, and a stored text is what the clause is compared with,
unless the clause is about the title or about links.
-/

namespace Corkboard.Filter

open Property (Choice Kind Template Value)

/-! ## One clause -/

/-- A text in store is the comparand as it is, except where links are read from it. -/
theorem Comparand.ofCard_of_stored {propertyId value : String} {kind : Option Kind} {card : Card}
    (hid : propertyId ≠ titleId) (hkind : kind ≠ some .card)
    (hstored : card.property? propertyId = some (.text value)) (hvalue : value ≠ "") :
    (ofCard propertyId kind card).value = some (.text value) ∧
      (ofCard propertyId kind card).links = none := by
  have hset := valueOf_of_isSet (isSet_text_iff.2 hvalue) kind card
  simp [ofCard, storedValue, linksOf, hid, hkind, hstored, hset]

namespace Clause

/-- The clause needs a value to compare with and has none. -/
def Idle (c : Clause) : Prop := c.values = [] ∧ c.condition.isPresenceCheck = false

/-- The value that a new card is given for the clause. -/
def Gives (c : Clause) (templates : List Template) (value : String) : Prop :=
  c.suggestion? templates = some value ∧ value ≠ ""

/-- The clause is compared with the value that is stored for its property. -/
def ComparesStored (c : Clause) (templates : List Template) : Prop :=
  c.propertyId ≠ titleId ∧ c.kind? templates ≠ some .card

instance (c : Clause) : Decidable c.Idle :=
  inferInstanceAs (Decidable (_ ∧ _))

instance (c : Clause) (templates : List Template) (value : String) :
    Decidable (c.Gives templates value) :=
  inferInstanceAs (Decidable (_ ∧ _))

instance (c : Clause) (templates : List Template) : Decidable (c.ComparesStored templates) :=
  inferInstanceAs (Decidable (_ ∧ _))

variable {c : Clause} {templates : List Template} {card : Card} {value : String}

theorem isMet_of_idle (h : c.Idle) : c.isMet templates card := by
  simp [isMet, h.1, h.2]

/-- A suggestion is the first value of the clause, or the first choice of its property. -/
theorem suggestion?_cases (h : c.suggestion? templates = some value) :
    ∃ t, Template.find? templates c.propertyId = some t ∧ t.kind ≠ .createdBy ∧
      t.kind ≠ .updatedBy ∧
      (c.condition = .includes ∧ c.values.head? = some value ∨
        c.condition = .isNotEmpty ∧ t.kind = .select ∧
          t.choices.head?.map (·.id) = some value) := by
  rw [suggestion?] at h
  cases ht : Template.find? templates c.propertyId with
  | none => simp [ht] at h
  | some t =>
    refine ⟨t, rfl, ?_⟩
    simp only [ht] at h
    split at h <;> simp_all

/-- A clause that asks by name is met if the text in store is one of its values. -/
theorem isMet_iff_mem_values (hcondition : c.condition = .includes) (hvalues : c.values ≠ [])
    (hcompares : c.ComparesStored templates)
    (hstored : card.property? c.propertyId = some (.text value)) (hvalue : value ≠ "") :
    c.isMet templates card ↔ value ∈ c.values := by
  obtain ⟨hid, hkind⟩ := hcompares
  obtain ⟨hcomparand, hlinks⟩ := Comparand.ofCard_of_stored hid hkind hstored hvalue
  simp [isMet, Comparand.meets, Comparand.includesAny, Value.includes, hcondition, hvalues,
    hcomparand, hlinks]

/-- A clause that is content with any choice is met by any text in store. -/
theorem isMet_of_isNotEmpty (hcondition : c.condition = .isNotEmpty)
    (hcompares : c.ComparesStored templates)
    (hstored : card.property? c.propertyId = some (.text value)) (hvalue : value ≠ "") :
    c.isMet templates card := by
  obtain ⟨hid, hkind⟩ := hcompares
  obtain ⟨hcomparand, hlinks⟩ := Comparand.ofCard_of_stored hid hkind hstored hvalue
  simpa [isMet, Condition.isPresenceCheck, Comparand.meets, Comparand.isEmpty, Value.isEmpty,
    Value.size, hcondition, hcomparand, hlinks] using hvalue

/-- A card with the given value in store meets the clause. -/
theorem isMet_of_gives (hgives : c.Gives templates value) (hcompares : c.ComparesStored templates)
    (hstored : card.property? c.propertyId = some (.text value)) : c.isMet templates card := by
  obtain ⟨hsuggested, hvalue⟩ := hgives
  obtain ⟨t, -, -, -, hfirst⟩ := suggestion?_cases hsuggested
  rcases hfirst with ⟨hcondition, hhead⟩ | ⟨hcondition, -, -⟩
  · have hmem : value ∈ c.values := List.mem_of_head? hhead
    have hvalues : c.values ≠ [] := List.ne_nil_of_mem hmem
    exact (isMet_iff_mem_values hcondition hvalues hcompares hstored hvalue).2 hmem
  · exact isMet_of_isNotEmpty hcondition hcompares hstored hvalue

end Clause

/-! ## The new card -/

/-- Storing one text after the other: the last one for a property wins. -/
theorem property?_foldl_setProperty (entries : List (String × String)) (card : Card)
    (propertyId : String) :
    (entries.foldl (fun card e => card.setProperty e.1 (.text e.2)) card).property? propertyId =
      ((entries.reverse.lookup propertyId).map .text).or (card.property? propertyId) := by
  induction entries generalizing card with
  | nil => rfl
  | cons e rest ih =>
    obtain ⟨key, value⟩ := e
    rw [List.foldl_cons, ih, Card.property?_setProperty, List.reverse_cons, List.lookup_append]
    by_cases hkey : propertyId = key
    · cases rest.reverse.lookup propertyId <;> simp [hkey]
    · simp [List.lookup_cons, hkey, beq_eq_false_iff_ne.2 hkey]

/-- What a new card stores is what the filter suggests. -/
theorem property?_suggestedCard (board : Board) (g : Group) (id title : String) (now : Int64)
    (propertyId : String) :
    (suggestedCard board (some g) id title now).property? propertyId =
      ((g.suggestions board.templates).get? propertyId).map .text := by
  rw [suggestedCard, property?_foldl_setProperty, Option.map_some, Option.getD_some,
    KeyMap.lookup_reverse_entries]
  exact Option.or_none

namespace Group

variable {g : Group} {templates : List Template} {propertyId value : String}

private theorem mem_given_iff {clauses : List Clause} :
    (propertyId, value) ∈ clauses.filterMap (fun c =>
        ((c.suggestion? templates).filter (!·.isEmpty)).map (c.propertyId, ·)) ↔
      ∃ c ∈ clauses, c.propertyId = propertyId ∧ c.Gives templates value := by
  simp only [List.mem_filterMap, Option.map_eq_some_iff, Option.filter_eq_some_iff, Prod.mk.injEq,
    Bool.not_eq_true', String.isEmpty_eq_false_iff]
  constructor
  · rintro ⟨c, hc, value', ⟨hgives, hvalue⟩, hid, rfl⟩
    exact ⟨c, hc, hid, hgives, hvalue⟩
  · rintro ⟨c, hc, hid, hgives, hvalue⟩
    exact ⟨c, hc, value, ⟨hgives, hvalue⟩, hid, rfl⟩

/-- Every suggestion comes from a clause. -/
theorem gives_of_suggestions (h : (g.suggestions templates).get? propertyId = some value) :
    ∃ c ∈ g.suggestible, c.propertyId = propertyId ∧ c.Gives templates value :=
  mem_given_iff.1 (KeyMap.mem_of_get?_ofList h)

/-- Where a clause gives a value there is a suggestion, if not always this value. -/
theorem isSome_suggestions {c : Clause} (hc : c ∈ g.suggestible) (hgives : c.Gives templates value) :
    ((g.suggestions templates).get? c.propertyId).isSome :=
  KeyMap.isSome_get?_ofList (mem_given_iff.2 ⟨c, hc, rfl, hgives⟩)

/-- A clause that alone gives a value for its property has this value suggested. -/
theorem suggestions_eq_of_gives {c : Clause} (hc : c ∈ g.suggestible)
    (halone : ∀ d ∈ g.suggestible, d.propertyId = c.propertyId → d = c)
    (hgives : c.Gives templates value) :
    (g.suggestions templates).get? c.propertyId = some value := by
  obtain ⟨value', hsuggested⟩ := Option.isSome_iff_exists.1 (isSome_suggestions hc hgives)
  obtain ⟨d, hd, hid, hgives', -⟩ := gives_of_suggestions hsuggested
  obtain rfl := halone d hd hid
  have hsame : value' = value := Option.some.inj (hgives'.symm.trans hgives.1)
  rw [hsuggested, hsame]

end Group

/-! ## Filters that a new card can serve -/

/-- The filter tells enough for a new card. With `and`, each part is a clause on a property of
    its own that gives a value or needs none. With `or`, the first clause gives a value. -/
inductive Group.Served (templates : List Template) : Group → Prop
  | all {clauses : List Clause} (distinct : (clauses.map (·.propertyId)).Nodup)
      (each : ∀ c ∈ clauses, c.Idle ∨ ∃ value, c.Gives templates value) :
      Served templates ⟨.and, clauses.map .clause⟩
  | first {nodes : List Node} {c : Clause} {value : String}
      (head : (Group.mk .or nodes).clauses.head? = some c) (gives : c.Gives templates value) :
      Served templates ⟨.or, nodes⟩

@[simp] theorem Group.clauses_map_clause (operation : Operation) (clauses : List Clause) :
    (Group.mk operation (clauses.map .clause)).clauses = clauses := by
  simp [Group.clauses, List.filterMap_map, Function.comp_def, Node.asClause?]

/-- A clause that stands directly in the group is one of its nodes. -/
theorem Group.clause_mem_nodes {g : Group} {c : Clause} (h : c ∈ g.clauses) :
    Node.clause c ∈ g.nodes := by
  obtain ⟨node, hnode, hc⟩ := List.mem_filterMap.1 h
  cases node with
  | clause d => simpa [Node.asClause?] using (Option.some.inj hc) ▸ hnode
  | group => simp [Node.asClause?] at hc

/-- The new card meets each suggestible clause that gives a value, if no other one shares its
    property. -/
theorem isMet_suggestedCard_of_gives {board : Board} {g : Group} {c : Clause} {value : String}
    (id title : String) (now : Int64) (hc : c ∈ g.suggestible)
    (halone : ∀ d ∈ g.suggestible, d.propertyId = c.propertyId → d = c)
    (hgives : c.Gives board.templates value) (hcompares : c.ComparesStored board.templates) :
    c.isMet board.templates (suggestedCard board (some g) id title now) := by
  refine c.isMet_of_gives hgives hcompares ?_
  rw [property?_suggestedCard, Group.suggestions_eq_of_gives hc halone hgives, Option.map_some]

/-- A new card meets the filter it was made for, if the filter tells enough and no clause that
    gives a value is about the title or about links. -/
theorem suggestedCard_isMet (board : Board) (g : Group) (id title : String) (now : Int64)
    (hserved : g.Served board.templates)
    (hcompares : ∀ c ∈ g.suggestible, ∀ value, c.Gives board.templates value →
      c.ComparesStored board.templates) :
    g.isMet board.templates (suggestedCard board (some g) id title now) := by
  cases hserved with
  | @all clauses distinct each =>
    have hall : (Group.mk .and (clauses.map .clause)).suggestible = clauses :=
      Group.clauses_map_clause .and clauses
    rw [Group.isMet, Group.toNode, Node.isMet_and, List.all_map, List.all_eq_true]
    intro c hc
    rcases each c hc with hidle | ⟨value, hgives⟩
    · exact c.isMet_of_idle hidle
    · have hmem := hall.symm ▸ hc
      refine isMet_suggestedCard_of_gives id title now hmem ?_ hgives (hcompares c hmem value hgives)
      intro d hd hid
      exact List.inj_on_of_nodup_map distinct (hall ▸ hd) hc hid
  | @first nodes c value head gives =>
    have honly : (Group.mk .or nodes).suggestible = [c] := by
      obtain ⟨rest, hclauses⟩ := List.head?_eq_some_iff.1 head
      simp [Group.suggestible, hclauses]
    have hmem : c ∈ (Group.mk .or nodes).suggestible := by simp [honly]
    rw [Group.isMet, Group.toNode, Node.isMet_or, Bool.or_eq_true, List.any_eq_true]
    refine .inr ⟨.clause c, Group.clause_mem_nodes (List.mem_of_head? head), ?_⟩
    refine isMet_suggestedCard_of_gives id title now hmem ?_ gives (hcompares c hmem value gives)
    intro d hd _
    exact List.mem_singleton.1 (honly ▸ hd)

/-- A choice is asked for by name and another as any one, next to a clause that is not filled in
    and one about time. The value for the time is stored as a text, and as a text it counts. -/
theorem suggestedCard_isMet_mixed :
    let template (id : String) (kind : Kind) (choices : List Choice) : Template :=
      ⟨id, id, kind, choices, none⟩
    let board := Board.new "b" "Board" 0
      [template "state" .select [⟨"todo", "To do", ""⟩, ⟨"done", "Done", ""⟩],
        template "size" .select [⟨"small", "Small", ""⟩], template "made" .createdTime [],
        template "notes" .text []]
    let clauses : List Clause :=
      [⟨"state", .includes, ["done", "todo"]⟩, ⟨"notes", .contains, []⟩,
        ⟨"size", .isNotEmpty, []⟩, ⟨"made", .includes, ["today"]⟩]
    let g : Group := ⟨.and, clauses.map .clause⟩
    g.Served board.templates ∧
      (∀ c ∈ g.suggestible, ∀ value, c.Gives board.templates value →
        c.ComparesStored board.templates) ∧
      g.isMet board.templates (suggestedCard board (some g) "c" "Card" 7) := by
  intro template board clauses g
  have hserved : g.Served board.templates := by
    refine .all (by decide) ?_
    simp only [clauses, List.forall_mem_cons]
    exact ⟨.inr ⟨"done", by decide⟩, .inl (by decide), .inr ⟨"small", by decide⟩,
      .inr ⟨"today", by decide⟩, by simp⟩
  have hstored : ∀ c ∈ g.suggestible, c.ComparesStored board.templates := by decide
  have hcompares : ∀ c ∈ g.suggestible, ∀ value, c.Gives board.templates value →
      c.ComparesStored board.templates := fun c hc _ _ => hstored c hc
  exact ⟨hserved, hcompares, suggestedCard_isMet board g "c" "Card" 7 hserved hcompares⟩

end Corkboard.Filter
