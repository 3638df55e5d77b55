-- SUMMARY: The dual of a filter selects exactly the cards that the filter leaves out.
import Mathlib.Data.List.Perm.Basic
import Corkboard.Filter.Verdict

/-!
# Dual filters

Six pairs of conditions are opposites. If each condition of a filter gives way to its opposite,
and `and` and `or` change places, the result is the dual of the filter. A card meets the dual
exactly if it does not meet the filter.

Two parts of a filter are met by every card, and so are their duals: a group without parts, and a
clause that needs a value and has none. A filter with such a part has no dual in this sense, and
neither has one with a condition that has no opposite.
-/

namespace Corkboard.Filter

open Property (Kind Template)

/-! ## Opposites -/

/-- The condition that holds exactly where this one does not. Equality and the two comparisons of
    time have none among the conditions, and stay as they are. -/
def Condition.opposite : Condition → Condition
  | includes => notIncludes
  | notIncludes => includes
  | isEmpty => isNotEmpty
  | isNotEmpty => isEmpty
  | isSet => isNotSet
  | isNotSet => isSet
  | contains => notContains
  | notContains => contains
  | startsWith => notStartsWith
  | notStartsWith => startsWith
  | endsWith => notEndsWith
  | notEndsWith => endsWith
  | is => is
  | isBefore => isBefore
  | isAfter => isAfter

/-- Whether the condition has an opposite. -/
def Condition.HasOpposite (c : Condition) : Prop := c ∉ [is, isBefore, isAfter]

instance (c : Condition) : Decidable c.HasOpposite :=
  inferInstanceAs (Decidable (c ∉ _))

/-- The other operation. -/
def Operation.opposite : Operation → Operation
  | and => or
  | or => and

@[simp] theorem Condition.isPresenceCheck_opposite (c : Condition) :
    c.opposite.isPresenceCheck = c.isPresenceCheck := by
  cases c <;> rfl

/-- Every comparand, whether text, list, date, links or nothing at all, satisfies either a
    condition or its opposite. -/
theorem Comparand.meets_opposite (comparand : Comparand) (isTimestamp : Bool) {c : Condition}
    (h : c.HasOpposite) (values : List String) :
    comparand.meets isTimestamp c.opposite values = !comparand.meets isTimestamp c values := by
  cases c with
  | includes | isEmpty | isSet | contains | startsWith | endsWith => rfl
  | notIncludes | isNotEmpty | isNotSet | notContains | notStartsWith | notEndsWith =>
    exact (Bool.not_not _).symm
  | is | isBefore | isAfter => exact absurd h (by decide)

/-! ## Duals -/

/-- The clause with the opposite condition. -/
def Clause.dual (c : Clause) : Clause := { c with condition := c.condition.opposite }

mutual
/-- The node with every operation and every condition replaced by its opposite. -/
def Node.dual : Node → Node
  | clause c => .clause c.dual
  | group operation nodes => .group operation.opposite (Node.listDual nodes)

/-- The duals of the nodes. -/
def Node.listDual : List Node → List Node
  | [] => []
  | node :: rest => node.dual :: Node.listDual rest
end

/-- The dual of a filter. -/
def Group.dual (g : Group) : Group := ⟨g.operation.opposite, Node.listDual g.nodes⟩

theorem Node.listDual_eq_map (nodes : List Node) : Node.listDual nodes = nodes.map Node.dual := by
  induction nodes with
  | nil => rfl
  | cons node rest ih => simp [Node.listDual, ih]

@[simp] theorem Group.toNode_dual (g : Group) : g.dual.toNode = g.toNode.dual := by
  simp [Group.toNode, Group.dual, Node.dual]

/-! ## Filters with a dual -/

/-- The condition has an opposite, and the clause has a value to compare with or needs none. -/
def Clause.HasDual (c : Clause) : Prop :=
  c.condition.HasOpposite ∧ (c.values ≠ [] ∨ c.condition.isPresenceCheck)

instance (c : Clause) : Decidable c.HasDual :=
  inferInstanceAs (Decidable (_ ∧ _))

/-- All clauses of the node have a dual, and no group of it is without parts. -/
inductive Node.HasDual : Node → Prop
  | clause {c : Clause} (dual : c.HasDual) : HasDual (.clause c)
  | group {operation : Operation} {nodes : List Node} (nonempty : nodes ≠ [])
      (each : ∀ node ∈ nodes, HasDual node) : HasDual (.group operation nodes)

/-! ## Verdicts -/

section Verdict

variable (templates : List Template) (card : Card)

theorem Clause.isMet_dual {c : Clause} (h : c.HasDual) :
    c.dual.isMet templates card = !c.isMet templates card := by
  obtain ⟨hopposite, hvalues⟩ := h
  have hactive : (c.values.isEmpty && !c.condition.isPresenceCheck) = false := by
    rcases hvalues with hvalues | hpresence
    · simp [hvalues]
    · simp [hpresence]
  simp only [isMet, dual, kind?, Condition.isPresenceCheck_opposite, hactive, Bool.false_eq_true,
    if_false, Comparand.meets_opposite _ _ hopposite]

/-- A card meets the dual of a node exactly if it does not meet the node. -/
theorem Node.isMet_dual {node : Node} (h : node.HasDual) :
    node.dual.isMet templates card = !node.isMet templates card := by
  induction h with
  | clause hdual => exact Clause.isMet_dual templates card hdual
  | @group operation nodes hne _ ih =>
    have hempty : nodes.isEmpty = false := by simpa using hne
    rw [dual, listDual_eq_map]
    cases operation with
    | and =>
      rw [Operation.opposite, isMet_or, isMet_and, List.isEmpty_map, hempty, Bool.false_or,
        List.any_map, List.not_all_eq_any_not, Bool.eq_iff_iff, List.any_eq_true, List.any_eq_true]
      exact exists_congr fun node => and_congr_right fun hnode => by rw [Function.comp, ih node hnode]
    | or =>
      rw [Operation.opposite, isMet_or, isMet_and, hempty, Bool.false_or, List.all_map,
        List.not_any_eq_all_not, Bool.eq_iff_iff, List.all_eq_true, List.all_eq_true]
      exact forall₂_congr fun node hnode => by rw [Function.comp, ih node hnode]

end Verdict

/-- A filter and its dual give opposite verdicts on every card. Therefore they part any list of
    cards: each card is selected by one of them and by no more than one. -/
theorem dual_parts_cards (g : Group) (templates : List Template) (h : g.toNode.HasDual) :
    (∀ card, g.dual.isMet templates card = !g.isMet templates card) ∧
      ∀ cards, (g.select templates cards ++ g.dual.select templates cards).Perm cards ∧
        List.Disjoint (g.select templates cards) (g.dual.select templates cards) := by
  have hverdict : ∀ card, g.dual.isMet templates card = !g.isMet templates card := by
    intro card
    rw [Group.isMet, Group.toNode_dual, Node.isMet_dual templates card h, Group.isMet]
  refine ⟨hverdict, fun cards => ⟨?_, ?_⟩⟩
  · have hrest : g.dual.select templates cards =
        cards.filter fun card => !g.isMet templates card :=
      List.filter_congr fun card _ => hverdict card
    rw [hrest]
    exact List.filter_append_perm (g.isMet templates) cards
  · intro card hmet hdual
    have hyes : g.isMet templates card = true := (List.mem_filter.1 hmet).2
    have hno : g.dual.isMet templates card = true := (List.mem_filter.1 hdual).2
    rw [hverdict, hyes] at hno
    exact Bool.false_ne_true hno

/-- A filter with a group inside: the dual asks for the opposite of each part. -/
theorem dual_parts_cards_nested :
    let template (id : String) (kind : Kind) : Template := ⟨id, id, kind, [], none⟩
    let templates := [template "state" .select, template "due" .date, template "links" .card]
    let g : Group := ⟨.and,
      [.clause ⟨"state", .includes, ["done", "dropped"]⟩,
        .group .or [.clause ⟨titleId, .contains, ["Draft"]⟩, .clause ⟨"due", .isNotSet, []⟩,
          .group .and [.clause ⟨"links", .isEmpty, []⟩]]]⟩
    let card := (Card.new "c" "b" "Second draft" 0).setProperty "state" (.text "done")
    g.toNode.HasDual ∧
      g.dual = ⟨.or,
        [.clause ⟨"state", .notIncludes, ["done", "dropped"]⟩,
          .group .and [.clause ⟨titleId, .notContains, ["Draft"]⟩, .clause ⟨"due", .isSet, []⟩,
            .group .or [.clause ⟨"links", .isNotEmpty, []⟩]]]⟩ ∧
      g.dual.isMet templates card = !g.isMet templates card ∧
      (g.select templates [card] ++ g.dual.select templates [card]).Perm [card] ∧
      List.Disjoint (g.select templates [card]) (g.dual.select templates [card]) := by
  intro template templates g card
  have hlinks : (Node.group .and [.clause ⟨"links", .isEmpty, []⟩]).HasDual := by
    refine .group (List.cons_ne_nil _ _) ?_
    simp only [List.forall_mem_cons]
    exact ⟨.clause (by decide), List.forall_mem_nil _⟩
  have hor : (Node.group .or [.clause ⟨titleId, .contains, ["Draft"]⟩,
      .clause ⟨"due", .isNotSet, []⟩,
      .group .and [.clause ⟨"links", .isEmpty, []⟩]]).HasDual := by
    refine .group (List.cons_ne_nil _ _) ?_
    simp only [List.forall_mem_cons]
    exact ⟨.clause (by decide), .clause (by decide), hlinks, List.forall_mem_nil _⟩
  have hdual : g.toNode.HasDual := by
    refine .group (List.cons_ne_nil _ _) ?_
    simp only [g, List.forall_mem_cons]
    exact ⟨.clause (by decide), hor, List.forall_mem_nil _⟩
  obtain ⟨hverdict, hparts⟩ := dual_parts_cards g templates hdual
  exact ⟨hdual, rfl, hverdict card, hparts [card]⟩

end Corkboard.Filter
