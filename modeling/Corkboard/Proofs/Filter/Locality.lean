-- SUMMARY: The verdict of a filter depends on nothing but the properties that it names and what every card says of itself.
import Corkboard.Filter.Verdict
import Corkboard.Proofs.Property.Lookup

/-!
# What a filter looks at

A filter names some properties. Of each it looks at the stored value, and at the kind that the board
gives it. Besides this it looks at the title of the card, and at who made and changed it and when,
because these stand in for missing values. Two cards that agree on all this get the same verdict,
even if they belong to boards with different templates.
-/

namespace Corkboard.Filter

open Property (Kind Template Value)

/-! ## Named properties -/

mutual
/-- The ids of the properties that the clauses of a node name, wherever they stand in it. -/
def Node.propertyIds : Node → List String
  | clause c => [c.propertyId]
  | group _ nodes => Node.listPropertyIds nodes

/-- The ids that the nodes name. -/
def Node.listPropertyIds : List Node → List String
  | [] => []
  | node :: rest => node.propertyIds ++ Node.listPropertyIds rest
end

/-- The ids of the properties that a filter names. -/
def Group.propertyIds (g : Group) : List String := g.toNode.propertyIds

theorem Node.mem_listPropertyIds {nodes : List Node} {id : String} :
    id ∈ Node.listPropertyIds nodes ↔ ∃ node ∈ nodes, id ∈ node.propertyIds := by
  induction nodes with
  | nil => simp [Node.listPropertyIds]
  | cons node rest ih => simp [Node.listPropertyIds, ih]

/-! ## Agreement -/

/-- The cards agree on what they say of themselves, and the two boards agree with them on the
    properties with these ids: on the stored value and on the kind. -/
structure AgreeOn (ids : List String) (templates templates' : List Template) (card card' : Card) :
    Prop where
  title : card.title = card'.title
  createdBy : card.createdBy = card'.createdBy
  modifiedBy : card.modifiedBy = card'.modifiedBy
  createdAt : card.createdAt = card'.createdAt
  updatedAt : card.updatedAt = card'.updatedAt
  stored : ∀ id ∈ ids, card.property? id = card'.property? id
  kind : ∀ id ∈ ids,
    (Template.find? templates id).map (·.kind) = (Template.find? templates' id).map (·.kind)

section Agreement

variable {ids : List String} {templates templates' : List Template} {card card' : Card}

theorem AgreeOn.mono {more : List String} (h : AgreeOn more templates templates' card card')
    (hsub : ids ⊆ more) : AgreeOn ids templates templates' card card' where
  title := h.title
  createdBy := h.createdBy
  modifiedBy := h.modifiedBy
  createdAt := h.createdAt
  updatedAt := h.updatedAt
  stored id hid := h.stored id (hsub hid)
  kind id hid := h.kind id (hsub hid)

/-- Templates that give every named property the same kind look the same from each card. -/
theorem AgreeOn.of_kinds (card : Card)
    (h : ∀ id ∈ ids,
      (Template.find? templates id).map (·.kind) = (Template.find? templates' id).map (·.kind)) :
    AgreeOn ids templates templates' card card :=
  ⟨rfl, rfl, rfl, rfl, rfl, fun _ _ => rfl, h⟩

/-- A value for a property that is not named cannot be seen. -/
theorem AgreeOn.setProperty {id : String} (hid : id ∉ ids) (templates : List Template)
    (card : Card) (value : Value) :
    AgreeOn ids templates templates card (card.setProperty id value) where
  title := rfl
  createdBy := rfl
  modifiedBy := rfl
  createdAt := rfl
  updatedAt := rfl
  stored named hnamed := by
    have hne : named ≠ id := fun h => hid (h ▸ hnamed)
    rw [Card.property?_setProperty, if_neg hne]
  kind _ _ := rfl

/-! ## Verdicts -/

/-- What a clause compares with comes from what the cards agree on, by whichever of the lookups it
    is found. -/
theorem Comparand.ofCard_congr (h : AgreeOn ids templates templates' card card') {id : String}
    (hid : id ∈ ids) (kind : Option Kind) : ofCard id kind card = ofCard id kind card' := by
  have hstored : storedValue id card = storedValue id card' := by
    rw [storedValue, storedValue, h.title, h.stored id hid]
  have hsubstitute : substitute? kind card = substitute? kind card' := by
    simp only [substitute?, h.createdBy, h.modifiedBy, h.createdAt, h.updatedAt]
  have hvalue (stored : Option Value) : valueOf kind stored card = valueOf kind stored card' := by
    rw [valueOf, valueOf, hsubstitute]
  have hdate (stored : Option Value) : dateOf kind stored card = dateOf kind stored card' := by
    simp only [dateOf, dateText?, h.createdAt, h.updatedAt]
  simp only [ofCard, hstored, hvalue, hdate]

theorem Clause.isMet_congr {c : Clause} (h : AgreeOn ids templates templates' card card')
    (hc : c.propertyId ∈ ids) : c.isMet templates card = c.isMet templates' card' := by
  have hkind : c.kind? templates = c.kind? templates' := h.kind c.propertyId hc
  simp only [isMet, hkind, Comparand.ofCard_congr h hc]

theorem Node.isMet_congr {node : Node}
    (h : AgreeOn node.propertyIds templates templates' card card') :
    node.isMet templates card = node.isMet templates' card' := by
  induction node using Node.inductionOn with
  | clause c => exact Clause.isMet_congr h (List.mem_singleton_self _)
  | group operation nodes ih =>
    have heach : ∀ node ∈ nodes, node.isMet templates card = node.isMet templates' card' := by
      intro node hnode
      refine ih node hnode (h.mono fun id hid => ?_)
      exact Node.mem_listPropertyIds.2 ⟨node, hnode, hid⟩
    cases operation with
    | and =>
      rw [isMet_and, isMet_and, Bool.eq_iff_iff, List.all_eq_true, List.all_eq_true]
      exact forall₂_congr fun node hnode => by rw [heach node hnode]
    | or =>
      rw [isMet_or, isMet_or]
      congr 1
      rw [Bool.eq_iff_iff, List.any_eq_true, List.any_eq_true]
      exact exists_congr fun node => and_congr_right fun hnode => by rw [heach node hnode]

end Agreement

/-- A change to the cards that the filter cannot see changes them where they stand, and not which of
    them are selected. -/
theorem Group.select_map {g : Group} {templates templates' : List Template} {cards : List Card}
    (change : Card → Card)
    (h : ∀ card ∈ cards, AgreeOn g.propertyIds templates templates' card (change card)) :
    g.select templates' (cards.map change) = (g.select templates cards).map change := by
  rw [select, select, List.filter_map]
  congr 1
  exact List.filter_congr fun card hcard => (Node.isMet_congr (h card hcard)).symm

/-- The same cards are selected with templates that give the named properties the same kinds. -/
theorem Group.select_of_kinds {g : Group} {templates templates' : List Template}
    (h : ∀ id ∈ g.propertyIds,
      (Template.find? templates id).map (·.kind) = (Template.find? templates' id).map (·.kind))
    (cards : List Card) : g.select templates' cards = g.select templates cards := by
  have hmap := Group.select_map id fun card (_ : card ∈ cards) => AgreeOn.of_kinds card h
  rwa [List.map_id, List.map_id] at hmap

/-- The verdict of a filter is local. It is the same for two cards, on two boards, if these agree on
    the properties that the filter names and on what the cards say of themselves. Therefore which
    cards are selected depends neither on values of other properties, nor on the names, choices and
    notes of the templates, nor on the order of templates with distinct ids. -/
theorem verdict_local (g : Group) :
    (∀ templates templates' card card', AgreeOn g.propertyIds templates templates' card card' →
      g.isMet templates card = g.isMet templates' card') ∧
    (∀ templates cards id value, id ∉ g.propertyIds →
      g.select templates (cards.map (·.setProperty id value)) =
        (g.select templates cards).map (·.setProperty id value)) ∧
    (∀ templates cards (change : Template → Template),
      (∀ t, (change t).id = t.id ∧ (change t).kind = t.kind) →
      g.select (templates.map change) cards = g.select templates cards) ∧
    ∀ templates templates' cards, (templates.map (·.id)).Nodup → templates.Perm templates' →
      g.select templates' cards = g.select templates cards := by
  refine ⟨fun _ _ _ _ => Node.isMet_congr, fun templates cards id value hid => ?_,
    fun templates cards change hchange => ?_, fun templates templates' cards hids hperm => ?_⟩
  · exact Group.select_map _ fun card _ => AgreeOn.setProperty hid templates card value
  · refine Group.select_of_kinds (fun id _ => ?_) cards
    have hid : (fun t => (change t).id == id) = fun t : Template => t.id == id :=
      funext fun t => by rw [(hchange t).1]
    have hkind : (fun t => (change t).kind) = fun t : Template => t.kind :=
      funext fun t => (hchange t).2
    simp only [Template.find?, List.find?_map, Function.comp_def, hid, Option.map_map, hkind]
  · refine Group.select_of_kinds (fun id _ => ?_) cards
    rw [Template.find?_of_perm hids hperm]

/-- The second card belongs to another board and has a size besides. Its board has one template
    more, and describes the state otherwise. -/
theorem verdict_local_across_boards :
    let template (id : String) (kind : Kind) : Template := ⟨id, id, kind, [], none⟩
    let state : Template := ⟨"state", "Status", .select, [⟨"done", "Done", "green"⟩], some 2⟩
    let templates := [template "state" .select, template "due" .date]
    let templates' := [template "due" .date, template "size" .number, state]
    let g : Group := ⟨.or,
      [.clause ⟨"state", .includes, ["done"]⟩,
        .group .and [.clause ⟨titleId, .contains, ["draft"]⟩, .clause ⟨"due", .isSet, []⟩]]⟩
    let card := (Card.new "c" "b" "Second draft" 0).setProperty "due" (.text "86400000")
    let card' := { card with id := "d", boardId := "e" }.setProperty "size" (.text "3")
    AgreeOn g.propertyIds templates templates' card card' ∧
      g.isMet templates card = g.isMet templates' card' ∧
      "size" ∉ g.propertyIds ∧
      g.select templates ([card].map (·.setProperty "size" (.text "4"))) =
        (g.select templates [card]).map (·.setProperty "size" (.text "4")) ∧
      g.select (templates.map (·.withIndex 7)) [card] = g.select templates [card] ∧
      (templates.map (·.id)).Nodup ∧ templates.Perm templates.reverse ∧
      g.select templates.reverse [card] = g.select templates [card] := by
  intro template state templates templates' g card card'
  have hsize : "size" ∉ g.propertyIds := by decide
  have hagree : AgreeOn g.propertyIds templates templates' card card' := by
    have hcard := AgreeOn.setProperty hsize templates { card with id := "d", boardId := "e" }
      (.text "3")
    exact ⟨rfl, rfl, rfl, rfl, rfl, hcard.stored, by decide⟩
  have hids : (templates.map (·.id)).Nodup := by decide
  have hperm : templates.Perm templates.reverse := (List.reverse_perm templates).symm
  obtain ⟨hverdict, hother, hdescription, horder⟩ := verdict_local g
  exact ⟨hagree, hverdict _ _ _ _ hagree, hsize, hother templates [card] "size" _ hsize,
    hdescription templates [card] (·.withIndex 7) fun _ => ⟨rfl, rfl⟩, hids, hperm,
    horder templates _ [card] hids hperm⟩

end Corkboard.Filter
