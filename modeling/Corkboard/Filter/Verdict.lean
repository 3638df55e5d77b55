-- SUMMARY: Whether a card meets a clause, a node or a group, and the cards that a group selects.
import Corkboard.Filter.Comparand
import Corkboard.Filter.Tree
import Corkboard.Text.Pieces

/-!
# Verdicts

A clause is met or not met by a card. A clause that needs a value and has none is met by every
card, and so is a group without parts.

Text conditions compare with the first value in lower case. Conditions on time compare with
the integer in front of the first value; without one they are not met.
-/

namespace Corkboard.Filter

open Property (Kind Template Value)

-- ---------------------------------------------------------------------------
-- Time
-- ---------------------------------------------------------------------------

/-- Filter values name a day, and the timestamps of a card have a time of day. The comparison
    with a timestamp is therefore widened by half a day, in milliseconds, to both sides. -/
def halfDay : Int := 43200000

/-- An integer kept within 64 bits. -/
def saturate (i : Int) : Int :=
  max (-0x8000000000000000) (min i 0x7FFFFFFFFFFFFFFF)

/-- Whether the date falls on `moment`: within half a day for a timestamp, within the span if
    there is one, and exactly otherwise. -/
def fallsOn (date : DateSpan) (isTimestamp : Bool) (moment : Int64) : Bool :=
  if isTimestamp then
    date.start?.any fun start =>
      saturate (moment.toInt - halfDay) < start.toInt &&
        start.toInt < saturate (moment.toInt + halfDay)
  else
    match date.start?, date.stop? with
    | some start, some stop => start.toInt ≤ moment.toInt && moment.toInt ≤ stop.toInt
    | _, _ => date.first == some moment

/-- Whether the date starts before `moment`. -/
def startsBefore (date : DateSpan) (isTimestamp : Bool) (moment : Int64) : Bool :=
  date.start?.any fun start =>
    if isTimestamp then start.toInt < saturate (moment.toInt - halfDay)
    else start.toInt < moment.toInt

/-- Whether the date ends after `moment`. A date without an end ends where it starts, and a
    timestamp has no end. -/
def endsAfter (date : DateSpan) (isTimestamp : Bool) (moment : Int64) : Bool :=
  if isTimestamp then
    date.start?.any fun start => saturate (moment.toInt + halfDay) < start.toInt
  else
    (date.stop? <|> date.start?).any fun last => moment.toInt < last.toInt

-- ---------------------------------------------------------------------------
-- Clauses
-- ---------------------------------------------------------------------------

namespace Comparand

/-- Whether a test on the date holds at the integer in front of `first`. -/
def meetsTime (c : Comparand) (isTimestamp : Bool) (first : String)
    (test : DateSpan → Bool → Int64 → Bool) : Bool :=
  match c.date, Decimal.leadingInteger? first.toList with
  | some date, some moment => test date isTimestamp moment
  | _, _ => false

/-- Whether the comparand satisfies a condition with these values. -/
def meets (c : Comparand) (isTimestamp : Bool) (condition : Condition) (values : List String) :
    Bool :=
  let first := values.headD ""
  let needle := (Text.lowercase first).toList
  match condition with
  | .includes => c.includesAny values
  | .notIncludes => !c.includesAny values
  | .isEmpty => c.isEmpty
  | .isNotEmpty => !c.isEmpty
  | .isSet => isSet c.value
  | .isNotSet => !isSet c.value
  | .is =>
    if c.date.isSome then c.meetsTime isTimestamp first fallsOn
    else c.value.bind Value.asText? == some (Text.lowercase first)
  | .contains => c.matchesText fun s => Text.occurs needle s.toList
  | .notContains => !c.matchesText fun s => Text.occurs needle s.toList
  | .startsWith => c.matchesText fun s => needle.isPrefixOf s.toList
  | .notStartsWith => !c.matchesText fun s => needle.isPrefixOf s.toList
  | .endsWith => c.matchesText fun s => needle.isSuffixOf s.toList
  | .notEndsWith => !c.matchesText fun s => needle.isSuffixOf s.toList
  | .isBefore => c.meetsTime isTimestamp first startsBefore
  | .isAfter => c.meetsTime isTimestamp first endsAfter

end Comparand

/-- The kind of the property that a clause names, if the board has a template for it. -/
def Clause.kind? (c : Clause) (templates : List Template) : Option Kind :=
  (Template.find? templates c.propertyId).map (·.kind)

/-- Whether the card meets the clause. -/
def Clause.isMet (c : Clause) (templates : List Template) (card : Card) : Bool :=
  if c.values.isEmpty && !c.condition.isPresenceCheck then true
  else
    let kind := c.kind? templates
    (Comparand.ofCard c.propertyId kind card).meets (kind.any Kind.isTimestamp) c.condition
      c.values

/-- A clause with values is never idle. -/
theorem Clause.isMet_cons (templates : List Template) (card : Card) (id value : String)
    (condition : Condition) (others : List String) :
    (Clause.mk id condition (value :: others)).isMet templates card =
      (Comparand.ofCard id ((Template.find? templates id).map (·.kind)) card).meets
        (((Template.find? templates id).map (·.kind)).any Kind.isTimestamp) condition
        (value :: others) := by
  simp [isMet, kind?]

-- ---------------------------------------------------------------------------
-- Groups
-- ---------------------------------------------------------------------------

mutual
/-- Whether the card meets the node. -/
def Node.isMet (templates : List Template) (card : Card) : Node → Bool
  | clause c => c.isMet templates card
  | group _ [] => true
  | group .and nodes => Node.allMet templates card nodes
  | group .or nodes => Node.anyMet templates card nodes

/-- Whether the card meets all nodes. -/
def Node.allMet (templates : List Template) (card : Card) : List Node → Bool
  | [] => true
  | node :: rest => node.isMet templates card && Node.allMet templates card rest

/-- Whether the card meets one of the nodes. -/
def Node.anyMet (templates : List Template) (card : Card) : List Node → Bool
  | [] => false
  | node :: rest => node.isMet templates card || Node.anyMet templates card rest
end

/-- Whether the card meets the group. -/
def Group.isMet (g : Group) (templates : List Template) (card : Card) : Bool :=
  g.toNode.isMet templates card

/-- The cards that meet the group, in their order. -/
def Group.select (g : Group) (templates : List Template) (cards : List Card) : List Card :=
  cards.filter (g.isMet templates)

theorem Node.allMet_eq_all (templates : List Template) (card : Card) (nodes : List Node) :
    Node.allMet templates card nodes = nodes.all (Node.isMet templates card) := by
  induction nodes with
  | nil => rfl
  | cons node rest ih => simp [Node.allMet, ih]

theorem Node.anyMet_eq_any (templates : List Template) (card : Card) (nodes : List Node) :
    Node.anyMet templates card nodes = nodes.any (Node.isMet templates card) := by
  induction nodes with
  | nil => rfl
  | cons node rest ih => simp [Node.anyMet, ih]

/-- All parts of an `and` must be met. -/
theorem Node.isMet_and (templates : List Template) (card : Card) (nodes : List Node) :
    (Node.group .and nodes).isMet templates card = nodes.all (Node.isMet templates card) := by
  cases nodes with
  | nil => rfl
  | cons node rest =>
    rw [Node.isMet, Node.allMet_eq_all]
    exact List.cons_ne_nil node rest

/-- One part of an `or` must be met, if there is any. -/
theorem Node.isMet_or (templates : List Template) (card : Card) (nodes : List Node) :
    (Node.group .or nodes).isMet templates card =
      (nodes.isEmpty || nodes.any (Node.isMet templates card)) := by
  cases nodes with
  | nil => rfl
  | cons node rest =>
    rw [Node.isMet, Node.anyMet_eq_any]
    · rfl
    · exact List.cons_ne_nil node rest

end Corkboard.Filter
