-- SUMMARY: Filter trees: clauses, groups of clauses and groups.
import Corkboard.Filter.Condition

/-!
# Filter trees

A filter is a group. A group has an operation and a list of nodes, and a node is a clause or a
group again. A clause names a property, a condition and the values to compare with.
-/

namespace Corkboard.Filter

/-- A test on one property. Most conditions compare with the first value only. -/
structure Clause where
  propertyId : String
  condition : Condition
  values : List String
  deriving DecidableEq, Repr, Inhabited

/-- A part of a filter. -/
inductive Node where
  | clause (c : Clause)
  | group (operation : Operation) (nodes : List Node)
  deriving Inhabited

/-- A filter. -/
structure Group where
  operation : Operation
  nodes : List Node

/-- The group as a part of a larger filter. -/
def Group.toNode (g : Group) : Node := .group g.operation g.nodes

/-- A property of all nodes follows if a group has it whenever all its parts have it. -/
theorem Node.inductionOn {motive : Node → Prop} (node : Node)
    (clause : ∀ c, motive (.clause c))
    (group : ∀ operation nodes, (∀ node ∈ nodes, motive node) → motive (.group operation nodes)) :
    motive node :=
  @Node.rec motive (fun nodes => ∀ node ∈ nodes, motive node) clause group
    (fun _ h => absurd h List.not_mem_nil)
    (fun _ _ hfirst hrest => List.forall_mem_cons.2 ⟨hfirst, hrest⟩) node

/-- The clause of a node, if it is one. -/
def Node.asClause? : Node → Option Clause
  | clause c => some c
  | group .. => none

/-- The clauses that stand directly in the group. -/
def Group.clauses (g : Group) : List Clause :=
  g.nodes.filterMap Node.asClause?

-- ---------------------------------------------------------------------------
-- Written form
-- ---------------------------------------------------------------------------

namespace Clause

def fieldNames : List String := ["propertyId", "condition", "values"]

/-- The fields of a clause, in written order. -/
def fields (c : Clause) : List (Option Json) :=
  [some (.string c.propertyId), some c.condition.toJson, some (.ofList .string c.values)]

def toJson (c : Clause) : Json := .ofFields fieldNames c.fields

end Clause

namespace Group

def fieldNames : List String := ["operation", "filters"]

end Group

mutual
/-- A node is the object of its clause or group, with its kind in front. -/
def Node.toJson : Node → Json
  | clause c => .ofFields ("kind" :: Clause.fieldNames) (some (.string "clause") :: c.fields)
  | group operation nodes =>
    .ofFields ("kind" :: Group.fieldNames)
      [some (.string "group"), some operation.toJson, some (.array (Node.listToJson nodes))]

/-- The nodes of a group. -/
def Node.listToJson : List Node → List Json
  | [] => []
  | node :: rest => node.toJson :: Node.listToJson rest
end

/-- A group on its own has no kind. -/
def Group.toJson (g : Group) : Json :=
  .ofFields fieldNames [some g.operation.toJson, some (.array (Node.listToJson g.nodes))]

-- ---------------------------------------------------------------------------
-- Reading
-- ---------------------------------------------------------------------------

/-- A named constant inside a node. There the value under the name may also be an empty
    object. -/
def loosely {α : Type} (ofName? : String → Option α) : Decoder α
  | _, .object [(s, .object [])] => ofName? s
  | n, value => Decoder.named ofName? n value

/-- The kind of a node. Inside another node the kind may also be given by its number. -/
def isGroup? (inner : Bool) : Json → Option Bool
  | .string "clause" => some false
  | .string "group" => some true
  | .integer 0 => if inner then some false else none
  | .integer 1 => if inner then some true else none
  | _ => none

/-- Splits a node into its kind and the record that is left. An object has its kind under
    `kind`, once; an array has it in front. -/
def splitKind? (inner : Bool) : Json → Option (Bool × Json)
  | .object entries =>
    match entries.filter (·.1 == "kind") with
    | [(_, kind)] => do
      return (← isGroup? inner kind, .object (entries.filter (·.1 != "kind")))
    | _ => none
  | .array (kind :: rest) => do
    return (← isGroup? inner kind, .array rest)
  | _ => none

/-- A clause from the values of its fields. -/
def Clause.ofFields (condition : Decoder Condition) (n : Nat) :
    List (Option Json) → Option Clause
  | [propertyId, test, values] => do
    return {
      propertyId := ← Decoder.string.required n propertyId
      condition := ← condition.required n test
      values := ← Decoder.string.list.orDefault [] n values }
  | _ => none

/-- A group from the values of its fields. -/
def Group.ofFields (operation : Decoder Operation) (nodes : Decoder (List Node)) (n : Nat) :
    List (Option Json) → Option Group
  | [combine, filters] => do
    return {
      operation := ← operation.required n combine
      nodes := ← nodes.orDefault [] n filters }
  | _ => none

/-- A node from its record. `nodes` reads the parts of a group. -/
def Node.ofRecord (inner : Bool) (nodes : Decoder (List Node)) (n : Nat) (value : Json) :
    Option Node := do
  let (isGroup, fields) ← splitKind? inner value
  if isGroup then
    let g ← Group.ofFields (loosely Operation.ofName?) nodes n
      (← Decoder.fields? Group.fieldNames fields)
    return g.toNode
  else
    return .clause (← Clause.ofFields (loosely Condition.ofName?) n
      (← Decoder.fields? Clause.fieldNames fields))

/-- Reads a node. `inner` says whether it stands inside another node. -/
def Node.decode (inner : Bool) : Decoder Node
  | 0, _ => none
  | 1, value => Node.ofRecord inner (fun _ _ => none) 0 value
  | n + 2, value =>
    Node.ofRecord inner
      (fun _ filters =>
        match filters with
        | .array items => items.mapM (Node.decode true n)
        | _ => none)
      (n + 1) value

/-- Reads a node that stands in no other node. Everything in it counts as looked at, unknown
    entries as well. -/
def Node.ofJson : Decoder Node := fun n value =>
  if value.usable && value.depth ≤ n then Node.decode false n value else none

def Clause.ofJson : Decoder Clause :=
  .record fieldNames (Clause.ofFields (Decoder.named Condition.ofName?))

def Group.ofJson : Decoder Group :=
  .record fieldNames (Group.ofFields (Decoder.named Operation.ofName?) (.list Node.ofJson))

end Corkboard.Filter
