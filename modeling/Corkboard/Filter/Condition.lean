-- SUMMARY: The conditions of filter clauses and the operations of filter groups.
import Corkboard.Failure
import Corkboard.Json.Decoder

/-!
# Conditions and operations

A clause tests one property with a condition. A group combines its parts with an operation.
Both are written by name.
-/

namespace Corkboard.Filter

-- ---------------------------------------------------------------------------
-- Conditions
-- ---------------------------------------------------------------------------

/-- A test on one property. -/
inductive Condition where
  | includes
  | notIncludes
  | isEmpty
  | isNotEmpty
  | isSet
  | isNotSet
  | is
  | contains
  | notContains
  | startsWith
  | notStartsWith
  | endsWith
  | notEndsWith
  | isBefore
  | isAfter
  deriving DecidableEq, Repr, Inhabited

namespace Condition

/-- The written name. -/
def name : Condition → String
  | includes => "includes"
  | notIncludes => "notIncludes"
  | isEmpty => "isEmpty"
  | isNotEmpty => "isNotEmpty"
  | isSet => "isSet"
  | isNotSet => "isNotSet"
  | is => "is"
  | contains => "contains"
  | notContains => "notContains"
  | startsWith => "startsWith"
  | notStartsWith => "notStartsWith"
  | endsWith => "endsWith"
  | notEndsWith => "notEndsWith"
  | isBefore => "isBefore"
  | isAfter => "isAfter"

/-- All conditions. -/
def all : List Condition :=
  [includes, notIncludes, isEmpty, isNotEmpty, isSet, isNotSet, is, contains, notContains,
    startsWith, notStartsWith, endsWith, notEndsWith, isBefore, isAfter]

/-- The condition of a name. -/
def ofName? (s : String) : Option Condition :=
  all.find? (·.name == s)

/-- The condition of a name, or the failure that names the unknown name. -/
def ofName (s : String) : Except Failure Condition :=
  match ofName? s with
  | some c => .ok c
  | none => .error (.noCondition s)

/-- Whether the condition asks only if there is a value, and needs none to compare with. -/
def isPresenceCheck : Condition → Bool
  | isEmpty | isNotEmpty | isSet | isNotSet => true
  | _ => false

@[simp] theorem ofName?_name (c : Condition) : ofName? c.name = some c := by
  cases c <;> decide

def toJson (c : Condition) : Json := .string c.name

end Condition

-- ---------------------------------------------------------------------------
-- Operations
-- ---------------------------------------------------------------------------

/-- How a group combines its parts. -/
inductive Operation where
  | and
  | or
  deriving DecidableEq, Repr, Inhabited

namespace Operation

/-- The written name. -/
def name : Operation → String
  | and => "and"
  | or => "or"

/-- The operation of a name. -/
def ofName? (s : String) : Option Operation :=
  [and, or].find? (·.name == s)

/-- The operation of a name, or the failure that names the unknown name. -/
def ofName (s : String) : Except Failure Operation :=
  match ofName? s with
  | some o => .ok o
  | none => .error (.noOperation s)

@[simp] theorem ofName?_name (o : Operation) : ofName? o.name = some o := by
  cases o <;> decide

def toJson (o : Operation) : Json := .string o.name

end Operation
end Corkboard.Filter
