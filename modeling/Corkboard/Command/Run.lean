-- SUMMARY: Running a command on the files of a workspace, and reporting the result.
import Corkboard.Command.Arguments
import Corkboard.Command.Reader
import Corkboard.Editor
import Corkboard.Filter.Suggestion
import Corkboard.Grouping.Columns
import Corkboard.Settings

/-!
# Running a command

A command reads its files in a fixed order, and the first one that cannot be read decides the
failure. The result is one JSON document in an envelope that says whether the command
succeeded. Whether it is indented changes only the blanks in it.
-/

namespace Corkboard

namespace Command

/-- The paths of the files that a command reads, in order. -/
def inputs : Command → List String
  | diff old new => [old, new]
  | filter board cards criteria => [board, cards, criteria]
  | suggest board criteria => [board, criteria]
  | group board cards _ _ _ => [board, cards]

/-- The selected cards and their number. -/
def selectionToJson (cards : List Card) : Json :=
  .ofFields ["items", "count"]
    [some (.ofList Card.toJson cards), some (.integer cards.length)]

/-- The data that a command produces. -/
def result (read : FileReader) : Command → Except Failure Json
  | diff old new => do
    let before ← read.record Board.ofJson old
    let after ← read.record Board.ofJson new
    return (Edit.between before after).toJson
  | filter board cards criteria => do
    let board ← read.record Board.ofJson board
    let cards ← read.record (.list Card.ofJson) cards
    let group ← read.record Filter.Group.ofJson criteria
    return selectionToJson (group.select board.templates cards)
  | suggest board criteria => do
    let board ← read.record Board.ofJson board
    let group ← read.record Filter.Group.ofJson criteria
    return .ofKeyMap .string (group.suggestions board.templates)
  | group board cards property visible hidden => do
    let board ← read.record Board.ofJson board
    let cards ← read.record (.list Card.ofJson) cards
    match board.findTemplate? property with
    | none => .error (.noProperty property)
    | some template => return (Grouping.columns template visible hidden cards).toJson

end Command

-- ---------------------------------------------------------------------------
-- Reports
-- ---------------------------------------------------------------------------

/-- The version of the program and of its output. -/
def version : String := "0.1.0"

/-- The envelope around the data of a command. -/
def successReport (data : Json) : Json :=
  .object [("success", .bool true), ("api_version", .string version), ("data", data)]

/-- The envelope around the message of a failure. -/
def failureReport (failure : Failure) : Json :=
  .object [("success", .bool false), ("api_version", .string version),
    ("error", .string failure.message)]

/-- The text of a report, which ends with a line end. -/
def reportText (pretty : Bool) (report : Json) : String :=
  (if pretty then report.indented else report.compact) ++ "\n"

/-- How the program ends. -/
inductive Outcome where
  /-- It prints a text. -/
  | answered (stdout : String)
  /-- A file cannot be used, and the report goes to the error stream. -/
  | failed (cause : Failure) (report : String)
  /-- The arguments are misused. -/
  | misused
  deriving DecidableEq

namespace Outcome

/-- How the program ends after a command with this result. -/
def ofResult (pretty : Bool) : Except Failure Json → Outcome
  | .ok data => answered (reportText pretty (successReport data))
  | .error cause => failed cause (reportText pretty (failureReport cause))

/-- The exit status. -/
def status : Outcome → Nat
  | answered _ => 0
  | failed .. => 1
  | misused => 2

/-- What goes to the standard output. -/
def stdout : Outcome → String
  | answered text => text
  | failed .. => ""
  | misused => ""

/-- What goes to the error stream. `misuse` tells what is wrong with misused arguments. The log may
    use this stream as well, and is not counted here. -/
def report (misuse : String) : Outcome → String
  | answered _ => ""
  | failed _ text => text
  | misused => misuse

end Outcome

-- ---------------------------------------------------------------------------
-- Runs
-- ---------------------------------------------------------------------------

/-- The value of the environment variable for indented output. No other text than these two is
    allowed. -/
def prettyOfEnvironment? : Option String → Option Bool
  | none => some false
  | some "true" => some true
  | some "false" => some false
  | some _ => none

/-- What the variable says beside these arguments. It is looked at for each place where the flag for
    indented output may stand and does not, so any value will do if the flag stands at both. -/
def prettyVariable? (arguments : List String) (environment : Option String) : Option Bool :=
  (prettyOfEnvironment? environment).or
    (if Arguments.flaggedTwice arguments then some true else none)

/-- Texts that are made from the description of the command line. -/
structure Guides where
  help : Option String → String
  completions : String → String
  /-- What is wrong with these arguments, or with the variable for indented output. -/
  misuse : List String → Option String → String

/-- Texts that only name the commands. -/
def Guides.brief : Guides where
  help _ := "boards [--pretty] " ++ "|".intercalate Arguments.helpTopics ++ "\n"
  completions _ := " ".intercalate Arguments.helpTopics ++ "\n"
  misuse _ _ := "error: the arguments are not understood\n"

/-- The command that the program runs, and whether the flag or the variable asks for indented
    output. There is none if one of them is refused, or if the arguments ask for something else. -/
def accepted? (arguments : List String) (environment : Option String) : Option Invocation :=
  match Arguments.read? arguments with
  | some (.run invocation) =>
    (prettyVariable? arguments environment).map fun fromEnvironment =>
      ⟨invocation.command, invocation.pretty || fromEnvironment⟩
  | _ => none

/-- Runs the program. `environment` is the value of the variable for indented output. -/
def run (settings : Settings) (environment : Option String) (read : FileReader)
    (arguments : List String) (guides : Guides := .brief) : Outcome :=
  match Arguments.read? arguments with
  | none => .misused
  | some .version => .answered ("boards " ++ version ++ "\n")
  | some (.help command) => .answered (guides.help command)
  | some (.completions shell) =>
    if (prettyVariable? arguments environment).isNone then .misused
    else .answered (guides.completions shell)
  | some (.run _) =>
    match accepted? arguments environment with
    | none => .misused
    | some invocation =>
      .ofResult (invocation.pretty || settings.effectivePrettyOutput)
        (invocation.command.result read)

end Corkboard
