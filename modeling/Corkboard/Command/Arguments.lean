-- SUMMARY: The arguments of the command line, and what they ask for.
import Corkboard.Text.Pieces

/-!
# Arguments

The first argument that is no flag names the command, and the rest are its options. An option
takes its value from the next argument or after an equals sign. The next argument is no value
if it looks like an option itself. Each option is given once, apart from the two lists; these
split their values at commas and keep empty parts. A question for help is answered as soon as it is
met, if nothing in front of it is wrong.

Every misuse is the same to the caller, so the reader only says whether there is one.
-/

namespace Corkboard

/-- What to do, with the paths of the files to read. -/
inductive Command where
  | diff (old new : String)
  | filter (board cards filter : String)
  | suggest (board filter : String)
  | group (board cards property : String) (visible hidden : List String)
  deriving DecidableEq, Repr

/-- A command and whether its output is to be indented. -/
structure Invocation where
  command : Command
  pretty : Bool
  deriving DecidableEq, Repr

/-- What the arguments ask for. -/
inductive Request where
  | version
  /-- How to call the program, or one of its commands. -/
  | help (command : Option String)
  /-- A script that completes command lines in a shell. -/
  | completions (shell : String)
  | run (invocation : Invocation)
  deriving DecidableEq, Repr

namespace Arguments

/-- An option on the command line, with its value. -/
inductive Given where
  | pretty
  | option (name value : String)
  deriving DecidableEq, Repr

-- ---------------------------------------------------------------------------
-- Reading options
-- ---------------------------------------------------------------------------

/-- The flag for indented output. -/
def prettyFlag : String := "--pretty"

/-- The name of an option, with the value after an equals sign if there is one. -/
def optionOf? (argument : String) : Option (String × Option String) :=
  match argument.toList with
  | '-' :: '-' :: rest =>
    match Text.cutAt '=' rest with
    | some (name, value) => some (String.ofList name, some (String.ofList value))
    | none => some (String.ofList rest, none)
  | _ => none

/-- Whether an argument can be the value of the option in front of it. -/
def isValue (argument : String) : Bool :=
  argument == "-" || argument.toList.head? != some '-'

/-- The options of a command whose options have these names. The double dash may stand at the
    end, where it has no effect. -/
def options? (names : List String) : List String → Option (List Given)
  | [] => some []
  | ["--"] => some []
  | argument :: rest =>
    if argument = prettyFlag then (options? names rest).map (.pretty :: ·)
    else
      match optionOf? argument with
      | none => none
      | some (name, some value) =>
        if names.contains name then (options? names rest).map (.option name value :: ·) else none
      | some (name, none) =>
        match rest with
        | value :: after =>
          if names.contains name && isValue value then
            (options? names after).map (.option name value :: ·)
          else none
        | [] => none

/-- The values given for an option, in order. -/
def valuesOf (name : String) (given : List Given) : List String :=
  given.filterMap fun
    | .option n value => if n = name then some value else none
    | .pretty => none

/-- The value of an option that is given exactly once. -/
def one? (name : String) (given : List Given) : Option String :=
  match valuesOf name given with
  | [value] => some value
  | _ => none

/-- The path under an option. It is not empty. -/
def path? (name : String) (given : List Given) : Option String :=
  (one? name given).filter (!·.isEmpty)

/-- The parts of all values of an option that may be repeated. -/
def parts (name : String) (given : List Given) : List String :=
  (valuesOf name given).flatMap fun value =>
    (Text.pieces ',' value.toList).map String.ofList

/-- Whether the flag for indented output is given, which is possible once. -/
def prettyOf? (given : List Given) : Option Bool :=
  match given.count .pretty with
  | 0 => some false
  | 1 => some true
  | _ => none

-- ---------------------------------------------------------------------------
-- Commands
-- ---------------------------------------------------------------------------

/-- The names of a command's options, and the command of its options. -/
structure Form where
  names : List String
  command? : List Given → Option Command

/-- The form of a command. -/
def formOf? : String → Option Form
  | "diff" => some ⟨["old", "new"], fun given => do
      return .diff (← path? "old" given) (← path? "new" given)⟩
  | "filter" => some ⟨["board", "cards", "filter"], fun given => do
      return .filter (← path? "board" given) (← path? "cards" given) (← path? "filter" given)⟩
  | "suggest" => some ⟨["board", "filter"], fun given => do
      return .suggest (← path? "board" given) (← path? "filter" given)⟩
  | "group" => some ⟨["board", "cards", "property", "visible", "hidden"], fun given => do
      return .group (← path? "board" given) (← path? "cards" given) (← one? "property" given)
        (parts "visible" given) (parts "hidden" given)⟩
  | _ => none

/-- The invocation of a command by the arguments behind its name. -/
def invocation? (pretty : Bool) (name : String) (rest : List String) : Option Invocation := do
  let form ← formOf? name
  let given ← options? form.names rest
  let command ← form.command? given
  let inner ← prettyOf? given
  return ⟨command, pretty || inner⟩

-- ---------------------------------------------------------------------------
-- Help
-- ---------------------------------------------------------------------------

/-- Whether an argument asks for help. -/
def isHelp (argument : String) : Bool :=
  argument == "--help" || ['-', 'h'].isPrefixOf argument.toList

/-- The options whose values are no paths. -/
def textOptions : List String := ["property", "visible", "hidden"]

/-- The options that may be repeated. -/
def listOptions : List String := ["visible", "hidden"]

/-- Whether nothing is wrong with the options so far. More may be missing. -/
def noneMisused (form : Form) (given : List Given) : Bool :=
  (prettyOf? given).isSome && form.names.all fun name =>
    let values := valuesOf name given
    (listOptions.contains name || values.length ≤ 1) &&
      (textOptions.contains name || !values.contains "")

/-- Whether the arguments behind the name of a command ask for help on it. Behind the double dash
    nothing is a flag. -/
def asksHelp (name : String) (rest : List String) : Bool :=
  let front := rest.takeWhile (!isHelp ·)
  match formOf? name with
  | some form =>
    front.length < rest.length && !front.contains "--" &&
      (options? form.names front).any (noneMisused form)
  | none => false

/-- The shells that command lines can be completed in. -/
def shells : List String := ["bash", "elvish", "fish", "powershell", "zsh"]

/-- Reads the arguments behind the command for completions. `pretty` says whether the flag for
    indented output has been seen, and `shell` is the one that has been named. -/
def completions? (pretty : Bool) (shell : Option String) : List String → Option Request
  | [] => shell.map .completions
  | argument :: rest =>
    if argument = prettyFlag then if pretty then none else completions? true shell rest
    else if isHelp argument then some (.help (some "completions"))
    else if argument = "--" then
      match shell.toList ++ rest with
      | [only] => if shells.contains only then some (.completions only) else none
      | _ => none
    else if shell.isNone && shells.contains argument then completions? pretty (some argument) rest
    else none

/-- The commands that help can be asked for by the command for help. -/
def helpTopics : List String := ["diff", "filter", "suggest", "group", "completions", "help"]

/-- Reads the arguments behind the command for help. -/
def help? : List String → Option Request
  | [] => some (.help none)
  | [name] => if helpTopics.contains name then some (.help (some name)) else none
  | _ => none

/-- Reads the arguments after `pretty`, which says whether the flag for indented output has
    been seen. The flags for the version and for help are obeyed as soon as they are met. -/
def readFrom (pretty : Bool) : List String → Option Request
  | [] => none
  | argument :: rest =>
    if argument = prettyFlag then if pretty then none else readFrom true rest
    else if argument = "--version" ∨ ['-', 'V'].isPrefixOf argument.toList then some .version
    else if isHelp argument then some (.help none)
    else if argument = "help" then help? rest
    else if argument = "completions" then completions? false none rest
    else
      match invocation? pretty argument rest with
      | some invocation => some (.run invocation)
      | none => if asksHelp argument rest then some (.help (some argument)) else none

/-- What the arguments ask for, or `none` if they are misused. -/
def read? (arguments : List String) : Option Request := readFrom false arguments

/-- Whether the flag for indented output stands in front of the command and behind its name. It may
    stand once at either place. -/
def flaggedTwice (arguments : List String) : Bool :=
  2 ≤ arguments.count prettyFlag

end Arguments
end Corkboard
