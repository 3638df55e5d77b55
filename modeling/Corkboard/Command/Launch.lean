-- SUMMARY: The whole program: it opens its log, runs a command, and logs what happens.
import Corkboard.Command.Events

/-!
# Launching the program

Before anything else the program opens its log. The log goes to a file, or to the error stream as
far as a filter lets it through, where it stands in front of the report of a failure. The program
that keeps the log is given to the run: it says which texts are filters, which files it cannot open,
and what lines it writes.
-/

namespace Corkboard

-- ---------------------------------------------------------------------------
-- Logs
-- ---------------------------------------------------------------------------

/-- The variables of the environment that the program looks at. -/
structure Environment where
  /-- Whether output is to be indented. -/
  pretty : Option String := none
  /-- The filter of the log. -/
  log : Option String := none
  /-- The file for the log. -/
  debugLog : Option String := none
  deriving DecidableEq, Repr

/-- The program that keeps the log. -/
structure Logger where
  /-- Whether a text is a filter. -/
  isFilter : String → Bool
  /-- Why a file cannot be opened, if it cannot. -/
  refusal? : String → Option String
  /-- The lines for events, under a filter. -/
  lines : String → List Event → String

/-- A log that writes nothing. `refusal?` says which files it cannot open. -/
def Logger.silent (refusal? : String → Option String) : Logger :=
  ⟨fun _ => true, refusal?, fun _ _ => ""⟩

/-- Where the log goes. -/
inductive Log where
  | file (path : String)
  | errorStream (filter : String)
  deriving DecidableEq, Repr

namespace Log

/-- The log that the environment and the settings ask for. A text that is no filter is passed
    over. -/
def choose (logger : Logger) (environment : Environment) (settings : Settings) : Log :=
  match environment.debugLog with
  | some path => .file path
  | none =>
    let filters := environment.log.toList ++ [settings.effectiveLogFilter]
    .errorStream ((filters.find? logger.isFilter).getD Settings.defaultLogFilter)

/-- Why the log cannot be opened, if it cannot. -/
def refusal? (logger : Logger) : Log → Option String
  | file path => logger.refusal? path
  | errorStream _ => none

/-- What events leave on the error stream. -/
def onErrorStream (logger : Logger) (events : List Event) : Log → String
  | file _ => ""
  | errorStream filter => logger.lines filter events

end Log

-- ---------------------------------------------------------------------------
-- The program
-- ---------------------------------------------------------------------------

/-- What the program leaves to its caller. -/
structure Ending where
  status : Nat
  stdout : String
  stderr : String
  deriving DecidableEq, Repr

/-- Runs the program from its start. If the log cannot be opened, it ends at once. -/
def launch (logger : Logger) (guides : Guides) (settings : Settings) (environment : Environment)
    (read : FileReader) (arguments : List String) : Ending :=
  let log := Log.choose logger environment settings
  match log.refusal? logger with
  | some reason => ⟨1, "", "Error: " ++ reason ++ "\n"⟩
  | none =>
    let outcome := run settings environment.pretty read arguments guides
    let events := ((accepted? arguments environment.pretty).map (·.command.events read)).getD []
    ⟨outcome.status, outcome.stdout,
      log.onErrorStream logger events ++
        outcome.report (guides.misuse arguments environment.pretty)⟩

end Corkboard
