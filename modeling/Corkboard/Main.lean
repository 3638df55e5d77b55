-- SUMMARY: The command line program: reads the settings, the environment and the files, and runs a command.
import Corkboard.Command.Launch

/-!
# The program

All decisions are made by `Corkboard.launch`. Here the files that it needs are read, and what it
leaves is printed.
-/

namespace Corkboard

/-- What an error of the system tells of a path. -/
def foundOfError : IO.Error → Found
  | .noFileOrDirectory .. => .nothing
  | .inappropriateType _ 21 _ => .fault .isDirectory
  | .inappropriateType _ 20 _ => .fault .notDirectory
  | e => .fault (.other (toString e))

/-- What stands at a path. -/
def findFile (path : String) : IO Found := do
  try return .bytes (← IO.FS.readBinFile path)
  catch e => return foundOfError e

/-- The path of the settings file, if there is a home for it. -/
def settingsPath? : IO (Option String) := do
  match ← IO.getEnv "XDG_CONFIG_HOME", ← IO.getEnv "HOME" with
  | some config, home =>
    if config.startsWith "/" then return some (config ++ "/boards/config.toml")
    else return home.map (· ++ "/.config/boards/config.toml")
  | none, home => return home.map (· ++ "/.config/boards/config.toml")

/-- The settings of the user. -/
def loadSettings : IO Settings := do
  match ← settingsPath? with
  | none => return .default
  | some path =>
    try return .load (some (← IO.FS.readBinFile path))
    catch _ => return .default

/-- The variables of the environment. -/
def loadEnvironment : IO Environment := do
  return {
    pretty := ← IO.getEnv "BOARDS_PRETTY"
    log := ← IO.getEnv "BOARDS_LOG"
    debugLog := ← IO.getEnv "BOARDS_DEBUG_LOG" }

/-- Opens the file for the log, and tells why this fails, if it does. Nothing is written to it. -/
def openLog (environment : Environment) : IO (Option String) := do
  match environment.debugLog with
  | none => return none
  | some path =>
    try
      let _ ← IO.FS.Handle.mk path .append
      return none
    catch e => return some (toString e)

/-- The files that the arguments ask for, with what the system finds there. -/
def findInputs (arguments : List String) : IO (List (String × Found)) :=
  match Arguments.read? arguments with
  | some (.run invocation) => invocation.command.inputs.mapM fun path => do
      return (path, ← findFile path)
  | _ => return []

/-- Runs the program on the real files, prints what it leaves, and returns the exit status. -/
def runProgram (arguments : List String) : IO UInt32 := do
  let environment ← loadEnvironment
  let refusal? ← openLog environment
  let inputs ← findInputs arguments
  let find (path : String) := (inputs.lookup path).getD .nothing
  let ending := launch (.silent fun _ => refusal?) .brief (← loadSettings) environment
    (Files.reader ⟨find, fun _ _ _ => none⟩) arguments
  IO.print ending.stdout
  IO.eprint ending.stderr
  return ending.status.toUInt32

end Corkboard

def main (arguments : List String) : IO UInt32 :=
  Corkboard.runProgram arguments
