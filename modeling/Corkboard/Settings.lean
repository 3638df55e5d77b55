-- SUMMARY: The settings of a user, read from a file.
import Corkboard.Toml.Reader

/-!
# Settings

A settings file may choose what is logged and whether output is indented. A file that cannot
be read counts as no file, and unknown entries do not matter.
-/

namespace Corkboard

/-- What the settings file says. -/
structure Settings where
  logFilter : Option String
  prettyOutput : Option Bool
  deriving DecidableEq, Repr

namespace Settings

/-- The settings without a file. -/
def default : Settings := ⟨none, none⟩

/-- What is logged if the settings do not say. -/
def defaultLogFilter : String := "warn"

/-- What is logged. -/
def effectiveLogFilter (s : Settings) : String := s.logFilter.getD defaultLogFilter

/-- Whether output is indented. -/
def effectivePrettyOutput (s : Settings) : Bool := s.prettyOutput.getD false

/-- The text under a key. There may be none, but nothing else. -/
def text? (entries : Toml.Entries) (key : String) : Option (Option String) :=
  match entries.lookup key with
  | none => some none
  | some (.string s) => some (some s)
  | some _ => none

/-- The truth value under a key. There may be none, but nothing else. -/
def bool? (entries : Toml.Entries) (key : String) : Option (Option Bool) :=
  match entries.lookup key with
  | none => some none
  | some (.bool b) => some (some b)
  | some _ => none

/-- The settings of a document. -/
def ofEntries? (entries : Toml.Entries) : Option Settings := do
  return ⟨← text? entries "log_filter", ← bool? entries "pretty_output"⟩

/-- The settings of a file with these bytes, or the default settings if they cannot be read. -/
def ofBytes (bytes : ByteArray) : Settings :=
  (do ofEntries? (← Toml.ofText? (← String.fromUTF8? bytes))).getD default

/-- The settings of a file that may not exist. -/
def load (file : Option ByteArray) : Settings :=
  (file.map ofBytes).getD default

end Settings
end Corkboard
