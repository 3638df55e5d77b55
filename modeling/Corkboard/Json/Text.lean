-- SUMMARY: Reading a typed value from a JSON text, and writing one.
import Corkboard.Json.Decoder
import Corkboard.Json.Printer
import Corkboard.Json.Reader

/-!
# Records as text

Reading goes through the tree: a text that is no JSON is refused, and so is a tree that does
not fit the type or is nested too deeply.
-/

namespace Corkboard

/-- Reads a value from a JSON text. -/
def Decoder.ofText? {α : Type} (decode : Decoder α) (text : String) : Option α := do
  decode nestingLimit (← Json.ofText? text)

end Corkboard
