-- SUMMARY: Lower case of a text by the full Unicode rules, with the final sigma.
import Corkboard.Text.CaseTable

/-!
# Lower case

A search in titles does not tell capital letters from small ones. The text is put into lower
case character by character, with two exceptions. The capital I with a dot becomes two
characters. The capital sigma has two small forms, and its neighbours decide: it takes the
final form at the end of a word.
-/

namespace Corkboard.Text

/-- The capital sigma. -/
def capitalSigma : Char := 'Σ'

/-- Small form of one character, without regard to its neighbours. -/
def lowerChar (c : Char) : List Char :=
  if c = 'İ' then ['i', '\u0307']
  else
    match capitals.findSome? (·.small? c.toNat) with
    | some n => [Char.ofNat n]
    | none => [c]

/-- Whether the first character that is not case-ignorable is cased. -/
def startsCased (text : List Char) : Bool :=
  match text.dropWhile (fun c => inRanges caseIgnorableRanges c.toNat) with
  | [] => false
  | c :: _ => inRanges casedRanges c.toNat

/-- The small sigma between `before`, which is reversed, and `after`. A word ends where a
    cased character stands before and none stands after. -/
def lowerSigma (before after : List Char) : Char :=
  if startsCased before && !startsCased after then 'ς' else 'σ'

/-- Lower case of `text` when `before`, reversed, stands in front of it. -/
def lowerFrom (before : List Char) : List Char → List Char
  | [] => []
  | c :: rest =>
    (if c = capitalSigma then [lowerSigma before rest] else lowerChar c) ++
      lowerFrom (c :: before) rest

/-- Lower case of a text. -/
def lowercase (text : String) : String :=
  String.ofList (lowerFrom [] text.toList)

@[simp] theorem toList_lowercase (text : String) :
    (lowercase text).toList = lowerFrom [] text.toList := by
  simp [lowercase]

end Corkboard.Text
