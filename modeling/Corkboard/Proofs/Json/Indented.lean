-- SUMMARY: A plain JSON value is read back from its indented form.
import Corkboard.Proofs.Json.Compact

/-!
# The indented form, read back

The indented form has the same tokens as the compact form, and blanks between them. Each line starts
with a line end, so a number at the end of a line cannot go on. The tokens decide what is read, and
therefore the two forms of a value are read alike.
-/

namespace Corkboard.Json

open Token

variable {back : List Char} {more : List Token}

/-! ## Lines -/

theorem writes_newLine (level : Nat) (h : Writes back more) :
    Writes (newLine level ++ back) more := by
  have hblanks (n : Nat) : Writes (List.replicate n ' ' ++ back) more := by
    induction n with
    | zero => exact h
    | succ n ih => exact ih.space (by decide)
  exact (hblanks (2 * level)).space (by decide)

theorem endsNumber_newLine (level : Nat) (text : List Char) :
    EndsNumber (newLine level ++ text) :=
  endsNumber_cons _ (by decide)

/-- A value that has a line to itself. -/
theorem writes_line {front : List Char} {tokens : List Token} (level : Nat)
    (hfront : Writes front tokens) (hback : Writes back more) (hne : back ≠ [])
    (hends : EndsNumber back) :
    Writes (newLine level ++ (front ++ back)) (tokens ++ more) :=
  writes_newLine level (hfront.append hback hne hends)

/-- An entry that has a line to itself: the key, a colon and a blank stand in front of the value. -/
theorem writes_entryLine {front : List Char} {tokens : List Token} (level : Nat) (key : String)
    (hfront : Writes front tokens) (hback : Writes back more) (hne : back ≠ [])
    (hends : EndsNumber back) :
    Writes (newLine level ++ (Quoted.write key ++ ':' :: ' ' :: (front ++ back)))
      (.string (some key) :: .colon :: (tokens ++ more)) := by
  have hvalue : Writes (' ' :: (front ++ back)) (tokens ++ more) :=
    (hfront.append hback hne hends).space (by decide)
  exact writes_newLine level ((hvalue.mark isMark_colon).string key)

/-! ## Items and entries -/

theorem writes_indentedItems {rest : List Json} {level : Nat}
    (hrest : ∀ item ∈ rest, Writes (writeIndented level item) (tokens item)) (outer : Nat) :
    Writes (writeIndentedItems level rest ++ (newLine outer ++ [']']))
        (itemTokens rest ++ [.closeBracket]) ∧
      EndsNumber (writeIndentedItems level rest ++ (newLine outer ++ [']'])) := by
  induction rest with
  | nil =>
    exact ⟨writes_newLine outer (writes_nil.mark isMark_closeBracket), endsNumber_newLine outer _⟩
  | cons item rest ih =>
    obtain ⟨hitem, hrest⟩ := List.forall_mem_cons.1 hrest
    obtain ⟨hwrites, hends⟩ := ih hrest
    simp only [writeIndentedItems, itemTokens, List.cons_append, List.append_assoc]
    exact ⟨(writes_line level hitem hwrites (by simp) hends).mark isMark_comma,
      endsNumber_cons _ (by decide)⟩

theorem writes_indentedEntries {rest : List (String × Json)} {level : Nat}
    (hrest : ∀ e ∈ rest, Writes (writeIndented level e.2) (tokens e.2)) (outer : Nat) :
    Writes (writeIndentedEntries level rest ++ (newLine outer ++ ['\x7d']))
        (entryTokens rest ++ [.closeBrace]) ∧
      EndsNumber (writeIndentedEntries level rest ++ (newLine outer ++ ['\x7d'])) := by
  induction rest with
  | nil =>
    exact ⟨writes_newLine outer (writes_nil.mark isMark_closeBrace), endsNumber_newLine outer _⟩
  | cons e rest ih =>
    obtain ⟨hvalue, hrest⟩ := List.forall_mem_cons.1 hrest
    obtain ⟨hwrites, hends⟩ := ih hrest
    have hentry := writes_entryLine level e.1 hvalue hwrites (by simp) hends
    simp only [writeIndentedEntries, entryTokens, List.cons_append, List.append_assoc]
    exact ⟨hentry.mark isMark_comma, endsNumber_cons _ (by decide)⟩

/-! ## Values -/

/-- The indented form of a plain value is a written form of its tokens, at every level. -/
theorem Plain.writes_indented {v : Json} (hv : v.Plain) (level : Nat) :
    Writes (writeIndented level v) (tokens v) := by
  induction hv generalizing level with
  | null => exact Plain.null.writes_compact
  | bool b => exact (Plain.bool b).writes_compact
  | integer hi => exact (Plain.integer hi).writes_compact
  | string s => exact (Plain.string s).writes_compact
  | @array items _ ih =>
    cases items with
    | nil => exact (writes_nil.mark isMark_closeBracket).mark isMark_openBracket
    | cons item rest =>
      obtain ⟨hitem, hrest⟩ := List.forall_mem_cons.1 ih
      obtain ⟨hwrites, hends⟩ :=
        writes_indentedItems (fun item hmem => hrest item hmem (level + 1)) level
      have hfirst := writes_line (level + 1) (hitem (level + 1)) hwrites (by simp) hends
      simp only [writeIndented, tokens, List.cons_append, List.append_assoc]
      exact hfirst.mark isMark_openBracket
  | @object entries _ ih =>
    cases entries with
    | nil => exact (writes_nil.mark isMark_closeBrace).mark isMark_openBrace
    | cons e rest =>
      obtain ⟨hvalue, hrest⟩ := List.forall_mem_cons.1 ih
      obtain ⟨hwrites, hends⟩ :=
        writes_indentedEntries (fun e hmem => hrest e hmem (level + 1)) level
      have hfirst := writes_entryLine (level + 1) e.1 (hvalue (level + 1)) hwrites (by simp) hends
      simp only [writeIndented, tokens, List.cons_append, List.append_assoc]
      exact hfirst.mark isMark_openBrace

/-- A plain value is read back from its indented form. -/
theorem Plain.ofText?_indented {v : Json} (hv : v.Plain) : ofText? v.indented = some v := by
  rw [ofText?, indented, String.toList_ofList, (hv.writes_indented 0).scan?_eq]
  exact hv.ofTokens?_tokens

end Corkboard.Json
