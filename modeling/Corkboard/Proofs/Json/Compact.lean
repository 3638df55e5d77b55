-- SUMMARY: A plain JSON value is read back from its compact form.
import Corkboard.Json.Text
import Corkboard.Proofs.Json.Token

/-!
# The compact form, read back

A value has a row of tokens, whatever blanks stand between them in a text. Scanning the compact
form gives this row, and reading the row gives the value.

A written form says what it should only for plain values: an unusable value has none, and a
number with point or exponent is read with other digits.
-/

namespace Corkboard.Json

/-- A value as records are written: its numbers are whole and in the range of a double, and all of
    it denotes something. -/
inductive Plain : Json → Prop where
  | null : Plain .null
  | bool (b : Bool) : Plain (.bool b)
  | integer {i : Int} (hi : Token.InRange i) : Plain (.integer i)
  | string (s : String) : Plain (.string s)
  | array {items : List Json} (hitems : ∀ item ∈ items, Plain item) : Plain (.array items)
  | object {entries : List (String × Json)} (hentries : ∀ e ∈ entries, Plain e.2) :
      Plain (.object entries)

theorem usableItems_eq_all (items : List Json) : usableItems items = items.all usable := by
  induction items with
  | nil => rfl
  | cons item rest ih => rw [usableItems, ih, List.all_cons]

theorem usableEntries_eq_all (entries : List (String × Json)) :
    usableEntries entries = entries.all fun e => e.2.usable := by
  induction entries with
  | nil => rfl
  | cons e rest ih => rw [usableEntries, ih, List.all_cons]

theorem Plain.usable {v : Json} (hv : v.Plain) : v.usable = true := by
  induction hv with
  | null | bool b | integer hi | string s => rfl
  | array _ ih =>
    rw [Json.usable, usableItems_eq_all]
    exact List.all_eq_true.2 ih
  | object _ ih =>
    rw [Json.usable, usableEntries_eq_all]
    exact List.all_eq_true.2 ih

/-! ## Tokens of a value -/

mutual
/-- The row of tokens of a value. -/
def tokens : Json → List Token
  | .array [] => [.openBracket, .closeBracket]
  | .array (item :: rest) =>
    .openBracket :: tokens item ++ itemTokens rest ++ [.closeBracket]
  | .object [] => [.openBrace, .closeBrace]
  | .object ((key, value) :: rest) =>
    .openBrace :: .string (some key) :: .colon :: tokens value ++ entryTokens rest ++ [.closeBrace]
  | .string s => [.string (some s)]
  | value => [.scalar value]

/-- The tokens of the items, each after a comma. -/
def itemTokens : List Json → List Token
  | [] => []
  | item :: rest => .comma :: tokens item ++ itemTokens rest

/-- The tokens of the entries, each after a comma. -/
def entryTokens : List (String × Json) → List Token
  | [] => []
  | (key, value) :: rest =>
    .comma :: .string (some key) :: .colon :: tokens value ++ entryTokens rest
end

/-! ## Scanning the compact form -/

section Scanning

open Token

theorem writes_moreItems {rest : List Json}
    (hrest : ∀ item ∈ rest, Writes (writeCompact item) (tokens item)) :
    Writes (writeMoreItems rest ++ [']']) (itemTokens rest ++ [.closeBracket]) ∧
      EndsNumber (writeMoreItems rest ++ [']']) := by
  induction rest with
  | nil => exact ⟨writes_nil.mark isMark_closeBracket, endsNumber_cons [] (by decide)⟩
  | cons item rest ih =>
    obtain ⟨hitem, hrest⟩ := List.forall_mem_cons.1 hrest
    obtain ⟨hwrites, hends⟩ := ih hrest
    simp only [writeMoreItems, itemTokens, List.cons_append, List.append_assoc]
    exact ⟨(hitem.append hwrites (by simp) hends).mark isMark_comma,
      endsNumber_cons _ (by decide)⟩

theorem writes_moreEntries {rest : List (String × Json)}
    (hrest : ∀ e ∈ rest, Writes (writeCompact e.2) (tokens e.2)) :
    Writes (writeMoreEntries rest ++ ['\x7d']) (entryTokens rest ++ [.closeBrace]) ∧
      EndsNumber (writeMoreEntries rest ++ ['\x7d']) := by
  induction rest with
  | nil => exact ⟨writes_nil.mark isMark_closeBrace, endsNumber_cons [] (by decide)⟩
  | cons e rest ih =>
    obtain ⟨hvalue, hrest⟩ := List.forall_mem_cons.1 hrest
    obtain ⟨hwrites, hends⟩ := ih hrest
    simp only [writeMoreEntries, entryTokens, List.cons_append, List.append_assoc]
    have hentry := ((hvalue.append hwrites (by simp) hends).mark isMark_colon).string e.1
    exact ⟨hentry.mark isMark_comma, endsNumber_cons _ (by decide)⟩

/-- The compact form of a plain value is the written form of its tokens. -/
theorem Plain.writes_compact {v : Json} (hv : v.Plain) : Writes (writeCompact v) (tokens v) := by
  induction hv with
  | null => exact writes_word (by decide) fun _ => rfl
  | bool b =>
    cases b with
    | false => exact writes_word (by decide) fun _ => rfl
    | true => exact writes_word (by decide) fun _ => rfl
  | integer hi => exact writes_integer hi
  | string s => simpa [writeCompact, writeScalar, tokens] using writes_nil.string s
  | @array items _ ih =>
    cases items with
    | nil => exact (writes_nil.mark isMark_closeBracket).mark isMark_openBracket
    | cons item rest =>
      obtain ⟨hitem, hrest⟩ := List.forall_mem_cons.1 ih
      obtain ⟨hwrites, hends⟩ := writes_moreItems hrest
      simp only [writeCompact, writeItems, tokens, List.cons_append, List.append_assoc]
      exact (hitem.append hwrites (by simp) hends).mark isMark_openBracket
  | @object entries _ ih =>
    cases entries with
    | nil => exact (writes_nil.mark isMark_closeBrace).mark isMark_openBrace
    | cons e rest =>
      obtain ⟨hvalue, hrest⟩ := List.forall_mem_cons.1 ih
      obtain ⟨hwrites, hends⟩ := writes_moreEntries hrest
      simp only [writeCompact, writeEntries, tokens, List.cons_append, List.append_assoc]
      have hentry := ((hvalue.append hwrites (by simp) hends).mark isMark_colon).string e.1
      exact hentry.mark isMark_openBrace

end Scanning

/-! ## Reading the tokens -/

section Running

open State

/-- A value of an array starts as a value does anywhere else. -/
theorem run_firstItem (v : Json) (around : List Frame) (more : List Token) :
    run (.firstItem around) (tokens v ++ more) =
      run (.value (.array [] :: around)) (tokens v ++ more) := by
  cases v with
  | array items => cases items <;> simp [tokens, run, step]
  | object entries => cases entries <;> simp [tokens, run, step]
  | _ => simp [tokens, run, step]

theorem run_itemTokens {rest : List Json}
    (hrest : ∀ item ∈ rest, ∀ around more,
      run (.value around) (tokens item ++ more) = run (.done item around) more)
    (v : Json) (before : List Json) (around : List Frame) (more : List Token) :
    run (.done v (.array before :: around)) (itemTokens rest ++ .closeBracket :: more) =
      run (.done (.array ((v :: before).reverse ++ rest)) around) more := by
  induction rest generalizing v before with
  | nil => simp [itemTokens, run, step, closeValue]
  | cons item rest ih =>
    obtain ⟨hitem, hrest⟩ := List.forall_mem_cons.1 hrest
    have hstep : run (.done v (.array before :: around))
        (itemTokens (item :: rest) ++ .closeBracket :: more) =
          run (.value (.array (v :: before) :: around))
            (tokens item ++ (itemTokens rest ++ .closeBracket :: more)) := by
      simp [itemTokens, run, step, closeValue]
    rw [hstep, hitem, ih hrest]
    simp

/-- The entries of an object with keys that all denote texts, as a frame has them. -/
def textKeys (entries : List (String × Json)) : List (Option String × Json) :=
  entries.map fun e => (some e.1, e.2)

theorem objectOf_textKeys (entries : List (String × Json)) :
    objectOf (textKeys entries) = .object entries := by
  have hnamed : namedEntries? (textKeys entries) = some entries := by
    induction entries with
    | nil => rfl
    | cons e rest ih =>
      rw [textKeys, List.map_cons, ← textKeys, namedEntries?, ih]
      rfl
  rw [objectOf, hnamed]

theorem run_entryTokens {rest : List (String × Json)}
    (hrest : ∀ e ∈ rest, ∀ around more,
      run (.value around) (tokens e.2 ++ more) = run (.done e.2 around) more)
    (e : String × Json) (before : List (String × Json)) (around : List Frame) (more : List Token) :
    run (.done e.2 (.object (textKeys before) (some e.1) :: around))
        (entryTokens rest ++ .closeBrace :: more) =
      run (.done (.object ((e :: before).reverse ++ rest)) around) more := by
  induction rest generalizing e before with
  | nil =>
    have hobject : objectOf ((textKeys before).reverse ++ [(some e.1, e.2)]) =
        .object (before.reverse ++ [e]) := by
      simpa [textKeys] using objectOf_textKeys (e :: before).reverse
    simp [entryTokens, run, step, closeValue, hobject]
  | cons next rest ih =>
    obtain ⟨hnext, hrest⟩ := List.forall_mem_cons.1 hrest
    have hstep : run (.done e.2 (.object (textKeys before) (some e.1) :: around))
        (entryTokens (next :: rest) ++ .closeBrace :: more) =
          run (.value (.object (textKeys (e :: before)) (some next.1) :: around))
            (tokens next.2 ++ (entryTokens rest ++ .closeBrace :: more)) := by
      simp [entryTokens, run, step, closeValue, textKeys]
    rw [hstep, hnext, ih hrest]
    simp

/-- Reading the tokens of a plain value gives the value, whatever is open around it. -/
theorem Plain.run_tokens {v : Json} (hv : v.Plain) (around : List Frame) (more : List Token) :
    run (.value around) (tokens v ++ more) = run (.done v around) more := by
  induction hv generalizing around more with
  | null => rfl
  | bool b => rfl
  | integer hi => rfl
  | string s => rfl
  | @array items _ ih =>
    cases items with
    | nil => rfl
    | cons item rest =>
      obtain ⟨hitem, hrest⟩ := List.forall_mem_cons.1 ih
      have hopen : run (.value around) (tokens (.array (item :: rest)) ++ more) =
          run (.firstItem around) (tokens item ++ (itemTokens rest ++ .closeBracket :: more)) := by
        simp [tokens, run, step, openValue]
      rw [hopen, run_firstItem, hitem, run_itemTokens hrest]
      rfl
  | @object entries _ ih =>
    cases entries with
    | nil => rfl
    | cons e rest =>
      obtain ⟨hvalue, hrest⟩ := List.forall_mem_cons.1 ih
      have hopen : run (.value around) (tokens (.object (e :: rest)) ++ more) =
          run (.value (.object (textKeys []) (some e.1) :: around))
            (tokens e.2 ++ (entryTokens rest ++ .closeBrace :: more)) := by
        simp [tokens, run, step, openValue, textKeys]
      rw [hopen, hvalue, run_entryTokens hrest]
      rfl

theorem Plain.ofTokens?_tokens {v : Json} (hv : v.Plain) : ofTokens? (tokens v) = some v := by
  have hrun := hv.run_tokens [] []
  rw [List.append_nil] at hrun
  rw [ofTokens?, hrun]
  rfl

end Running

/-! ## Whole texts -/

/-- A plain value is read back from its compact form. -/
theorem Plain.ofText?_compact {v : Json} (hv : v.Plain) : ofText? v.compact = some v := by
  rw [ofText?, compact, String.toList_ofList, hv.writes_compact.scan?_eq]
  exact hv.ofTokens?_tokens

end Json

/-- Reading a typed value from the compact form is reading it from the tree. -/
theorem Decoder.ofText?_compact {α : Type} (decode : Decoder α) {v : Json} (hv : v.Plain) :
    decode.ofText? v.compact = decode nestingLimit v := by
  rw [Decoder.ofText?, hv.ofText?_compact]
  rfl

end Corkboard
