-- SUMMARY: The tables of a TOML document, and the rules for defining them.

/-!
# Documents

A document is a table, and its lines define entries of tables inside it. No entry may be
defined twice. How a table was opened decides what may still be added to it: a table between
braces is closed, a table of a dotted key takes more dotted keys, and a table that was only
named on the way to another one may still get a header.
-/

namespace Corkboard.Toml

/-- How a table came to be. -/
inductive Opening where
  /-- Written between braces. -/
  | inline
  /-- Opened by its own header. -/
  | header
  /-- Named in the header of a table inside it. -/
  | implied
  /-- Named in a dotted key. -/
  | dotted
  deriving DecidableEq, Repr

/-- What stands under a key. The `rows` of an array of tables are kept with the last one in
    front. -/
inductive Item where
  | string (s : String)
  | bool (b : Bool)
  | number
  | array (items : List Item)
  | table (opening : Opening) (entries : List (String × Item))
  | rows (tables : List (List (String × Item)))
  deriving Inhabited

/-- The entries of a table, in order of definition. -/
abbrev Entries : Type := List (String × Item)

/-- A line of a document that defines something. -/
inductive Statement where
  /-- The header of a table. -/
  | header (path : List String)
  /-- The header of a new row in an array of tables. -/
  | row (path : List String)
  /-- An entry of the table that was opened last. -/
  | entry (path : List String) (item : Item)

namespace Entries

/-- The entries with another item under a key that is there. -/
def replace (entries : Entries) (key : String) (item : Item) : Entries :=
  entries.map fun e => if e.1 = key then (key, item) else e

/-- Goes down a path and changes the table at its end. Tables that are missing on the way are
    made, and are opened as `opening` says. A dotted key does not go through a table that has
    its own header. `change` is told how the table at the end was opened. -/
def atPath (opening : Opening) (change : Opening → Entries → Option Entries) :
    List String → Opening → Entries → Option Entries
  | [], reached, entries => change reached entries
  | key :: path, _, entries =>
    match entries.lookup key with
    | none => do
      let inner ← atPath opening change path opening []
      return entries ++ [(key, .table opening inner)]
    | some (.table reached inner) =>
      if reached = .inline ∨ (opening = .dotted ∧ reached = .header) then none
      else do
        let inner ← atPath opening change path reached inner
        return entries.replace key (.table reached inner)
    | some (.rows (last :: others)) => do
      let last ← atPath opening change path .header last
      return entries.replace key (.rows (last :: others))
    | some _ => none

/-- Defines a new entry. -/
def define (entries : Entries) (key : String) (item : Item) : Option Entries :=
  if (entries.lookup key).isSome then none else some (entries ++ [(key, item)])

/-- Defines an entry by a key in parts. A table that the key goes through must have been made
    by a dotted key. -/
def defineAt (path : List String) (item : Item) (entries : Entries) : Option Entries :=
  match path.getLast? with
  | none => none
  | some key =>
    let above := path.dropLast
    atPath .dotted
      (fun reached inner =>
        if above.isEmpty || reached = .dotted then inner.define key item else none)
      above .header entries

/-- Opens a table by its header. -/
def openTable (key : String) (entries : Entries) : Option Entries :=
  match entries.lookup key with
  | none => some (entries ++ [(key, .table .header [])])
  | some (.table .implied inner) => some (entries.replace key (.table .header inner))
  | some _ => none

/-- Opens a new row of an array of tables. -/
def openRow (key : String) (entries : Entries) : Option Entries :=
  match entries.lookup key with
  | none => some (entries ++ [(key, .rows [[]])])
  | some (.rows tables) => some (entries.replace key (.rows ([] :: tables)))
  | some _ => none

/-- Applies one line to the document. The path is that of the table that was opened last. -/
def apply (state : List String × Entries) : Statement → Option (List String × Entries)
  | .header path => do
    let key ← path.getLast?
    let root ← atPath .implied (fun _ => openTable key) path.dropLast .header state.2
    return (path, root)
  | .row path => do
    let key ← path.getLast?
    let root ← atPath .implied (fun _ => openRow key) path.dropLast .header state.2
    return (path, root)
  | .entry path item => do
    let root ← atPath .implied (fun _ => defineAt path item) state.1 .header state.2
    return (state.1, root)

/-- The document of its lines. -/
def ofStatements? (statements : List Statement) : Option Entries :=
  (statements.foldlM apply ([], [])).map (·.2)

/-- The table between braces that these entries define. -/
def ofInline? (entries : List (List String × Item)) : Option Entries :=
  entries.foldlM (fun table (path, item) => defineAt path item table) []

end Entries
end Corkboard.Toml
