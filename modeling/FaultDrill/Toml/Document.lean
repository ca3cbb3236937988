import FaultDrill.Toml.Value

/-!
# FaultDrill.Toml.Document

How the lines of a TOML document build up its tables. A table can be opened by a header, made on the
way to another table, or made by a dotted key, and each of them has its own rule for what may still
be added. No key is ever given twice.
-/

namespace FaultDrill.Toml

/-- How a table came to be. -/
inductive Origin where
  /-- On the way to a table with a header. -/
  | implied
  /-- By its own header. -/
  | header
  /-- By a dotted key. -/
  | dotted
  deriving DecidableEq, Repr

/-- What a key stands for while a document is read. -/
inductive Node where
  | value (v : Value)
  | table (origin : Origin) (entries : List (String × Node))
  /-- An array of tables; the last one is open. -/
  | tables (items : List (List (String × Node)))
  deriving Inhabited

/-- The entries of a table while a document is read. -/
abbrev Entries := List (String × Node)

namespace Entries

/-- What a key stands for. -/
def get? (entries : Entries) (key : String) : Option Node :=
  (entries.find? (·.1 = key)).map (·.2)

/-- The entries with another node for a key. -/
def set (entries : Entries) (key : String) (node : Node) : Entries :=
  entries.map fun e => if e.1 = key then (key, node) else e

/-- Gives a value to a dotted key. The way may lead through tables that have no header of their own
and through the last table of an array of tables, but the table that gets the value must have been
made by a dotted key, unless the key has no dot. -/
def assign (v : Value) : List String → Entries → Option Entries
  | [], _ => none
  | [key], entries =>
    if (get? entries key).isSome then none else some (entries ++ [(key, .value v)])
  | key :: next :: rest, entries =>
    match get? entries key with
    | none => do
      let inner ← assign v (next :: rest) []
      return entries ++ [(key, .table .dotted inner)]
    | some (.table .dotted inner) => do
      let inner ← assign v (next :: rest) inner
      return set entries key (.table .dotted inner)
    | some (.table .implied inner) =>
      if rest.isEmpty then none
      else do
        let inner ← assign v (next :: rest) inner
        return set entries key (.table .implied inner)
    | some (.tables items) =>
      if rest.isEmpty then none
      else do
        let last ← assign v (next :: rest) (← items.getLast?)
        return set entries key (.tables (items.dropLast ++ [last]))
    | some (.table .header _) | some (.value _) => none

/-- Changes the table at a path, through the last table of each array of tables. -/
def within (f : Entries → Option Entries) : List String → Entries → Option Entries
  | [], entries => f entries
  | key :: rest, entries =>
    match get? entries key with
    | none => do
      let inner ← within f rest []
      return entries ++ [(key, .table .implied inner)]
    | some (.table origin inner) => do
      let inner ← within f rest inner
      return set entries key (.table origin inner)
    | some (.tables items) => do
      let last ← within f rest (← items.getLast?)
      return set entries key (.tables (items.dropLast ++ [last]))
    | some (.value _) => none

/-- Opens the table of a header. -/
def openTable (key : String) (entries : Entries) : Option Entries :=
  match get? entries key with
  | none => some (entries ++ [(key, .table .header [])])
  | some (.table .implied inner) => some (set entries key (.table .header inner))
  | some _ => none

/-- Opens a further table of an array of tables. -/
def openItem (key : String) (entries : Entries) : Option Entries :=
  match get? entries key with
  | none => some (entries ++ [(key, .tables [[]])])
  | some (.tables items) => some (set entries key (.tables (items ++ [[]])))
  | some _ => none

end Entries

mutual

/-- The value that a node has at the end of the document. -/
def Node.toValue : Node → Value
  | .value v => v
  | .table _ entries => .table (entriesToValues entries)
  | .tables items => .array (itemsToValues items)

/-- The values of the entries of a table. -/
def entriesToValues : List (String × Node) → List (String × Value)
  | [] => []
  | (key, node) :: rest => (key, node.toValue) :: entriesToValues rest

/-- The values of an array of tables. -/
def itemsToValues : List (List (String × Node)) → List Value
  | [] => []
  | item :: rest => .table (entriesToValues item) :: itemsToValues rest

end

/-- A document while it is read: its tables, and the path of the open one. -/
structure Document where
  root : Entries := []
  here : List String := []

namespace Document

/-- A key with its value. -/
def assign (d : Document) (path : List String) (v : Value) : Option Document := do
  return { d with root := ← Entries.within (Entries.assign v path) d.here d.root }

/-- A header in single brackets. -/
def openTable (d : Document) (path : List String) : Option Document := do
  let key ← path.getLast?
  return ⟨← Entries.within (Entries.openTable key) path.dropLast d.root, path⟩

/-- A header in double brackets. -/
def openItem (d : Document) (path : List String) : Option Document := do
  let key ← path.getLast?
  return ⟨← Entries.within (Entries.openItem key) path.dropLast d.root, path⟩

/-- The table that the whole document denotes. -/
def toValue (d : Document) : Value :=
  .table (entriesToValues d.root)

end Document

end FaultDrill.Toml
