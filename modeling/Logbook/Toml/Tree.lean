import Logbook.Toml.Value

/-!
Tables while they are being built. A table remembers how it came to be, because that decides whether
later statements may add to it.
-/

namespace Logbook.Toml

/-- How a table came to be. -/
inductive Origin where
  /-- It has had its own header. -/
  | header
  /-- It stands in the path of another table's header. -/
  | path
  /-- It stands in the key of an entry. -/
  | key
deriving Repr, DecidableEq

/-- What is under a name while tables are being built. -/
inductive Node where
  | value (v : Value)
  | table (origin : Origin) (entries : List (String × Node))
  /-- An array of tables, each with a header of its own. -/
  | tables (earlier : List (List (String × Node))) (last : List (String × Node))

abbrev Tree : Type := List (String × Node)

mutual

def Node.toValue : Node → Value
  | .value v => v
  | .table _ entries => .table (Tree.toTable entries)
  | .tables earlier last => .array (Tree.toTables earlier ++ [.table (Tree.toTable last)])

def Tree.toTable : List (String × Node) → Table
  | [] => []
  | (name, node) :: rest => (name, node.toValue) :: Tree.toTable rest

def Tree.toTables : List (List (String × Node)) → List Value
  | [] => []
  | t :: rest => .table (Tree.toTable t) :: Tree.toTables rest

end

namespace Tree

/-- Puts a node under a name, in place of the one that was there or else at the end. -/
def set (name : String) (node : Node) : Tree → Tree
  | [] => [(name, node)]
  | (n, old) :: rest => if n = name then (n, node) :: rest else (n, old) :: set name node rest

/-- Adds an entry. A name that is taken takes no second value. The tables that the key passes through
must not have had a header, and the one that it ends in must have been made by keys alone. -/
def insert : List String → Value → Tree → Option Tree
  | [], _, _ => none
  | [name], v, t =>
    match t.lookup name with
    | none => some (t.set name (.value v))
    | some _ => none
  | name :: next :: key, v, t => do
    let node ← match t.lookup name with
      | none => (insert (next :: key) v []).map (.table .key)
      | some (.table .key inner) => (insert (next :: key) v inner).map (.table .key)
      | some (.table .path inner) =>
        if key.isEmpty then none else (insert (next :: key) v inner).map (.table .path)
      | some (.tables earlier last) =>
        if key.isEmpty then none else (insert (next :: key) v last).map (.tables earlier)
      | some (.table .header _) => none
      | some (.value _) => none
    some (t.set name node)

def insertAll (entries : List (List String × Value)) (t : Tree) : Option Tree :=
  entries.foldlM (fun t e => t.insert e.1 e.2) t

/-- A tree with nothing but the given entries. -/
def ofEntries? (entries : List (List String × Value)) : Option Tree :=
  insertAll entries []

/-- Changes the node under a header's key. A table of an array is the last one, and tables that are
missing on the way are made. -/
def change (f : Option Node → Option Node) : List String → Tree → Option Tree
  | [], _ => none
  | [name], t => (f (t.lookup name)).map fun node => t.set name node
  | name :: next :: path, t => do
    let node ← match t.lookup name with
      | none => (change f (next :: path) []).map (.table .path)
      | some (.table origin inner) => (change f (next :: path) inner).map (.table origin)
      | some (.tables earlier last) => (change f (next :: path) last).map (.tables earlier)
      | some (.value _) => none
    some (t.set name node)

/-- Adds the entries after a header. A table has one header, and none if keys have made it. -/
def openTable (entries : List (List String × Value)) : Option Node → Option Node
  | none => (ofEntries? entries).map (.table .header)
  | some (.table .path inner) => (insertAll entries inner).map (.table .header)
  | some _ => none

/-- Adds the entries after a header of an array's table. -/
def openNext (entries : List (List String × Value)) : Option Node → Option Node
  | none => (ofEntries? entries).map (.tables [])
  | some (.tables earlier last) => (ofEntries? entries).map (.tables (earlier ++ [last]))
  | some _ => none

end Tree

end Logbook.Toml
