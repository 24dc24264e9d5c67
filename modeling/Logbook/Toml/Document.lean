import Logbook.Toml.Statement

namespace Logbook.Toml

def leadingEntries : List Statement → List (List String × Value) × List Statement
  | .entry key value :: rest =>
    let (entries, rest) := leadingEntries rest
    ((key, value) :: entries, rest)
  | rest => ([], rest)

theorem length_leadingEntries (statements : List Statement) :
    (leadingEntries statements).2.length ≤ statements.length := by
  fun_induction leadingEntries statements with
  | case1 key value rest entries tail h ih => simp [h] at ih ⊢; omega
  | case2 => simp

def addTables (t : Tree) : List Statement → Option Tree
  | [] => some t
  | .entry _ _ :: _ => none
  | .header key :: rest => do
    let t ← t.change (Tree.openTable (leadingEntries rest).1) key
    addTables t (leadingEntries rest).2
  | .arrayHeader key :: rest => do
    let t ← t.change (Tree.openNext (leadingEntries rest).1) key
    addTables t (leadingEntries rest).2
termination_by statements => statements.length
decreasing_by
  all_goals exact Nat.lt_succ_of_le (length_leadingEntries rest)

def tableOf? (statements : List Statement) : Option Table := do
  let (entries, rest) := leadingEntries statements
  let top ← Tree.ofEntries? entries
  let t ← addTables top rest
  some (Tree.toTable t)

/-- The table of a TOML text. A byte order mark at the start counts for nothing. -/
def decode? (text : String) : Option Table := do
  let cs := match text.toList with
    | '\uFEFF' :: rest => rest
    | cs => cs
  tableOf? (← readStatements (cs.length + 1) cs)

end Logbook.Toml
