import Logbook.Archive

namespace Logbook

structure History where
  path : Path
deriving Repr, DecidableEq

namespace History

/-- A command as the history holds it: without the line ends at its end, and with blanks for the others.
A blank command is not held. -/
def entry? (command : String) : Option String :=
  let cs := Text.dropEndWhile (fun c => c == '\r' || c == '\n') command.toList
  if Text.allBlank cs then none
  else some (String.ofList (cs.map fun c => if c == '\n' then ' ' else c))

/-- Adds a command. The file and its directory are made if they are missing, and a failure is passed
over. -/
def append (h : History) (command : String) (t : FileTree) : FileTree :=
  match entry? command with
  | none => t
  | some entry =>
    match t.makeParents h.path with
    | (.error _, u) => u
    | (.ok (), u) => u.orKeep (u.append h.path (Utf8.encode (entry ++ "\n")))

/-- The last commands, oldest first. -/
def last (h : History) (limit : Nat) (t : FileTree) : Outcome :=
  Archive.search ⟨⟨""⟩, h.path⟩ t { pattern := none, limit } .history

/-- All commands that are not blank, oldest first. -/
def entries (h : History) (t : FileTree) : List String :=
  match t.read h.path with
  | .error _ => []
  | .ok bytes =>
    ((Text.lines (Utf8.decodeLossy bytes).toList).filter fun cs => !Text.allBlank cs).map String.ofList

end History

end Logbook
