import Logbook.Text.Basic

namespace Logbook

structure Path where
  text : String
deriving Repr, DecidableEq

namespace Path

def isAbsolute (p : Path) : Bool :=
  p.text.toList.head? == some '/'

/-- The names of the path. Doubled slashes and names that mean the directory itself count for
nothing. -/
def names (p : Path) : List String :=
  ((p.text.toList.splitOn '/').map String.ofList).filter fun name => name ≠ "" ∧ name ≠ "."

/-- The path below a directory. A path that starts at the root stays as it is. -/
def join (dir : Path) (name : String) : Path :=
  let needsSlash := !dir.text.isEmpty && dir.text.toList.getLast? != some '/'
  if isAbsolute ⟨name⟩ then ⟨name⟩
  else ⟨dir.text ++ (if needsSlash then "/" else "") ++ name⟩

/-- What stands after the last point of a file name, unless only the name's start stands before it. -/
def extension? (name : String) : Option String :=
  match Text.splitFirst '.' name.toList.reverse with
  | some (reversed, _ :: _) => some (String.ofList reversed.reverse)
  | _ => none

end Path

end Logbook
