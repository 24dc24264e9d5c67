import Logbook.Session.State
import Logbook.Unicode.Case

namespace Logbook

/-- A command: how it is called, and what it does with its arguments. -/
structure Command where
  name : String
  usage : String := ""
  description : String
  run : Surroundings → String → Session → Answer × Session

namespace Command

/-- The name and arguments of a line, where the name is in lower case and blanks around the arguments
are left out. -/
def split (line : String) : String × String :=
  let body := match Text.trim line.toList with
    | '/' :: rest => rest
    | cs => cs
  let (name, args) := match Text.splitBlank body with
    | some (name, args) => (name, Text.trim args)
    | none => (body, [])
  (String.ofList (Unicode.lower name), String.ofList args)

def synopsis (c : Command) : String :=
  if c.usage.isEmpty then "/" ++ c.name else "/" ++ c.name ++ " " ++ c.usage

end Command

/-- Commands in the order in which they were added, each name once. -/
structure Registry where
  commands : List Command

namespace Registry

def empty : Registry := ⟨[]⟩

def get? (r : Registry) (name : String) : Option Command :=
  r.commands.find? fun c => c.name = name

/-- Adds a command, unless its name is taken. -/
def register (r : Registry) (c : Command) : Registry :=
  if (r.get? c.name).isSome then r else ⟨r.commands ++ [c]⟩

def names (r : Registry) : List String :=
  r.commands.map fun c => "/" ++ c.name

def entries (r : Registry) : List (String × String) :=
  r.commands.map fun c => (c.synopsis, c.description)

def dispatch (r : Registry) (S : Surroundings) (line : String) (s : Session) : Answer × Session :=
  let (name, args) := Command.split line
  match r.get? name with
  | some c => c.run S args s
  | none => (.error ("unknown command: /" ++ name), s)

end Registry

end Logbook
