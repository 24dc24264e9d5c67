import Logbook.Command.Builtin

/-!
The lines of a session. Each line that is not blank is recorded before it is answered, and its answer is
recorded before the next line is looked at.
-/

namespace Logbook.Session

inductive Turn where
  | skip
  | exit
  | answered (a : Answer)
deriving Repr, DecidableEq

/-- The words that end a session, in any case. -/
def endsSession (line : List Char) : Bool :=
  let word := String.ofList (line.map Char.toLower)
  word == "exit" || word == "quit"

/-- The answer to a line: of the command that it calls, of the persona that listens, or an echo. -/
def answerTo (r : Registry) (S : Surroundings) (persona : Option Persona) (line : String) (s : Session) :
    Answer × Session :=
  if line.toList.head? = some '/' then r.dispatch S line s
  else match persona with
    | some p => s.ask S p line
    | none => (.success ("echo: " ++ line), s)

/-- Handles a line: what was typed goes to the history and to the log, and then its answer to the log,
unless the answer has been recorded. -/
def handle (r : Registry) (S : Surroundings) (persona : Option Persona) (raw : String) (s : Session) :
    Turn × Session :=
  let cs := Text.trim raw.toList
  if cs.isEmpty then (.skip, s)
  else if endsSession cs then (.exit, s)
  else
    let line := String.ofList cs
    let s := { s with tree := s.history.append line s.tree }
    let s := s.record S Tag.user line
    let (answer, s) := answerTo r S persona line s
    (.answered answer, if answer.recorded then s else s.record S Tag.assistant answer.text)

/-- Handles lines up to the one that ends the session, and prints their answers. -/
def runLines (r : Registry) (S : Surroundings) (persona : Option Persona) : List String → Session → Session
  | [], s => s
  | line :: rest, s =>
    match s.handle r S persona line with
    | (.skip, s) => runLines r S persona rest s
    | (.exit, s) => s
    | (.answered a, s) => runLines r S persona rest (s.showAnswer a)

/-- Handles the lines of an input that is no terminal, and ends the session. -/
def runPiped (r : Registry) (S : Surroundings) (persona : Option Persona) (input : List UInt8)
    (s : Session) : Session :=
  (runLines r S persona (fileLines input) s).finish S

end Logbook.Session
