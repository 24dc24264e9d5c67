import Logbook.Session.Turn
import Logbook.Terminal.Editor

namespace Logbook

/-- The commands that a word with a slash can be completed to, each with a space behind it. -/
def Registry.completions (r : Registry) (typed : List Char) : List (List Char) :=
  if typed.head? = some '/' ∧ !typed.any Text.isBlank then
    (r.names.filter fun name => typed.isPrefixOf name.toList).map fun name => name.toList ++ [' ']
  else []

namespace Session

def interruptionLimit : Nat := 2

/-- What is shown after an interruption that does not end the session. -/
def interruptionNote : String := "^C (press again to exit)"

/-- Handles keys up to the end of the session. `interruptions` is the number of interruptions since the
last line. -/
def runKeys (r : Registry) (S : Surroundings) (persona : Option Persona) :
    List Key → Editor → Nat → Session → Session
  | [], _, _, s => s
  | k :: rest, e, interruptions, s =>
    match e.press r.completions k with
    | (e, none) => runKeys r S persona rest e interruptions s
    | (_, some .ended) => s
    | (e, some .interrupted) =>
      if interruptions + 1 ≥ interruptionLimit then s
      else runKeys r S persona rest e (interruptions + 1) (s.print [interruptionNote])
    | (e, some (.line line)) =>
      match s.handle r S persona line with
      | (.skip, s) => runKeys r S persona rest e 0 s
      | (.exit, s) => s
      | (.answered a, s) => runKeys r S persona rest e 0 (s.showAnswer a)

/-- Handles what is typed at a terminal, and ends the session. Lines of earlier sessions can be called
back. -/
def runTerminal (r : Registry) (S : Surroundings) (persona : Option Persona) (welcome : List String)
    (typed : String) (s : Session) : Session :=
  let s := s.print welcome
  let editor := Editor.ofHistory (s.history.entries s.tree)
  let s := runKeys r S persona (Key.ofSent typed.toList) editor 0 s
  (s.print ["Goodbye!"]).finish S

end Session

end Logbook
