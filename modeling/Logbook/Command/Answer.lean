import Logbook.Search
import Logbook.Settings.Palette

namespace Logbook

/-- An answer: what is recorded, what is shown, and in which role. -/
structure Answer where
  text : String
  role : Role
  /-- What is shown in place of the text, where a part of it has been shown before. -/
  display : Option String := none
  recorded : Bool := false
deriving Repr, DecidableEq

namespace Answer

def success (text : String) : Answer :=
  { text, role := .success }

def info (text : String) : Answer :=
  { text, role := .info }

def error (text : String) : Answer :=
  { text, role := .error }

def shown (a : Answer) : String :=
  a.display.getD a.text

def ofOutcome (o : Outcome) : Answer :=
  match o with
  | .found _ => success o.text
  | .invalidPattern _ => error o.text
  | .noMatches => info o.text
  | .noSource _ => info o.text

end Answer

end Logbook
