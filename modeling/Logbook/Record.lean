import Logbook.Time.Timestamp

/-!
Log records, one to a line: a timestamp, a blank, a tag, a colon and the text. The text is escaped so
that a record never spans lines.
-/

namespace Logbook

/-- A log record: what was said, by whom, and when. -/
structure Record where
  time : Instant
  tag : String
  text : String
deriving DecidableEq

namespace Tag

def user : String := "user"

/-- A reply of a command, or the echo of a line. -/
def assistant : String := "assistant"

/-- The start and end of a session. -/
def session : String := "session"

/-- What a persona was asked. It never counts as a command of the user. -/
def askedOf (persona : String) : String := persona ++ "_user"

end Tag

namespace Record

/-- The written form of one character. -/
def escapeChar : Char → List Char
  | '\\' => ['\\', '\\']
  | '\n' => ['\\', 'n']
  | '\r' => ['\\', 'r']
  | c => [c]

/-- The written form of a text: a backslash is doubled, and a line feed or carriage return is a
backslash and a letter. -/
def escape (cs : List Char) : List Char :=
  cs.flatMap escapeChar

/-- Reads the written form of a text. A backslash that starts no written form stands for itself. -/
def unescape : List Char → List Char
  | '\\' :: '\\' :: rest => '\\' :: unescape rest
  | '\\' :: 'n' :: rest => '\n' :: unescape rest
  | '\\' :: 'r' :: rest => '\r' :: unescape rest
  | '\\' :: c :: rest => '\\' :: c :: unescape rest
  | c :: rest => c :: unescape rest
  | [] => []

/-- A tag can be read back: it is not empty and holds no colon and no blank. -/
def validTag (tag : String) : Bool :=
  !tag.toList.isEmpty && tag.toList.all fun c => c != ':' && !Text.isBlank c

/-- The record as a line of the log. -/
def render (r : Record) : String :=
  String.ofList
    (Timestamp.renderMicros r.time ++ ' ' :: r.tag.toList ++ ':' :: escape r.text.toList)

def parse? (line : String) : Option Record := do
  let (stamp, rest) ← Text.splitFirst ' ' line.toList
  let time ← Timestamp.parse? stamp
  let (tag, text) ← Text.splitFirst ':' rest
  if tag.isEmpty || tag.any Text.isBlank then none
  else some { time, tag := String.ofList tag, text := String.ofList (unescape text) }

end Record

end Logbook
