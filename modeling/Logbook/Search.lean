import Logbook.Pattern.Basic
import Logbook.Tail

namespace Logbook

inductive Source where
  /-- All session logs, in the order of their file names. -/
  | logs
  | history
deriving Repr, DecidableEq

/-- How a pattern is compared with a line. -/
inductive MatchMode where
  /-- The line contains the pattern. -/
  | substring
  /-- The pattern is a regular expression that matches somewhere in the line. -/
  | regex
deriving Repr, DecidableEq

/-- What is searched for, and how many lines are wanted. Without a pattern every line matches. -/
structure Query where
  pattern : Option String
  limit : Nat
  mode : MatchMode := .substring
deriving Repr, DecidableEq

inductive Matcher where
  | any
  | substring (needle : String)
  | regex (p : Pattern)

def Matcher.compile (pattern : Option String) (mode : MatchMode) : Except Pattern.Fault Matcher :=
  match pattern, mode with
  | none, _ => .ok .any
  | some p, .substring => .ok (.substring p)
  | some p, .regex => (Pattern.compile p).map .regex

def Matcher.isMatch : Matcher → String → Bool
  | .any, _ => true
  | .substring needle, line => Text.containsText needle.toList line.toList
  | .regex p, line => p.isMatch line

inductive Outcome where
  /-- The lines that were kept, oldest first. -/
  | found (lines : List String)
  /-- There were lines, and none was kept. -/
  | noMatches
  /-- The source does not exist or holds no line. -/
  | noSource (source : Source)
  | invalidPattern (fault : Pattern.Fault)
deriving Repr, DecidableEq

namespace Outcome

def lines : Outcome → List String
  | .found lines => lines
  | _ => []

def text : Outcome → String
  | .found lines => "\n".intercalate lines
  | .noMatches => "no matches"
  | .noSource .logs => "no logs"
  | .noSource .history => "no history"
  | .invalidPattern fault => "invalid pattern: " ++ fault.message

end Outcome

/-- What a scan has seen: the number of lines, and the last ones that matched. -/
structure Scan where
  seen : Nat
  kept : Tail String

def Scan.next (m : Matcher) (s : Scan) (line : String) : Scan :=
  { seen := s.seen + 1, kept := if m.isMatch line then s.kept.push line else s.kept }

/-- Looks at every line once and keeps the last `limit` of those that match. -/
def scanLines (m : Matcher) (limit : Nat) (lines : List String) : Scan :=
  lines.foldl (Scan.next m) { seen := 0, kept := Tail.empty limit }

def Scan.outcome (s : Scan) (source : Source) : Outcome :=
  if s.seen = 0 then .noSource source
  else if s.kept.isEmpty then .noMatches
  else .found s.kept.items

end Logbook
