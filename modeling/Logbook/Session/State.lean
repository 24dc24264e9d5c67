import Logbook.Chat.Client
import Logbook.Command.Answer
import Logbook.History
import Logbook.Jobs
import Logbook.Persona
import Logbook.SessionLog

namespace Logbook

/-- What has become of a shell command: the lines that it has written in order, how it has ended, and
the files as it has left them. -/
structure ShellRun where
  lines : List String
  outcome : ShellOutcome
  tree : FileTree

structure Machine where
  cores : String
  uptime : String
  address : String
deriving Repr, DecidableEq

def Machine.report (m : Machine) : String :=
  "CPU cores: " ++ m.cores ++ "\nUptime: " ++ m.uptime ++ "s\nIP: " ++ m.address

/-- Everything outside a session that its answers depend on. Numbers count the uses so far. -/
structure Surroundings where
  clock : Nat → Instant
  ask : Persona → Nat → Chat.Request → Except Chat.Fault String
  shell : Nat → String → FileTree → ShellRun
  /-- What the jobs do while a command tells about them. -/
  jobSteps : Nat → List JobStep
  machine : Machine

structure Session where
  log : SessionLog
  history : History
  archive : Archive
  palette : Palette
  jobs : Jobs := Jobs.empty
  tree : FileTree
  readings : Nat := 0
  asked : Persona → Nat := fun _ => 0
  runs : Nat := 0
  polls : Nat := 0
  /-- The lines that have been printed, oldest first. -/
  printed : List String := []

namespace Session

def now (S : Surroundings) (s : Session) : Instant × Session :=
  (S.clock s.readings, { s with readings := s.readings + 1 })

def record (S : Surroundings) (tag text : String) (s : Session) : Session :=
  let (t, s) := s.now S
  { s with tree := s.log.append t tag text s.tree }

def print (lines : List String) (s : Session) : Session :=
  { s with printed := s.printed ++ lines }

/-- Prints an answer in the colour of its role, unless there is nothing to show. -/
def showAnswer (a : Answer) (s : Session) : Session :=
  if a.shown.isEmpty then s else s.print [s.palette.paint a.shown a.role]

/-- Asks a persona and records both sides. A failure is an answer too. -/
def query (S : Surroundings) (p : Persona) (text : String) (s : Session) : String × Session :=
  let profile := p.profile
  let s := s.record S (Tag.askedOf profile.tag) text
  let result := S.ask p (s.asked p) (Chat.request p text)
  let s := { s with asked := fun q => if q = p then s.asked q + 1 else s.asked q }
  match result with
  | .ok raw =>
    let answer := profile.shape raw
    (profile.replyPrefix ++ answer, s.record S profile.tag answer)
  | .error fault =>
    let answer := profile.errorPrefix ++ fault.message
    (answer, s.record S profile.tag answer)

/-- The answer of a persona. What starts like an error is one. -/
def ask (S : Surroundings) (p : Persona) (text : String) (s : Session) : Answer × Session :=
  let (answer, s) := s.query S p text
  let isError := p.profile.errorPrefix.toList.isPrefixOf answer.toList
  ({ text := answer, role := if isError then .error else .success, recorded := true }, s)

def finish (S : Surroundings) (s : Session) : Session :=
  let (t, s) := s.now S
  let (log, tree) := s.log.finish t s.tree
  { s with log, tree }

end Session

end Logbook
