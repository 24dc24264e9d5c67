import Logbook.Calc.Double
import Logbook.Command.Registry
import Logbook.Command.Summary

namespace Logbook.Builtin

def status : Command where
  name := "status"
  description := "CPU cores, uptime and IP address"
  run S _ s := (.success S.machine.report, s)

def time : Command where
  name := "time"
  description := "Current UTC time"
  run S _ s :=
    let (t, s) := s.now S
    (.success (Timestamp.toMicros t), s)

/-- What is recorded of a shell command, and what is left to show once its lines have been printed. -/
def shellAnswer : ShellOutcome → Answer
  | .completed output => { Answer.success output with display := some "" }
  | .failed output code =>
    { Answer.error (ShellOutcome.failed output code).describe with
      display := some (ShellOutcome.statusText code) }
  | outcome => .error outcome.describe

def shell : Command where
  name := "run"
  usage := "<cmd>"
  description := "Run a shell command (10s limit)"
  run S args s :=
    if args.isEmpty then (.error "usage: /run <cmd>", s)
    else
      let result := S.shell s.runs args s.tree
      let s := { s with runs := s.runs + 1, tree := result.tree }
      (shellAnswer result.outcome, s.print result.lines)

def bg : Command where
  name := "bg"
  usage := "<cmd>"
  description := "Run a shell command in the background"
  run _ args s :=
    if args.isEmpty then (.error "usage: /bg <cmd>", s)
    else
      let (id, jobs) := s.jobs.spawn args
      (.info ("[" ++ toString id ++ "] started: " ++ args), { s with jobs })

def jobsAnswer (events : List JobEvent) (running : List (Nat × String)) : Answer :=
  if !events.isEmpty then .success ("\n".intercalate (events.map JobEvent.text))
  else if running.isEmpty then .info "no jobs"
  else .info ("\n".intercalate (running.map fun (id, command) =>
    "[" ++ toString id ++ "] running: " ++ command))

/-- Tells about the jobs. They go on between the look at their events and the look at those that run. -/
def tellJobs (during : List JobStep) (js : Jobs) : Answer × Jobs :=
  let (events, js) := js.poll
  let js := during.foldl Jobs.step js
  (jobsAnswer events js.running, js)

def jobs : Command where
  name := "jobs"
  description := "New output from background jobs"
  run S _ s :=
    let (answer, jobs) := tellJobs (S.jobSteps s.polls) s.jobs
    (answer, { s with jobs, polls := s.polls + 1 })

def summarize : Command where
  name := "summarize"
  usage := "[term] [limit] [--history] [--regex]"
  description := "Last matching lines from the session logs"
  run _ args s :=
    let summary := Summary.parse args
    (.ofOutcome (s.archive.search s.tree summary.query summary.source), s)

def defaultHistoryLimit : Nat := 20

/-- How many commands are asked for, where a negative number asks for none. -/
def historyLimit? (args : String) : Option Nat :=
  if args.isEmpty then some defaultHistoryLimit
  else (Decimal.parseInteger? args.toList).map Int.toNat

def history : Command where
  name := "history"
  usage := "[N]"
  description := "Last N commands (default 20)"
  run _ args s :=
    match historyLimit? args with
    | none => (.error "usage: /history [N]", s)
    | some limit => (.ofOutcome (s.history.last limit s.tree), s)

def search : Command where
  name := "search"
  usage := "<pattern>"
  description := "Regex search over command history"
  run _ args s :=
    if args.isEmpty then (.error "usage: /search <pattern>", s)
    else
      let query : Query := { pattern := some args, limit := defaultHistoryLimit, mode := .regex }
      (.ofOutcome (s.archive.search s.tree query .history), s)

/-- The command before this one, which is itself the last one in the log. -/
def last : Command where
  name := "last"
  description := "Most recent command before this one"
  run _ _ s :=
    match s.archive.recentCommands s.tree 2 with
    | [previous, _] => (.success previous, s)
    | _ => (.info "no commands", s)

/-- A session log as a line. The current one has a star. -/
def sessionLine (own : String) (f : SessionFile) : String :=
  (if f.name = own then "*" else " ") ++ " " ++ f.name ++ "  " ++ toString f.size ++ " bytes  "
    ++ Timestamp.toSeconds f.modified

def sessions : Command where
  name := "sessions"
  description := "Session logs on disk, newest first"
  run _ _ s :=
    match s.log.sessions s.tree with
    | .error fault => (.error ("error: " ++ fault.message), s)
    | .ok [] => (.info "no logs", s)
    | .ok files => (.info ("\n".intercalate (files.map (sessionLine s.log.id.fileName))), s)

def evaluate : Command where
  name := "calc"
  usage := "<expr>"
  description := "Evaluate arithmetic: + - * / % ** ( )"
  run _ args s :=
    match Calc.evaluateDouble args with
    | .ok x => (.success (Calc.formatNumber x), s)
    | .error fault => (.error ("error: " ++ fault.message), s)

def ping : Command where
  name := "ping"
  description := "Reply with pong"
  run _ _ s := (.success "pong", s)

def ask (name description : String) (p : Persona) : Command where
  name := name
  usage := "<text>"
  description := description
  run S args s :=
    if args.isEmpty then (.error ("usage: /" ++ name ++ " <text>"), s) else s.ask S p args

def dive : Command := ask "dive" "Ask Johny (short answers)" .johny

def deep : Command := ask "deep" "Ask Tony (deep reasoning)" .tony

def padTo (width : Nat) (s : String) : String :=
  s ++ String.ofList (List.replicate (width - s.length) ' ')

/-- Synopsis and description of commands, a line for each, with the descriptions in one column. -/
def helpText (entries : List (String × String)) : String :=
  let width := (entries.map fun e => e.1.utf8ByteSize).foldl max 0
  "\n".intercalate (entries.map fun (synopsis, description) =>
    padTo width synopsis ++ "  " ++ description)

def help (entries : List (String × String)) : Command where
  name := "help"
  description := "Show this help message"
  run _ _ s := (.info (helpText entries), s)

/-- The commands but help, in the order in which help shows them. -/
def commands : List Command :=
  [status, time, shell, bg, jobs, summarize, history, search, last, sessions, evaluate, ping, dive,
    deep]

/-- The commands that every session has. Help comes last and shows itself too. -/
def registry : Registry :=
  let r := commands.foldl Registry.register Registry.empty
  r.register (help (r.entries ++ [("/help", "Show this help message")]))

end Logbook.Builtin
