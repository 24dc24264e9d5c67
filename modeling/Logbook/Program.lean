import Logbook.CommandLine.Basic
import Logbook.Session.Keyboard
import Logbook.Settings.Load

namespace Logbook

/-- Where the lines of a session come from. -/
inductive Console where
  | piped (input : List UInt8)
  | terminal (typed : String)

structure RunResult where
  code : Nat
  output : String
  errors : String
  tree : FileTree

namespace Program

/-- The status of a run whose log directory cannot be used. -/
def exitLogDirectory : Nat := 78

def version : String := "0.3.0"

def usage : String :=
  "\n".intercalate
    ["Usage: letsgo [OPTIONS] [COMMAND]", "", "Commands:",
      "  summarize [TERM]... [-n N] [--history] [--regex]  Print the last matching lines",
      "  history [COUNT]                                   Print the last commands",
      "  help [COMMAND]                                    Print this text", "", "Options:",
      "  --config PATH  --log-dir DIR  --history-file PATH  --max-log-files N",
      "  --lenient  --no-color  --persona NAME  -v, --verbose  -h, --help  -V, --version"]

def refused (t : FileTree) : CommandLine.Fault → RunResult
  | .displayHelp => { code := 0, output := usage ++ "\n", errors := "", tree := t }
  | .displayVersion => { code := 0, output := "letsgo " ++ version ++ "\n", errors := "", tree := t }
  | _ => { code := 2, output := "", errors := usage ++ "\n", tree := t }

def failed (t : FileTree) (message : String) (cause : Option String) : RunResult :=
  let because := match cause with
    | some cause => "\n\nCaused by:\n    " ++ cause
    | none => ""
  { code := 1, output := "", errors := "Error: " ++ message ++ because ++ "\n", tree := t }

def answered (p : Palette) (t : FileTree) (a : Answer) : RunResult :=
  let output := if a.shown.isEmpty then "" else p.paint a.shown a.role ++ "\n"
  { code := 0, output, errors := "", tree := t }

def unlines (lines : List String) : String :=
  String.join (lines.map fun line => line ++ "\n")

/-- The settings that a call runs with: defaults, files, environment and command line. -/
def settings (c : CommandLine) (user : User) (t : FileTree) : Except SettingsFault Settings :=
  (Settings.load user t c.config).map fun s => s.override c.overrides

def archiveOf (s : Settings) : Archive :=
  { logDir := s.logDir, historyFile := s.historyFile }

def logSettings (c : CommandLine) (s : Settings) : LogSettings :=
  { dir := s.logDir, mode := if c.lenient then .lenient else .strict, maxFiles := s.maxLogFiles }

/-- The session that settings lead to, at its first line. The clock is read for the session's name, and
again for its first record. -/
def openSession (S : Surroundings) (c : CommandLine) (s : Settings) (t : FileTree) :
    Except LogFault Session × FileTree :=
  let id := SessionId.ofInstant (S.clock 0)
  match SessionLog.start (logSettings c s) id (S.clock 1) t with
  | (.error fault, t) => (.error fault, t)
  | (.ok log, t) =>
    (.ok
      { log, history := ⟨s.historyFile⟩, archive := archiveOf s, palette := s.palette, tree := t,
        readings := 2 }, t)

def styled (p : Palette) (style text : String) : String :=
  if p.enabled then "\x1b[" ++ style ++ "m" ++ text ++ Palette.resetCode else text

def welcome (p : Palette) (log : Path) : List String :=
  let bright := styled p "92"
  let dim := styled p "2"
  [styled p "1;92" "letsgo" ++ " " ++ dim ("v" ++ version), dim "📝" ++ " Session log: " ++ dim log.text,
    "Type " ++ bright "/help" ++ " for commands, " ++ bright "exit" ++ " to leave.", ""]

def converse (S : Surroundings) (persona : Option Persona) (console : Console) (s : Session) : Session :=
  match console with
  | .piped input => s.runPiped Builtin.registry S persona input
  | .terminal typed =>
    s.runTerminal Builtin.registry S persona (welcome s.palette s.log.path) typed

def runSession (S : Surroundings) (c : CommandLine) (s : Settings) (console : Console) (t : FileTree) :
    RunResult :=
  match openSession S c s t with
  | (.ok session, _) =>
    let session := converse S c.persona console session
    { code := 0, output := unlines session.printed, errors := "", tree := session.tree }
  | (.error (.io fault), t) => failed t (LogFault.io fault).message (some fault.message)
  | (.error fault, t) =>
    { code := exitLogDirectory, output := ""
      errors := s.palette.paint ("letsgo: " ++ fault.message) .error ++ "\n", tree := t }

def historyLimit : Option Int → Nat
  | some n => n.toNat
  | none => Builtin.defaultHistoryLimit

def run (S : Surroundings) (user : User) (args : List String) (console : Console) (t : FileTree) :
    RunResult :=
  match CommandLine.parse args with
  | .error fault => refused t fault
  | .ok c =>
    match settings c user t with
    | .error (.io fault) => failed t (SettingsFault.io fault).message (some fault.message)
    | .error fault => failed t fault.message none
    | .ok s =>
      match c.action with
      | .summarize term limit history regex =>
        let summary := Summary.ofWords term limit history regex
        answered s.palette t (.ofOutcome ((archiveOf s).search t summary.query summary.source))
      | .history count =>
        answered s.palette t (.ofOutcome ((History.mk s.historyFile).last (historyLimit count) t))
      | .session => runSession S c s console t

end Program

end Logbook
