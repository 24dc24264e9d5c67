import Logbook.Environment
import Logbook.Settings.Palette
import Logbook.Text.Decimal
import Logbook.Toml.Value

namespace Logbook

structure Settings where
  prompt : String
  logDir : Path
  historyFile : Path
  maxLogFiles : Nat
  palette : Palette

structure Overrides where
  prompt : Option String := none
  logDir : Option Path := none
  historyFile : Option Path := none
  maxLogFiles : Option Nat := none
  color : Option Bool := none
  code : Role → Option String := fun _ => none

namespace Settings

def defaultPrompt : String := ">>"

def defaultMaxLogFiles : Nat := 100

/-- The settings when nothing else is said. Logs and history stand with the user's data, or in the
working directory if there is no place for that. -/
def default (user : User) : Settings :=
  let dir := match user.dataDir? with
    | some dir => dir.join "letsgo"
    | none => ⟨".letsgo"⟩
  { prompt := defaultPrompt
    logDir := dir.join "log"
    historyFile := dir.join "history"
    maxLogFiles := defaultMaxLogFiles
    palette := { enabled := true, code := Palette.defaultCode } }

/-- The settings with a further layer. -/
def override (s : Settings) (o : Overrides) : Settings :=
  { prompt := o.prompt.getD s.prompt
    logDir := o.logDir.getD s.logDir
    historyFile := o.historyFile.getD s.historyFile
    maxLogFiles := o.maxLogFiles.getD s.maxLogFiles
    palette :=
      { enabled := o.color.getD s.palette.enabled
        code := fun role => (o.code role).getD (s.palette.code role) } }

end Settings

namespace Overrides

def escapeChar : Char := '\x1b'

/-- A text in which the written forms `\033`, `\x1b` and `\e` have become the control character that they
name. -/
def decodeEscapes (s : String) : String :=
  let replace (old : String) := Text.replaceAll old.toList [escapeChar]
  String.ofList (replace "\\e" (replace "\\x1b" (replace "\\033" s.toList)))

/-- A path in which a tilde at the start stands for the home directory. -/
def expandHome (user : User) (s : String) : Path :=
  match s.toList, user.home? with
  | '~' :: '/' :: rest, some home => home.join (String.ofList rest)
  | _, _ => ⟨s⟩

/-- A count, written as a number or as a text with a number. -/
def count? : Toml.Value → Option Nat
  | .integer n => if 0 ≤ n then some n.toNat else none
  | .string s => Decimal.parseCount? (Text.trim s.toList)
  | _ => none

/-- The layer of a settings file. Entries of the wrong kind are left out. -/
def ofTable (user : User) (t : Toml.Table) : Overrides :=
  { prompt := (t.string? "prompt").map decodeEscapes
    logDir := (t.string? "log_dir").map (expandHome user)
    historyFile := (t.string? "history_file").map (expandHome user)
    maxLogFiles := (t.get? "max_log_files").bind count?
    color := t.boolean? "color"
    code := fun role =>
      ((t.table? "colors").bind fun colors => colors.string? role.name).map decodeEscapes }

def isSet (env : Environment) (name : String) : Bool :=
  (env name).any fun v => !v.isEmpty

def noColor (env : Environment) : Bool :=
  isSet env "NO_COLOR"
    || (env "LETSGO_NO_COLOR").any fun v => v == "1" || v.toList.map Char.toLower == "true".toList

/-- The layer of an environment, in which a tilde stands for the home of `user`. It can turn colours off
and not on. -/
def ofEnvironment (user : User) (env : Environment) : Overrides :=
  { prompt := (env "LETSGO_PROMPT").map decodeEscapes
    logDir := ((env "LETSGO_LOG_DIR").filter fun v => !v.isEmpty).map (expandHome user)
    historyFile := ((env "LETSGO_HISTORY_FILE").filter fun v => !v.isEmpty).map (expandHome user)
    maxLogFiles := (env "LETSGO_MAX_LOG_FILES").bind fun v => Decimal.parseCount? (Text.trim v.toList)
    color := if noColor env then some false else none
    code := fun role => (env role.envVariable).map decodeEscapes }

end Overrides

end Logbook
