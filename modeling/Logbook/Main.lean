import Logbook.Program
import Std.Time.DateTime.Timestamp

/-!
The command line. Arguments, environment, clock, input and the files that a run looks at are taken from the
machine, the run is worked out, and its output and its changes to the files are handed back. Shells and
the network are out of reach here, so their commands and requests fail.
-/

namespace Logbook.Machine

/-- The variables that a run looks at. -/
def watched : List String :=
  ["HOME", "XDG_DATA_HOME", "XDG_CONFIG_HOME", "LETSGO_LOG_DIR", "LETSGO_HISTORY_FILE",
    "LETSGO_MAX_LOG_FILES", "LETSGO_PROMPT", "NO_COLOR", "LETSGO_NO_COLOR", Chat.baseVariable]
    ++ Role.all.map Role.envVariable ++ Chat.keyVariables

def environment : IO Environment := do
  let values ← watched.mapM fun name => do return (name, ← IO.getEnv name)
  return fun name => (values.lookup name).join

/-- The home directory that the user database has for the account of this process. -/
def accountHome? : IO (Option String) := do
  try
    let status ← IO.FS.lines "/proc/self/status"
    let uid? := status.toList.findSome? fun line =>
      match line.splitOn "\t" with
      | "Uid:" :: uid :: _ => some uid
      | _ => none
    let accounts ← IO.FS.lines "/etc/passwd"
    return accounts.toList.findSome? fun line =>
      match line.splitOn ":" with
      | [_, _, uid, _, _, home, _] => if some uid = uid? then some home else none
      | _ => none
  catch _ => return none

def user : IO User := do
  return { env := ← environment, accountHome? := ← accountHome? }

def instantOf (seconds : Int) (nanos : Nat) : Instant :=
  (Instant.of? seconds nanos).getD ⟨0, 0, by decide⟩

def now : IO Instant := do
  let t ← Std.Time.Timestamp.now
  let nanos := t.toNanosecondsSinceUnixEpoch.val
  return instantOf (nanos / 1000000000) (nanos % 1000000000).toNat

def loadFile (t : FileTree) (p : Path) : IO FileTree := do
  try
    let bytes ← IO.FS.readBinFile p.text
    let (made, u) := t.makeParents p
    return t.orKeep (made *> u.write p bytes.toList)
  catch _ => return t

/-- The tree with a directory and the session logs in it as they are on disk. -/
def loadLogs (t : FileTree) (dir : Path) : IO FileTree := do
  try
    let real ← IO.FS.realPath dir.text
    let entries ← real.readDir
    let mut t := (t.makeDirectories dir).2
    for entry in entries do
      if SessionId.isLogName entry.fileName then
        let stamp := (← entry.path.metadata).modified
        t ← loadFile { t with clock := instantOf stamp.sec stamp.nsec.toNat } (dir.join entry.fileName)
    return t
  catch _ => return t

def pathOf (l : Location) : String :=
  "/" ++ "/".intercalate l

/-- Brings the disk from one state of the tree to another. -/
def store (before after : FileTree) : IO Unit := do
  for (l, e) in after.entries do
    match e, before.entry? l with
    | .directory _, none => IO.FS.createDirAll (pathOf l)
    | .file f, some (.file g) =>
      if f.bytes ≠ g.bytes then IO.FS.writeBinFile (pathOf l) ⟨f.bytes.toArray⟩
    | .file f, _ => IO.FS.writeBinFile (pathOf l) ⟨f.bytes.toArray⟩
    | _, _ => pure ()
  for (l, e) in before.entries do
    match e, after.entry? l with
    | .file _, none => IO.FS.removeFile (pathOf l)
    | _, _ => pure ()

def readAll (input : IO.FS.Stream) : IO (List UInt8) := do
  let mut bytes := ByteArray.empty
  repeat
    let block ← input.read 65536
    if block.isEmpty then break
    bytes := bytes ++ block
  return bytes.toList

/-- What a run without shell and network takes from its surroundings. -/
def surroundings (start : Instant) (env : Environment) : Surroundings where
  clock _ := start
  ask _ _ r := (Chat.Client.ofEnvironment env).complete (fun _ => .failed "no network") r
  shell _ _ t := { lines := [], outcome := .spawnFailed "no shell", tree := t }
  jobSteps _ := []
  machine := { cores := "1", uptime := "0.00", address := "unknown" }

/-- The files that a run looks at: its settings, and the logs and the history that these name. -/
def loadTree (start : Instant) (user : User) (args : List String) : IO FileTree := do
  let here := (Path.mk (← IO.currentDir).toString).names
  let t : FileTree :=
    { entries := [], clock := start, workingDirectory := here, nodup := List.nodup_nil }
  let t := (t.makeDirectoriesAt [] here).2
  match CommandLine.parse args with
  | .error _ => return t
  | .ok c =>
    let files := c.config.toList ++ (Settings.globalFile? user).toList ++ [Settings.projectFile]
    let t ← files.foldlM loadFile t
    match Program.settings c user t with
    | .error _ => return t
    | .ok s =>
      let t ← loadLogs t s.logDir
      let t ← loadFile { t with clock := start } s.historyFile
      return { t with clock := start }

end Logbook.Machine

open Logbook in
def main (args : List String) : IO UInt32 := do
  let user ← Machine.user
  let start ← Machine.now
  let before ← Machine.loadTree start user args
  let input ← match CommandLine.parse args with
    | .ok { action := .session, .. } => Machine.readAll (← IO.getStdin)
    | _ => pure []
  let result := Program.run (Machine.surroundings start user.env) user args (.piped input) before
  Machine.store before result.tree
  (← IO.getStdout).putStr result.output
  (← IO.getStderr).putStr result.errors
  return result.code.toUInt32
