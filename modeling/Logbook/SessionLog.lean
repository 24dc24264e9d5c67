import Logbook.Files.Tree
import Logbook.Record
import Logbook.SessionId
import Logbook.Text.Utf8

/-!
Session logs on disk. A log is opened once, takes records one line at a time, and is ended once; every
record is in the file before the next step begins. Failed writes are passed over, so that a session goes
on without its log.
-/

namespace Logbook

structure SessionFile where
  name : String
  size : Nat
  modified : Instant
deriving DecidableEq

namespace SessionFile

/-- The order of a listing: the newest first, and of two equally new ones the greater name. -/
def comesFirst (f g : SessionFile) : Bool :=
  g.modified.isBefore f.modified || (f.modified == g.modified && g.name ≤ f.name)

/-- The session logs in a directory. One that is missing holds none. -/
def list (dir : Path) (t : FileTree) : Except FileFault (List SessionFile) := do
  if !t.contains dir then return []
  let logs := (← t.files dir).filter fun (name, _) => SessionId.isLogName name
  return (logs.map fun (name, f) =>
    { name, size := f.bytes.length, modified := f.modified }).mergeSort comesFirst

end SessionFile

inductive LogMode where
  /-- The directory is made if it is missing, opening cannot fail, and no log is removed. -/
  | lenient
  /-- The directory must exist and be writable, and old logs are removed. -/
  | strict
deriving Repr, DecidableEq

/-- Where logs stand, and how many of them. -/
structure LogSettings where
  dir : Path
  mode : LogMode
  maxFiles : Nat
deriving Repr, DecidableEq

inductive LogFault where
  | dirMissing (dir : Path)
  | dirNotWritable (dir : Path)
  | io (fault : FileFault)
deriving Repr, DecidableEq

def LogFault.message : LogFault → String
  | .dirMissing dir => "Log directory " ++ dir.text ++ " does not exist"
  | .dirNotWritable dir => "No write permission for " ++ dir.text
  | .io fault => "IO error: " ++ fault.message

structure SessionLog where
  id : SessionId
  dir : Path
  ended : Bool := false
deriving DecidableEq

namespace SessionLog

def path (log : SessionLog) : Path :=
  log.id.path log.dir

def lineBytes (r : Record) : List UInt8 :=
  Utf8.encode (r.render ++ "\n")

def append (log : SessionLog) (now : Instant) (tag text : String) (t : FileTree) : FileTree :=
  t.orKeep (t.append log.path (lineBytes { time := now, tag, text }))

/-- Ends the log with a record, unless it has ended. -/
def finish (log : SessionLog) (now : Instant) (t : FileTree) : SessionLog × FileTree :=
  if log.ended then (log, t)
  else ({ log with ended := true }, log.append now Tag.session "end" t)

def removeOne (dir : Path) (state : Nat × FileTree) (f : SessionFile) : Nat × FileTree :=
  match state.2.remove (dir.join f.name) with
  | .ok t => (state.1 + 1, t)
  | .error _ => state

/-- Removes all logs of the directory but the `max` newest and the log itself, and counts them. -/
def prune (log : SessionLog) (max : Nat) (t : FileTree) : Nat × FileTree :=
  match SessionFile.list log.dir t with
  | .error _ => (0, t)
  | .ok sessions =>
    ((sessions.drop max).filter fun f => f.name ≠ log.id.fileName).foldl (removeOne log.dir) (0, t)

/-- Whether a directory exists and its permissions let somebody write. -/
def checkDirectory (dir : Path) (t : FileTree) : Except LogFault Unit :=
  match t.find dir with
  | .ok (.directory mode) => if Mode.isReadOnly mode then .error (.dirNotWritable dir) else .ok ()
  | _ => .error (.dirMissing dir)

def faultOf (dir : Path) : FileFault → LogFault
  | .permissionDenied => .dirNotWritable dir
  | fault => .io fault

/-- Opens the log of a session. A strict log has made sure of its file before any old log is removed;
if its file cannot be made, the log is ended again. -/
def start (s : LogSettings) (id : SessionId) (now : Instant) (t : FileTree) :
    Except LogFault SessionLog × FileTree :=
  let log : SessionLog := { id, dir := s.dir }
  match s.mode with
  | .lenient =>
    let (_, t) := t.makeDirectories s.dir
    (.ok log, log.append now Tag.session "start" t)
  | .strict =>
    match checkDirectory s.dir t with
    | .error fault => (.error fault, t)
    | .ok () =>
      match t.create log.path with
      | .error fault => (.error (faultOf s.dir fault), (log.finish now t).2)
      | .ok (_, _, t) =>
        let (_, t) := log.prune s.maxFiles t
        (.ok log, log.append now Tag.session "start" t)

def sessions (log : SessionLog) (t : FileTree) : Except FileFault (List SessionFile) :=
  SessionFile.list log.dir t

end SessionLog

end Logbook
