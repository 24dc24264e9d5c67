import Logbook.Files.Tree
import Logbook.Record
import Logbook.Search
import Logbook.SessionId
import Logbook.Text.Utf8

namespace Logbook

/-- The lines of a file's bytes, where bytes that are no text are replaced. -/
def fileLines (bytes : List UInt8) : List String :=
  (Text.linesBy 10 bytes).map Utf8.decodeLossy

structure Archive where
  logDir : Path
  historyFile : Path
deriving Repr, DecidableEq

namespace Archive

def nameOrder (f g : String × File) : Bool :=
  f.1 ≤ g.1

/-- The contents of the files of a source in order, if the source exists. Files that cannot be read are
left out. -/
def contents? (a : Archive) (t : FileTree) : Source → Option (List (List UInt8))
  | .logs =>
    if !t.isDirectory a.logDir then none
    else match t.files a.logDir with
      | .error _ => none
      | .ok files =>
        let logs := (files.filter fun (name, _) => SessionId.isLogName name).mergeSort nameOrder
        some ((logs.filter fun (_, f) => Mode.canRead f.mode).map fun (_, f) => f.bytes)
  | .history =>
    if !t.isFile a.historyFile then none
    else match t.read a.historyFile with
      | .error _ => some []
      | .ok bytes => some [bytes]

def lines? (a : Archive) (t : FileTree) (source : Source) : Option (List String) :=
  (a.contents? t source).map fun files => files.flatMap fileLines

/-- Searches a source. Whether the source exists is found out before the pattern is looked at. -/
def search (a : Archive) (t : FileTree) (q : Query) (source : Source) : Outcome :=
  match a.lines? t source with
  | none => .noSource source
  | some lines =>
    match Matcher.compile q.pattern q.mode with
    | .error fault => .invalidPattern fault
    | .ok m => (scanLines m q.limit lines).outcome source

def userText? (line : String) : Option String :=
  (Record.parse? line).bind fun r => if r.tag = Tag.user then some r.text else none

def recentCommands (a : Archive) (t : FileTree) (limit : Nat) : List String :=
  match a.lines? t .logs with
  | none => []
  | some lines => ((lines.filterMap userText?).foldl Tail.push (Tail.empty limit)).items

def lastCommand? (a : Archive) (t : FileTree) : Option String :=
  (a.recentCommands t 1).getLast?

end Archive

end Logbook
