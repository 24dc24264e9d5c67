import Logbook.Proofs.History
import Logbook.Proofs.Search.Reference
import Logbook.Proofs.Text.Parts

/-!
The two ways of reading a history: all its commands at once, or a search of its lines. They differ only in
the carriage returns before line feeds and in the blank lines.
-/

namespace Logbook.History

def withoutReturn (line : String) : String :=
  String.ofList (Text.dropCarriageReturn line.toList)

def notBlank (lines : List String) : List String :=
  lines.filter fun line => !Text.allBlank line.toList

/-- The commands on lines that all have a line feed behind them. -/
def endedCommands (lines : List String) : List String :=
  notBlank (lines.map withoutReturn)

/-- The commands on the lines of a file. Only the last line may lack a line feed behind it; `closed` says
that it has one. -/
def commandsIn (closed : Bool) (lines : List String) : List String :=
  if closed then endedCommands lines
  else endedCommands lines.dropLast ++ notBlank lines.getLast?.toList

theorem endedCommands_cons (line : String) (lines : List String) :
    endedCommands (line :: lines) = notBlank [withoutReturn line] ++ endedCommands lines := by
  rw [endedCommands, notBlank, List.map_cons, ← List.singleton_append, List.filter_append]
  rfl

theorem commandsIn_nil (closed : Bool) : commandsIn closed [] = [] := by
  cases closed <;> rfl

theorem commandsIn_cons (closed : Bool) (line : String) (lines : List String) :
    commandsIn (closed || lines.isEmpty) (line :: lines) =
      notBlank [withoutReturn line] ++ commandsIn closed lines := by
  cases lines with
  | nil =>
      rw [List.isEmpty_nil, Bool.or_true, commandsIn_nil]
      exact endedCommands_cons line []
  | cons next rest =>
      rw [List.isEmpty_cons, Bool.or_false]
      cases closed with
      | true => exact endedCommands_cons line (next :: rest)
      | false =>
          simp only [commandsIn, Bool.false_eq_true, if_false, List.dropLast_cons_cons,
            endedCommands_cons, List.getLast?_cons_cons, List.append_assoc]

/-- What can be read of a history's file: nothing, if there is none or its owner may not read it. -/
def bytes (h : History) (t : FileTree) : List UInt8 :=
  match t.read h.path with
  | .ok bytes => bytes
  | .error _ => []

/-- The last byte of a file ends a line. -/
def isClosed (bytes : List UInt8) : Bool :=
  bytes.getLast? = some 10

theorem isEmpty_fileLines (bytes : List UInt8) : (fileLines bytes).isEmpty = bytes.isEmpty := by
  have hlines := Text.hasLines_linesBy 10 bytes
  rw [fileLines, List.isEmpty_map]
  generalize Text.linesBy 10 bytes = lines at hlines
  cases hlines with
  | nil => rfl
  | last hne _ => simp [hne]
  | cons _ _ => simp

theorem isClosed_append_cons (line rest : List UInt8) :
    isClosed (line ++ 10 :: rest) = (isClosed rest || (fileLines rest).isEmpty) := by
  rw [isEmpty_fileLines]
  cases rest with
  | nil => simp [isClosed]
  | cons b rest => simp [isClosed, List.getLast?_append]

theorem fileLines_append_cons {line : List UInt8} (h : 10 ∉ line) (rest : List UInt8) :
    fileLines (line ++ 10 :: rest) = Utf8.decodeLossy line :: fileLines rest := by
  rw [fileLines, Text.linesBy_append_cons h, List.map_cons]
  rfl

theorem fileLines_of_not_mem {line : List UInt8} (hne : line ≠ []) (h : 10 ∉ line) :
    fileLines line = [Utf8.decodeLossy line] := by
  rw [fileLines, Text.linesBy_of_not_mem hne h]
  rfl

def commandsOfText (text : String) : List String :=
  ((Text.lines text.toList).filter fun cs => !Text.allBlank cs).map String.ofList

theorem commandsOfText_append_lineFeed {line : String} (h : '\n' ∉ line.toList) (rest : String) :
    commandsOfText (line ++ "\n" ++ rest) = notBlank [withoutReturn line] ++ commandsOfText rest := by
  have hlines : Text.lines (line ++ "\n" ++ rest).toList =
      Text.dropCarriageReturn line.toList :: Text.lines rest.toList := by
    rw [← Text.lines_append_cons h]
    simp
  rw [commandsOfText, hlines, ← List.singleton_append, List.filter_append, List.map_append, notBlank,
    withoutReturn]
  cases hblank : Text.allBlank (Text.dropCarriageReturn line.toList) <;> simp [hblank, commandsOfText]

theorem commandsOfText_of_not_mem {line : String} (hne : line ≠ "") (h : '\n' ∉ line.toList) :
    commandsOfText line = notBlank [line] := by
  rw [commandsOfText, Text.lines_of_not_mem (by simpa using hne) h, notBlank]
  cases hblank : Text.allBlank line.toList <;> simp [hblank]

theorem commandsOfText_decodeLossy (bytes : List UInt8) :
    commandsOfText (Utf8.decodeLossy bytes) = commandsIn (isClosed bytes) (fileLines bytes) := by
  have hlines := Text.hasLines_linesBy 10 bytes
  generalize Text.linesBy 10 bytes = lines at hlines
  -- By the lines of the bytes. A line feed starts a character, so what stands before it is read by itself.
  induction hlines with
  | nil => rfl
  | last hne hnot =>
      rename_i line
      have hopen : isClosed line = false := by
        rw [isClosed, decide_eq_false_iff_not]
        exact fun hlast => hnot (List.mem_of_getLast? hlast)
      rw [commandsOfText_of_not_mem (mt Utf8.decodeLossy_eq_empty_iff.mp hne)
        (Utf8.not_lineFeed_mem_decodeLossy hnot), fileLines_of_not_mem hne hnot, hopen]
      rfl
  | cons hnot _ ih =>
      rename_i line rest _ _
      rw [Utf8.decodeLossy_append_lineFeed,
        commandsOfText_append_lineFeed (Utf8.not_lineFeed_mem_decodeLossy hnot), ih,
        fileLines_append_cons hnot, isClosed_append_cons, commandsIn_cons]

theorem entries_eq_commandsIn (h : History) (t : FileTree) :
    h.entries t = commandsIn (isClosed (h.bytes t)) (fileLines (h.bytes t)) := by
  rw [← commandsOfText_decodeLossy, entries, bytes]
  cases t.read h.path with
  | error fault => rfl
  | ok bytes => rfl

theorem bytes_of_read {h : History} {t : FileTree} {bytes : List UInt8}
    (hread : t.read h.path = .ok bytes) : h.bytes t = bytes := by
  rw [History.bytes, hread]

theorem bytes_of_find {h : History} {t : FileTree} {f : File} (hfind : t.find h.path = .ok (.file f)) :
    h.bytes t = f.readable := by
  rw [bytes, File.readable, FileTree.read, hfind]
  cases hmode : Mode.canRead f.mode <;> simp [bind, Except.bind, hmode]

theorem bytes_eq_nil {h : History} {t : FileTree} (hnone : ∀ f, t.find h.path ≠ .ok (.file f)) :
    h.bytes t = [] := by
  rw [bytes]
  cases hread : t.read h.path with
  | error fault => rfl
  | ok bytes =>
      obtain ⟨f, hfind, -, -⟩ := FileTree.read_eq_ok_iff.mp hread
      exact absurd hfind (hnone f)

theorem entries_eq_nil {h : History} {t : FileTree} (hnone : ∀ f, t.find h.path ≠ .ok (.file f)) :
    h.entries t = [] := by
  rw [entries_eq_commandsIn, bytes_eq_nil hnone, fileLines_nil, commandsIn_nil]

theorem lines_search_history {h : History} {t : FileTree} {a : Archive} (ha : a.historyFile = h.path)
    (mode : MatchMode) {limit : Nat} (hlimit : (fileLines (h.bytes t)).length ≤ limit) :
    (a.search t { pattern := none, limit, mode } .history).lines = fileLines (h.bytes t) := by
  by_cases hsource : a.HasSource t .history
  · obtain ⟨f, hfind⟩ := hsource
    have hlines : a.lines? t .history = some (fileLines f.readable) :=
      Archive.lines?_history_of_find hfind
    rw [ha] at hfind
    rw [bytes_of_find hfind] at hlimit ⊢
    exact Archive.lines_search_all hlines mode hlimit
  · have hnone : ∀ f, t.find h.path ≠ .ok (.file f) := fun f hfind => hsource ⟨f, by rw [ha, hfind]⟩
    rw [Archive.search, Archive.lines?_eq_none_iff.mpr hsource, bytes_eq_nil hnone, fileLines_nil]
    rfl

theorem last_of_read {h : History} {t : FileTree} {bytes : List UInt8}
    (hread : t.read h.path = .ok bytes) (hne : bytes ≠ []) (limit : Nat) :
    h.last limit t = if limit = 0 then .noMatches else .found ((fileLines bytes).rtake limit) := by
  obtain ⟨f, hfind, hmode, rfl⟩ := FileTree.read_eq_ok_iff.mp hread
  have hlines : (Archive.mk ⟨""⟩ h.path).lines? t .history = some (fileLines f.bytes) := by
    rw [Archive.lines?_history_of_find hfind, File.readable, if_pos hmode]
    rfl
  have hsome : fileLines f.bytes ≠ [] := by
    rw [← List.isEmpty_eq_false_iff, isEmpty_fileLines, List.isEmpty_eq_false_iff]
    exact hne
  exact Archive.search_all hlines hsome limit

theorem last_of_none {h : History} {t : FileTree} (hnone : ∀ f, t.find h.path ≠ .ok (.file f))
    (limit : Nat) : h.last limit t = .noSource .history := by
  have hsource : ¬(Archive.mk ⟨""⟩ h.path).HasSource t .history := fun ⟨f, hfind⟩ => hnone f hfind
  rw [last, Archive.search, Archive.lines?_eq_none_iff.mpr hsource]

/-- All commands of the history are the commands on the lines that a search of the history finds, if there
are no more lines than are wanted. For the whole file may be decoded and then cut into lines, or cut and
then decoded line by line. -/
theorem entries_eq_of_search (h : History) (t : FileTree) (a : Archive) (ha : a.historyFile = h.path)
    (mode : MatchMode) (limit : Nat) (hlimit : (fileLines (h.bytes t)).length ≤ limit) :
    h.entries t =
        commandsIn (isClosed (h.bytes t)) (a.search t { pattern := none, limit, mode } .history).lines ∧
      (Utf8.decodeLossy (h.bytes t)).toList.splitOn '\n' =
        ((h.bytes t).splitOn 10).map fun piece => (Utf8.decodeLossy piece).toList := by
  refine ⟨?_, Utf8.splitOn_decodeLossy (h.bytes t)⟩
  rw [lines_search_history ha mode hlimit]
  exact entries_eq_commandsIn h t

def treeOf (bytes : List UInt8) : FileTree where
  entries := [(["history"], .file { bytes, modified := Instant.latest, mode := Mode.newFile })]
  clock := Instant.latest
  workingDirectory := []
  nodup := by simp

def rootHistory : History :=
  ⟨⟨"/history"⟩⟩

/-- A history with an unfinished character before a line feed, a line feed behind a carriage return, a blank
line, carriage returns elsewhere and a last line without an end. -/
def mixedBytes : List UInt8 :=
  [0xE2, 0x82, 10] ++ Utf8.encode "a\r\n \t\r\nb\rc\nd\r"

theorem mixed_history_read_both_ways :
    let a : Archive := { logDir := ⟨""⟩, historyFile := ⟨"/history"⟩ }
    let t := treeOf mixedBytes
    (fileLines (rootHistory.bytes t)).length ≤ 5 ∧
      (a.search t { pattern := none, limit := 5 } .history).lines =
        ["\uFFFD", "a\r", " \t\r", "b\rc", "d\r"] ∧
      rootHistory.entries t = ["\uFFFD", "a", "b\rc", "d\r"] := by
  intro a t
  have hcount : (fileLines (rootHistory.bytes t)).length ≤ 5 := by decide +kernel
  have hlines : (a.search t { pattern := none, limit := 5 } .history).lines =
      ["\uFFFD", "a\r", " \t\r", "b\rc", "d\r"] := by
    decide +kernel
  have hentries := (entries_eq_of_search rootHistory t a rfl .substring 5 hcount).1
  refine ⟨hcount, hlines, hentries.trans ?_⟩
  rw [hlines]
  decide +kernel

end Logbook.History
