import Mathlib.Data.List.DropRight
import Logbook.Proofs.History.Reading
import Logbook.Proofs.SessionLog.Lines

namespace Logbook

namespace History

/-- A command without the carriage returns and line feeds at its end. -/
def withoutEnds (command : String) : List Char :=
  command.toList.rdropWhile fun c => c = '\r' ∨ c = '\n'

def onOneLine (cs : List Char) : String :=
  String.ofList (cs.map fun c => if c = '\n' then ' ' else c)

def heldAs (command : String) : String :=
  onOneLine (withoutEnds command)

/-- What is held of some commands: without the ends of lines behind them, without those that are blank, and
with blanks in place of line feeds. -/
def held (commands : List String) : List String :=
  ((commands.map withoutEnds).filter fun cs => !Text.allBlank cs).map onOneLine

theorem withoutEnds_eq (command : String) :
    withoutEnds command = Text.dropEndWhile (fun c => c == '\r' || c == '\n') command.toList := by
  have hends : (fun c => decide (c = '\r' ∨ c = '\n')) = fun c : Char => c == '\r' || c == '\n' := by
    funext c
    simp [beq_eq_decide]
  rw [withoutEnds, hends]
  rfl

theorem allBlank_withoutEnds (command : String) :
    Text.allBlank (withoutEnds command) = Text.allBlank command.toList := by
  obtain ⟨ends, hcommand, hends⟩ :=
    Text.exists_eq_dropEndWhile_append (fun c => c == '\r' || c == '\n') command.toList
  have hblank : Text.allBlank ends = true := by
    rw [Text.allBlank, List.all_eq_true]
    intro c hc
    rcases Bool.or_eq_true_iff.mp (hends c hc) with hreturn | hfeed
    · rw [beq_iff_eq.mp hreturn]
      decide
    · rw [beq_iff_eq.mp hfeed]
      decide
  rw [hcommand, ← withoutEnds_eq, Text.allBlank, Text.allBlank, List.all_append]
  rw [← Text.allBlank, ← Text.allBlank, hblank, Bool.and_true]

theorem entry?_eq_ite (command : String) :
    entry? command =
      if Text.allBlank (withoutEnds command) then none else some (heldAs command) := by
  rw [heldAs, withoutEnds_eq, onOneLine]
  simp only [beq_iff_eq, entry?]

theorem entry?_of_not_blank {command : String} (h : Text.allBlank (withoutEnds command) = false) :
    entry? command = some (heldAs command) := by
  rw [entry?_eq_ite, h]
  rfl

theorem held_cons (command : String) (commands : List String) :
    held (command :: commands) = held [command] ++ held commands := by
  rw [held, List.map_cons, ← List.singleton_append, List.filter_append, List.map_append]
  rfl

theorem held_of_not_blank {command : String} (h : Text.allBlank (withoutEnds command) = false) :
    held [command] = [heldAs command] := by
  simp [held, heldAs, h]

theorem held_eq_nil_iff {command : String} :
    held [command] = [] ↔ Text.allBlank (withoutEnds command) = true := by
  simp [held]

theorem append_of_held_eq_nil (h : History) {command : String} (hnone : held [command] = [])
    (t : FileTree) : h.append command t = t := by
  rw [append, entry?_eq_ite, if_pos (held_eq_nil_iff.mp hnone)]

theorem isEntry_onOneLine {cs : List Char} (hblank : Text.allBlank cs = false)
    (hlast : cs.getLast? ≠ some '\r') : IsEntry (onOneLine cs) := by
  refine ⟨?_, ?_, ?_⟩
  · rw [Text.allBlank, List.all_eq_false] at hblank ⊢
    obtain ⟨c, hc, hnot⟩ := hblank
    refine ⟨c, ?_, hnot⟩
    have hfeed : c ≠ '\n' := by
      rintro rfl
      exact hnot (by decide)
    rw [onOneLine, String.toList_ofList]
    exact List.mem_map.mpr ⟨c, hc, if_neg hfeed⟩
  · intro hmem
    rw [onOneLine, String.toList_ofList] at hmem
    obtain ⟨c, -, hc⟩ := List.mem_map.mp hmem
    split at hc
    · exact absurd hc (by decide)
    · exact absurd hc ‹_›
  · intro hreturn
    rw [onOneLine, String.toList_ofList, List.getLast?_map] at hreturn
    obtain ⟨c, hc, hc'⟩ := Option.map_eq_some_iff.mp hreturn
    split at hc'
    · exact absurd hc' (by decide)
    · exact hlast (hc' ▸ hc)

theorem isEntry_heldAs {command : String} (h : Text.allBlank (withoutEnds command) = false) :
    IsEntry (heldAs command) := by
  refine isEntry_onOneLine h fun hlast => ?_
  rw [withoutEnds_eq] at hlast
  exact absurd (Text.of_getLast?_dropEndWhile hlast) (by decide)

theorem isEntry_of_mem_held {commands : List String} {line : String} (h : line ∈ held commands) :
    IsEntry line := by
  obtain ⟨cs, hcs, rfl⟩ := List.mem_map.mp h
  obtain ⟨hmem, hblank⟩ := List.mem_filter.mp hcs
  obtain ⟨command, -, rfl⟩ := List.mem_map.mp hmem
  exact isEntry_heldAs (by simpa using hblank)

theorem fileLines_bytesOf {ls : List String} (h : ∀ line ∈ ls, IsEntry line) :
    fileLines (bytesOf ls) = ls :=
  fileLines_flatMap_encode fun line hline => (h line hline).lineFeed

def appendAll (h : History) (commands : List String) (t : FileTree) : FileTree :=
  commands.foldl (fun t command => h.append command t) t

theorem appendAll_cons (h : History) (command : String) (commands : List String) (t : FileTree) :
    h.appendAll (command :: commands) t = h.appendAll commands (h.append command t) :=
  rfl

end History

theorem HoldsCommands.append_history {h : History} {t : FileTree} {ls : List String}
    (hheld : HoldsCommands t h.path ls) (command : String)
    (hstart : ls = [] → History.held [command] ≠ [] → HistoryCanStart t h.path) :
    HoldsCommands (h.append command t) h.path (ls ++ History.held [command]) := by
  by_cases hnone : History.held [command] = []
  · rw [h.append_of_held_eq_nil hnone, hnone, List.append_nil]
    exact hheld
  · have hblank : Text.allBlank (History.withoutEnds command) = false :=
      Bool.eq_false_of_not_eq_true (mt History.held_eq_nil_iff.mpr hnone)
    obtain ⟨u, hparents, -, hwrite, hheld⟩ := hheld.exists_way fun hnil => hstart hnil hnone
    obtain ⟨l, hlocate, happended⟩ :=
      History.append_of_entry? (History.entry?_of_not_blank hblank) hparents hwrite
    obtain rfl := FileTree.resolve_of_locate hlocate
    rw [History.held_of_not_blank hblank]
    exact hheld.append hwrite hlocate happended

theorem HoldsCommands.appendAll {h : History} {t : FileTree} {ls : List String}
    (hheld : HoldsCommands t h.path ls) (commands : List String)
    (hstart : ls = [] → History.held commands ≠ [] → HistoryCanStart t h.path) :
    HoldsCommands (h.appendAll commands t) h.path (ls ++ History.held commands) := by
  induction commands generalizing t ls with
  | nil =>
      rw [show History.held [] = [] from rfl, List.append_nil]
      exact hheld
  | cons command commands ih =>
      rw [History.held_cons] at hstart ⊢
      rw [History.appendAll_cons, ← List.append_assoc]
      refine ih (hheld.append_history command fun hnil hsome => hstart hnil ?_) fun hnil hmore => ?_
      · exact List.append_ne_nil_of_left_ne_nil hsome _
      · -- Nothing has been held so far, so the tree is the one at the start.
        obtain ⟨hnil, hnone⟩ := List.append_eq_nil_iff.mp hnil
        rw [h.append_of_held_eq_nil hnone]
        exact hstart hnil (List.append_ne_nil_of_right_ne_nil _ hmore)

namespace History

theorem appendAll_of_held_eq_nil (h : History) {commands : List String} (hnone : held commands = [])
    (t : FileTree) : h.appendAll commands t = t := by
  induction commands with
  | nil => rfl
  | cons command commands ih =>
      rw [held_cons, List.append_eq_nil_iff] at hnone
      rw [appendAll_cons, h.append_of_held_eq_nil hnone.1]
      exact ih hnone.2

/-- The commands added to a history that starts without a file are in the file one to a line, as they are
held, and are read back in either way. -/
theorem appendAll_reads_back (h : History) (t : FileTree) (commands : List String)
    (habsent : t.entry? (t.resolve h.path) = none)
    (hstart : held commands ≠ [] → HistoryCanStart t h.path) :
    let u := h.appendAll commands t
    (held commands = [] → u = t) ∧
      (held commands ≠ [] → u.read h.path = .ok (bytesOf (held commands))) ∧
      h.entries u = held commands ∧
      ∀ n, h.last n u =
        if held commands = [] then .noSource .history
        else if n = 0 then .noMatches
        else .found ((held commands).rtake n) := by
  intro u
  have hnone : ∀ f, t.find h.path ≠ .ok (.file f) := by
    intro f hfind
    simp [FileTree.entry?_of_find hfind] at habsent
  have hlines : ∀ line ∈ held commands, IsEntry line := fun _ => isEntry_of_mem_held
  have hnothing : HoldsCommands t h.path [] := Or.inl ⟨rfl, habsent⟩
  have hheld : HoldsCommands u h.path (held commands) := hnothing.appendAll commands fun _ => hstart
  by_cases hempty : held commands = []
  · have hsame : u = t := appendAll_of_held_eq_nil h hempty t
    simp only [hempty, hsame, ne_eq, not_true_eq_false, false_implies, true_implies, true_and, if_true]
    exact ⟨entries_eq_nil hnone, last_of_none hnone⟩
  · have hread : u.read h.path = .ok (bytesOf (held commands)) :=
      (hheld.resolve_left fun hnil => hempty hnil.1).2
    have hne : bytesOf (held commands) ≠ [] := by
      obtain ⟨line, rest, hcons⟩ := List.exists_cons_of_ne_nil hempty
      simp [bytesOf, hcons]
    refine ⟨fun hnil => absurd hnil hempty, fun _ => hread, entries_of_read hread hlines, fun n => ?_⟩
    rw [last_of_read hread hne, fileLines_bytesOf hlines, if_neg hempty]

/-- Commands with ends of lines behind and within them, and blank ones. -/
def rawCommands : List String :=
  ["ls -l \r\n\n", " \t\r\n", "echo a\necho\r\nb\n", "", "\u00a0x\rz"]

def emptyTree : FileTree where
  entries := []
  clock := Instant.latest
  workingDirectory := []
  nodup := by simp

def nestedHistory : History :=
  ⟨⟨"/home/me/history"⟩⟩

theorem raw_commands_read_back :
    let u := nestedHistory.appendAll rawCommands emptyTree
    emptyTree.entry? (emptyTree.resolve nestedHistory.path) = none ∧
      HistoryCanStart emptyTree nestedHistory.path ∧
      u.read nestedHistory.path = .ok (Utf8.encode "ls -l \necho a echo\r b\n\u00a0x\rz\n") ∧
      nestedHistory.entries u = ["ls -l ", "echo a echo\r b", "\u00a0x\rz"] ∧
      nestedHistory.last 2 u = .found ["echo a echo\r b", "\u00a0x\rz"] := by
  intro u
  have habsent : emptyTree.entry? (emptyTree.resolve nestedHistory.path) = none := by decide +kernel
  have hstart : HistoryCanStart emptyTree nestedHistory.path := by decide +kernel
  have hheld : held rawCommands = ["ls -l ", "echo a echo\r b", "\u00a0x\rz"] := by decide +kernel
  obtain ⟨-, hread, hentries, hlast⟩ :=
    appendAll_reads_back nestedHistory emptyTree rawCommands habsent fun _ => hstart
  rw [hheld] at hread hentries hlast
  refine ⟨habsent, hstart, (hread (List.cons_ne_nil _ _)).trans ?_, hentries, hlast 2⟩
  decide +kernel

theorem exists_ended (bytes : List UInt8) :
    ∃ ended rest, bytes = ended ++ rest ∧ (ended = [] ∨ ended.getLast? = some 10) ∧ 10 ∉ rest := by
  obtain ⟨rest, hbytes, hrest⟩ := Text.exists_eq_dropEndWhile_append (· != (10 : UInt8)) bytes
  refine ⟨_, rest, hbytes, ?_, fun hmem => by simpa using hrest 10 hmem⟩
  cases hlast : (Text.dropEndWhile (· != (10 : UInt8)) bytes).getLast? with
  | none => exact Or.inl (List.getLast?_eq_none_iff.mp hlast)
  | some b =>
      have hb := Text.of_getLast?_dropEndWhile hlast
      exact Or.inr (by simpa using hb)

theorem endedCommands_append (lines more : List String) :
    endedCommands (lines ++ more) = endedCommands lines ++ endedCommands more := by
  simp [endedCommands, notBlank]

theorem IsEntry.endedCommands_eq {line : String} (h : IsEntry line) : endedCommands [line] = [line] := by
  rw [endedCommands, List.map_singleton, withoutReturn, Text.dropCarriageReturn, if_neg h.last,
    String.ofList_toList, History.notBlank]
  simp [h.notBlank]

theorem IsEntry.append {line : String} (h : IsEntry line) {front : String} (hfront : '\n' ∉ front.toList) :
    IsEntry (front ++ line) := by
  have hne : line.toList ≠ [] := by
    intro hnil
    have hblank := h.notBlank
    simp [hnil, Text.allBlank] at hblank
  refine ⟨?_, ?_, ?_⟩
  · rw [String.toList_append, Text.allBlank, List.all_append, ← Text.allBlank, ← Text.allBlank,
      h.notBlank, Bool.and_false]
  · rw [String.toList_append, List.mem_append, not_or]
    exact ⟨hfront, h.lineFeed⟩
  · rw [String.toList_append, List.getLast?_append_of_ne_nil _ hne]
    exact h.last

theorem commandsIn_append {ended rest : List UInt8} (hended : ended = [] ∨ ended.getLast? = some 10)
    (hrest : 10 ∉ rest) :
    commandsIn (isClosed (ended ++ rest)) (fileLines (ended ++ rest)) =
      endedCommands (fileLines ended) ++ notBlank [Utf8.decodeLossy rest] := by
  by_cases hnil : rest = []
  · rw [hnil, List.append_nil, show notBlank [Utf8.decodeLossy []] = [] from rfl, List.append_nil]
    rcases hended with rfl | hlast
    · rfl
    · rw [commandsIn, isClosed, decide_eq_true hlast]
      rfl
  · have hopen : isClosed (ended ++ rest) = false := by
      rw [isClosed, decide_eq_false_iff_not, List.getLast?_append_of_ne_nil _ hnil]
      exact fun hlast => hrest (List.mem_of_getLast? hlast)
    rw [hopen, fileLines_append hended, fileLines_of_not_mem hnil hrest]
    simp [commandsIn]

theorem fileLines_append_line {ended rest : List UInt8}
    (hended : ended = [] ∨ ended.getLast? = some 10) (hrest : 10 ∉ rest) {line : String}
    (hline : '\n' ∉ line.toList) :
    fileLines (ended ++ rest ++ (Utf8.encode line ++ [10])) =
      fileLines ended ++ [Utf8.decodeLossy rest ++ line] := by
  have hnot : 10 ∉ rest ++ Utf8.encode line := by
    rw [List.mem_append, not_or]
    exact ⟨hrest, fun hmem => hline (Utf8.lineFeed_mem_encode hmem)⟩
  rw [List.append_assoc, fileLines_append hended, ← List.append_assoc, fileLines_append_cons hnot,
    Utf8.decodeLossy_append_encode, fileLines_nil]

theorem read_append {h : History} {t : FileTree} {bytes : List UInt8} {command : String}
    (hread : t.read h.path = .ok bytes) (hwrite : t.CanWrite h.path)
    (hcommand : Text.allBlank (withoutEnds command) = false) :
    (h.append command t).read h.path = .ok (bytes ++ (Utf8.encode (heldAs command) ++ [10])) := by
  obtain ⟨f, hfind, -⟩ := FileTree.read_eq_ok_iff.mp hread
  obtain ⟨l, hlocate, happended⟩ := append_of_entry? (entry?_of_not_blank hcommand)
    (FileTree.makeParents_of_locate (FileTree.locate_of_find hfind)) hwrite
  exact happended.read hlocate hread

/-- A command that is added comes behind the commands held before, and is the last one, exactly if the
file was empty or ended with a line feed. Otherwise it goes onto the line that had no end. -/
theorem append_adds_entry_iff (h : History) (t : FileTree) (bytes : List UInt8) (command : String)
    (hread : t.read h.path = .ok bytes) (hwrite : t.CanWrite h.path)
    (hcommand : Text.allBlank command.toList = false) :
    let u := h.append command t
    ∃ ended rest, bytes = ended ++ rest ∧ (ended = [] ∨ ended.getLast? = some 10) ∧ 10 ∉ rest ∧
      u.read h.path = .ok (bytes ++ (Utf8.encode (heldAs command) ++ [10])) ∧
      h.last 1 u = .found [Utf8.decodeLossy rest ++ heldAs command] ∧
      h.entries t = endedCommands (fileLines ended) ++ notBlank [Utf8.decodeLossy rest] ∧
      h.entries u =
        endedCommands (fileLines ended) ++ [Utf8.decodeLossy rest ++ heldAs command] ∧
      (h.last 1 u = .found [heldAs command] ∧ h.entries u = h.entries t ++ [heldAs command] ↔
        bytes = [] ∨ bytes.getLast? = some 10) := by
  intro u
  obtain ⟨ended, rest, rfl, hended, hrest⟩ := exists_ended bytes
  rw [← allBlank_withoutEnds] at hcommand
  have hentry : IsEntry (heldAs command) := isEntry_heldAs hcommand
  have hnew : u.read h.path = .ok (ended ++ rest ++ (Utf8.encode (heldAs command) ++ [10])) :=
    read_append hread hwrite hcommand
  have hlines := fileLines_append_line hended hrest hentry.lineFeed
  have hlast : h.last 1 u = .found [Utf8.decodeLossy rest ++ heldAs command] := by
    rw [last_of_read hnew (by simp), hlines, if_neg one_ne_zero, List.rtake_concat_succ,
      List.rtake_zero, List.nil_append]
  have hbefore : h.entries t = endedCommands (fileLines ended) ++ notBlank [Utf8.decodeLossy rest] := by
    rw [entries_eq_commandsIn, bytes_of_read hread, commandsIn_append hended hrest]
  have hafter : h.entries u =
      endedCommands (fileLines ended) ++ [Utf8.decodeLossy rest ++ heldAs command] := by
    have hline := hentry.append (Utf8.not_lineFeed_mem_decodeLossy hrest)
    rw [entries_eq_commandsIn, bytes_of_read hnew, hlines, isClosed, ← List.append_assoc,
      List.getLast?_concat, decide_eq_true rfl, commandsIn, if_pos rfl, endedCommands_append,
      hline.endedCommands_eq]
  refine ⟨ended, rest, rfl, hended, hrest, hnew, hlast, hbefore, hafter, ?_⟩
  rw [hlast, hafter, hbefore]
  constructor
  · rintro ⟨hexact, -⟩
    have hlists := congrArg String.toList (List.singleton_inj.mp (Outcome.found.inj hexact))
    rw [String.toList_append, List.append_left_eq_self, String.toList_eq_nil_iff,
      Utf8.decodeLossy_eq_empty_iff] at hlists
    rwa [hlists, List.append_nil]
  · intro hclosed
    have hnil : rest = [] := by
      by_contra hne
      rcases hclosed with hempty | hfeed
      · exact hne (List.append_eq_nil_iff.mp hempty).2
      · rw [List.getLast?_append_of_ne_nil _ hne] at hfeed
        exact hrest (List.mem_of_getLast? hfeed)
    rw [hnil, Utf8.decodeLossy_eq_empty_iff.mpr rfl, String.empty_append]
    exact ⟨rfl, by simp [notBlank, Text.allBlank]⟩

theorem ended_history_takes_command :
    let t := treeOf (Utf8.encode "ls\r\n\n pwd\n")
    let u := rootHistory.append "cd a\nb \r\n" t
    t.read rootHistory.path = .ok (Utf8.encode "ls\r\n\n pwd\n") ∧ t.CanWrite rootHistory.path ∧
      Text.allBlank "cd a\nb \r\n".toList = false ∧
      rootHistory.last 1 u = .found ["cd a b "] ∧
      rootHistory.entries u = ["ls", " pwd"] ++ ["cd a b "] := by
  intro t u
  have hread : t.read rootHistory.path = .ok (Utf8.encode "ls\r\n\n pwd\n") := by decide +kernel
  have hwrite : t.CanWrite rootHistory.path := by decide +kernel
  have hcommand : Text.allBlank "cd a\nb \r\n".toList = false := by decide +kernel
  have hheld : heldAs "cd a\nb \r\n" = "cd a b " := by decide +kernel
  have hbefore : rootHistory.entries t = ["ls", " pwd"] := by decide +kernel
  obtain ⟨ended, rest, -, -, -, -, -, -, -, hexact⟩ :=
    append_adds_entry_iff rootHistory t _ _ hread hwrite hcommand
  obtain ⟨hlast, hentries⟩ := hexact.mpr (Or.inr (by decide +kernel))
  rw [hheld] at hlast hentries
  rw [hbefore] at hentries
  exact ⟨hread, hwrite, hcommand, hlast, hentries⟩

/-- A history whose last line has no end: the next command goes onto that line, and the command that was
held there is lost. -/
theorem torn_history_merges_commands :
    let t := treeOf (Utf8.encode "ls")
    let u := rootHistory.append "pwd" t
    t.CanWrite rootHistory.path ∧ heldAs "pwd" = "pwd" ∧ rootHistory.entries t = ["ls"] ∧
      rootHistory.last 1 u = .found ["lspwd"] ∧ rootHistory.entries u = ["lspwd"] ∧
      rootHistory.last 1 u ≠ .found [heldAs "pwd"] ∧
      ¬rootHistory.entries t <+: rootHistory.entries u := by
  decide +kernel

end History

end Logbook
