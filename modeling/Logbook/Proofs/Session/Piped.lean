import Logbook.Program
import Logbook.Proofs.Session.Lines

namespace Logbook

open Session (typed IsHarmless)

theorem HoldsCommands.entries_eq {t : FileTree} {p : Path} {ls : List String}
    (h : HoldsCommands t p ls) (hls : ∀ line ∈ ls, History.IsCommand line) :
    History.entries ⟨p⟩ t = ls := by
  rcases h with ⟨rfl, hnone⟩ | ⟨-, hread⟩
  · cases hfind : t.find p with
    | error fault => exact History.entries_of_find hfind
    | ok e => exact absurd (FileTree.entry?_of_find hfind) (by simp [hnone])
  · exact History.entries_of_read hread fun line hline => (hls line hline).isEntry

theorem Session.Keeps.finish {a : Archive} {id : SessionId} {ls : List String}
    {es : List (String × String)} {s : Session} (h : s.Keeps a id ls es) {S : Surroundings}
    (hclock : ∀ n, (S.clock n).HasPlainYear) :
    Kept a id (s.finish S).tree ls (es ++ [(Tag.session, "end")]) := by
  simp only [Session.finish, Session.now, h.log]
  rw [SessionLog.finish_of_not_ended rfl]
  exact h.kept.append_log (Record.isReadable_session (hclock s.readings) "end")

namespace Program

/-- The commands of an input: the pieces between its line feeds, with replacements where bytes are no
text. -/
def commandsOf (input : List UInt8) : List String :=
  typed ((input.splitOn 10).map Utf8.decodeLossy)

theorem typed_fileLines (input : List UInt8) : typed (fileLines input) = commandsOf input := by
  rw [commandsOf, fileLines]
  rcases Text.splitOn_eq_linesBy 10 input with h | h
  · rw [h]
  · rw [h, List.map_append, List.map_singleton]
    exact (Session.typed_concat_of_blank (by decide) _).symm

theorem not_lineFeed_mem_fileLines {input : List UInt8} {line : String}
    (h : line ∈ fileLines input) : '\n' ∉ line.toList := by
  obtain ⟨bytes, hbytes, rfl⟩ := List.mem_map.mp h
  exact Utf8.not_lineFeed_mem_decodeLossy
    ((Text.hasLines_linesBy 10 input).not_mem bytes hbytes)

/-- A start without a history and without a log, at plain times. The first log can be made. -/
structure IsFreshStart (S : Surroundings) (s : Settings) (t : FileTree) : Prop where
  clock : ∀ n, (S.clock n).HasPlainYear
  vacant : SessionLog.IsVacant t s.logDir (SessionId.ofInstant (S.clock 0))
  noHistory : t.entry? (t.resolve s.historyFile) = none

/-- The history is not named like a log in the directory of the logs. -/
def KeepsHistoryApart (s : Settings) (t : FileTree) : Prop :=
  ∀ name, SessionId.isLogName name = true → t.resolve s.logDir ++ [name] ≠ t.resolve s.historyFile

variable {S : Surroundings} {s : Settings} {t : FileTree}

/-- The session that a fresh start leads to, when its log has been started in some files. -/
def openedSession (S : Surroundings) (s : Settings) (u : FileTree) : Session :=
  { log := { id := SessionId.ofInstant (S.clock 0), dir := s.logDir }
    history := ⟨s.historyFile⟩
    archive := archiveOf s
    palette := s.palette
    tree := u
    readings := 2 }

theorem openSession_of_isFreshStart (h : IsFreshStart S s t) (c : CommandLine) :
    ∃ u, openSession S c s t = (.ok (openedSession S s u), u) ∧
      SessionLog.Started t u s.logDir (SessionId.ofInstant (S.clock 0)) := by
  obtain ⟨u, hstart, hstarted⟩ := SessionLog.start_of_isVacant (s := logSettings c s) h.vacant
    (SessionId.isFileName_ofInstant _) (SessionId.text_ofInstant_ne_empty _) (h.clock 1)
  refine ⟨u, ?_, hstarted⟩
  simp only [openSession, hstart]
  rfl

theorem keeps_openedSession (h : IsFreshStart S s t) (hapart : KeepsHistoryApart s t) {u : FileTree}
    (hu : SessionLog.Started t u s.logDir (SessionId.ofInstant (S.clock 0))) :
    (openedSession S s u).Keeps (archiveOf s) (SessionId.ofInstant (S.clock 0)) []
      [(Tag.session, "start")] := by
  have hname := SessionId.isFileName_ofInstant (S.clock 0)
  have htext := SessionId.text_ofInstant_ne_empty (S.clock 0)
  have hresolve := hu.keepsDirectories.resolve
  obtain ⟨mode, hfind, hread⟩ := h.vacant.listed
  have henter := (h.vacant.mode_of_find hname htext hfind).2
  refine ⟨rfl, rfl, rfl, hname, htext, ⟨mode, hu.keepsDirectories.find hfind, hread, henter⟩, ?_, ?_,
    ?_, by simp, Or.inl ⟨rfl, ?_⟩⟩
  · intro name hlog
    simp only [openedSession, archiveOf, hresolve]
    exact hapart name hlog
  · simp only [openedSession, archiveOf, hresolve]
    exact hu.shelved
  · simp only [openedSession, archiveOf, hresolve]
    exact hu.writable
  · have hne := hapart _ (SessionId.isLogName_fileName htext)
    simp only [openedSession, archiveOf, hresolve]
    rw [hu.elsewhere hne.symm, h.noHistory]

theorem runSession_piped {c : CommandLine} {session : Session} {u : FileTree}
    (h : openSession S c s t = (.ok session, u)) (input : List UInt8) :
    (runSession S c s (.piped input) t).code = 0 ∧
      (runSession S c s (.piped input) t).tree =
        (session.runPiped Builtin.registry S c.persona input).tree := by
  simp [runSession, h, converse]

theorem exists_kept_of_isFreshStart (c : CommandLine) (input : List UInt8) (h : IsFreshStart S s t)
    (hapart : KeepsHistoryApart s t)
    (hhistory : commandsOf input ≠ [] → HistoryCanStart (openSession S c s t).2 s.historyFile)
    (hshell : ∀ line ∈ commandsOf input, IsHarmless S (archiveOf s) line) :
    ∃ between, Archive.userTexts between = commandsOf input ∧ (∀ e ∈ between, e.1 ≠ Tag.session) ∧
      (runSession S c s (.piped input) t).code = 0 ∧
        Kept (archiveOf s) (SessionId.ofInstant (S.clock 0)) (runSession S c s (.piped input) t).tree
          (commandsOf input) ((Tag.session, "start") :: between ++ [(Tag.session, "end")]) := by
  obtain ⟨u, hopen, hstarted⟩ := openSession_of_isFreshStart h c
  have hopened := keeps_openedSession h hapart hstarted
  have hlines : ∀ raw ∈ fileLines input, '\n' ∉ raw.toList := fun raw =>
    not_lineFeed_mem_fileLines
  rw [hopen] at hhistory
  rw [← typed_fileLines] at hhistory hshell ⊢
  obtain ⟨between, htexts, hbetween, hkeeps⟩ := Session.keeps_runLines c.persona h.clock hlines
    hshell (fun _ hne => hhistory hne) hopened
  obtain ⟨hcode, htree⟩ := runSession_piped hopen input
  have hkept := hkeeps.finish h.clock
  rw [List.nil_append, List.singleton_append] at hkept
  rw [htree]
  exact ⟨between, htexts, hbetween, hcode, hkept⟩

/-- Surroundings in which time stands still, every question has one answer, and shell commands touch no
file. -/
def stillSurroundings : Surroundings where
  clock := fun _ => Record.leapSecond
  ask := fun _ _ _ => .ok "Noted."
  shell := fun _ command t => ⟨[command], .completed command, t⟩
  jobSteps := fun _ => []
  machine := ⟨"4", "60", "127.0.0.1"⟩

def plainSettings : Settings :=
  { prompt := Settings.defaultPrompt
    logDir := ⟨"/logs"⟩
    historyFile := ⟨"/home/history"⟩
    maxLogFiles := 3
    palette := { enabled := false, code := Palette.defaultCode } }

def bareTree : FileTree where
  entries := [(["logs"], .directory Mode.newDirectory)]
  clock := Record.leapSecond
  workingDirectory := []
  nodup := by decide

theorem bareTree_isFreshStart {s : Settings} (hlogs : s.logDir = ⟨"/logs"⟩)
    (hnone : bareTree.entry? (bareTree.resolve s.historyFile) = none) :
    IsFreshStart stillSurroundings s bareTree := by
  have hresolve : bareTree.resolve ⟨"/logs"⟩ = ["logs"] := by decide +kernel
  refine ⟨fun _ => ?_, ?_, hnone⟩
  · dsimp only [stillSurroundings]
    decide
  · rw [hlogs]
    refine ⟨⟨Mode.newDirectory, ?_, rfl⟩, fun {name f} _ => ?_, ?_⟩
    · decide +kernel
    · rw [hresolve]
      simp [bareTree, FileTree.entry?, List.lookup_cons]
    · decide +kernel

/-- An input with a carriage return, a blank line, a byte that is no text, and a line after the end. -/
def mixedInput : List UInt8 :=
  Utf8.encode " a:\\ \r\n\n/run ls\n" ++ [255, 10] ++ Utf8.encode "EXIT\nb"

def crowdedSettings : Settings :=
  { plainSettings with historyFile := ⟨"/logs/h.log"⟩ }

def recordInput : List UInt8 :=
  Utf8.encode "2025-01-01T00:00:00Z user:x"

def crowdedRecords : List Record :=
  [⟨Record.leapSecond, Tag.session, "start"⟩,
    ⟨Record.leapSecond, Tag.user, "2025-01-01T00:00:00Z user:x"⟩,
    ⟨Record.leapSecond, Tag.assistant, "echo: 2025-01-01T00:00:00Z user:x"⟩,
    ⟨Record.leapSecond, Tag.session, "end"⟩]

def crowdedFiles : List (String × File) :=
  [("20161231-235960.log",
      ⟨crowdedRecords.flatMap SessionLog.lineBytes, Record.leapSecond, Mode.newFile⟩),
    ("h.log", ⟨recordInput ++ [10], Record.leapSecond, Mode.newFile⟩)]

theorem userTexts_crowdedFiles :
    (crowdedFiles.flatMap fun log => fileLines log.2.readable).filterMap Archive.userText? =
      ["2025-01-01T00:00:00Z user:x", "x"] := by
  have hrecords : ∀ r ∈ crowdedRecords, r.IsReadable := by
    simp only [crowdedRecords, Record.IsReadable, List.forall_mem_cons]
    decide
  have hhistory : (fileLines (recordInput ++ [10])).filterMap Archive.userText? = ["x"] := by
    decide +kernel
  have hreadable : ∀ bytes, (File.mk bytes Record.leapSecond Mode.newFile).readable = bytes :=
    fun bytes => if_pos FileTree.canRead_newFile
  simp only [crowdedFiles, List.flatMap_cons, List.flatMap_nil, List.append_nil, hreadable,
    List.filterMap_append, fileLines_flatMap_lineBytes hrecords,
    Archive.filterMap_userText?_render hrecords, hhistory]
  rfl

end Program

end Logbook
