import Logbook.Proofs.Search.Reference
import Logbook.Proofs.Session.Turns
import Logbook.Proofs.Text.Numerals

namespace Logbook

namespace Session

variable {a : Archive} {id : SessionId} {ls : List String} {es : List (String × String)}
  {s : Session} {S : Surroundings} {persona : Option Persona}

theorem Keeps.recentCommands (h : s.Keeps a id ls es) (htexts : Archive.userTexts es = ls)
    (limit : Nat) : a.recentCommands s.tree limit = ls.rtake limit := by
  obtain ⟨mode, hfind, hread, henter⟩ := h.kept.listed
  obtain ⟨lines, hlines, hcommands⟩ :=
    Archive.exists_lines_of_shelved hfind hread henter h.kept.shelved h.kept.text
  rw [Archive.recentCommands_eq_rtake hlines, hcommands, htexts]

theorem Keeps.lines?_history (h : s.Keeps a id ls es) (hne : ls ≠ []) (dir : Path) :
    Archive.lines? ⟨dir, a.historyFile⟩ s.tree .history = some ls := by
  rcases h.kept.history with ⟨hnil, -⟩ | ⟨-, hread⟩
  · exact absurd hnil hne
  · obtain ⟨f, hfind, hmode, hbytes⟩ := FileTree.read_eq_ok_iff.mp hread
    have hlines := fileLines_flatMap_encode fun line hline => (h.kept.commands line hline).lineFeed
    rw [Archive.lines?_history_of_find (a := ⟨dir, a.historyFile⟩) hfind, File.readable,
      if_pos hmode, hbytes]
    exact congrArg some hlines

theorem Keeps.answer_last {line : String} (h : s.Keeps a id (ls ++ [line]) es)
    (htexts : Archive.userTexts es = ls ++ [line]) (args : String) :
    (Builtin.last.run S args s).1 = ls.getLast?.elim (.info "no commands") .success := by
  simp only [Builtin.last, h.archive, h.recentCommands htexts]
  rcases List.eq_nil_or_concat ls with rfl | ⟨before, previous, rfl⟩
  · simp [List.rtake]
  · have hlast : ((before ++ [previous]) ++ [line]).rtake 2 = [previous, line] := by
      rw [List.rtake_concat_succ, List.rtake_concat_succ, List.rtake_zero]
      rfl
    rw [List.concat_eq_append, hlast, List.getLast?_concat, Option.elim_some]

theorem Keeps.answer_history (h : s.Keeps a id ls es) (hne : ls ≠ []) {args : String} {n : Int}
    (hn : Decimal.parseInteger? args.toList = some n) :
    (Builtin.history.run S args s).1 =
      if n ≤ 0 then .info "no matches" else .success ("\n".intercalate (ls.rtake n.toNat)) := by
  have hargs : args.isEmpty = false := by
    by_contra hempty
    have hnil : args.toList = [] := by simpa using hempty
    rw [hnil] at hn
    simp [Decimal.parseInteger?] at hn
  have hlimit : Builtin.historyLimit? args = some n.toNat := by
    simp [Builtin.historyLimit?, hargs, hn]
  simp only [Builtin.history, hlimit, History.last, h.history]
  rw [Archive.search_all (h.lines?_history hne _) hne]
  by_cases hzero : n ≤ 0
  · rw [if_pos (Int.toNat_eq_zero.mpr hzero), if_pos hzero]
    rfl
  · rw [if_neg (mt Int.toNat_eq_zero.mp hzero), if_neg hzero]
    rfl

/-- The commands among lines that have been handled: they are trimmed, and blank lines and those that end
a session do not count. -/
def commands (raws : List String) : List String :=
  ((raws.map fun raw => Text.trim raw.toList).filter fun cs =>
    !cs.isEmpty && !endsSession cs).map String.ofList

theorem commands_concat_of_blank {raw : String} (h : Text.trim raw.toList = []) (raws : List String) :
    commands (raws ++ [raw]) = commands raws := by
  simp [commands, h]

theorem commands_concat_of_ends {raw : String} (h : endsSession (Text.trim raw.toList) = true)
    (raws : List String) : commands (raws ++ [raw]) = commands raws := by
  simp [commands, h]

theorem commands_concat {raw : String} (hne : Text.trim raw.toList ≠ [])
    (h : endsSession (Text.trim raw.toList) = false) (raws : List String) :
    commands (raws ++ [raw]) = commands raws ++ [String.ofList (Text.trim raw.toList)] := by
  simp [commands, hne, h]

end Session

namespace Program

open Session (commands IsHarmless)
open Command (Calls)

variable {S : Surroundings} {c : CommandLine} {s : Settings} {t : FileTree} {raws : List String}
  {session : Session}

/-- The sessions that a call leads to, with the lines that they have been given. -/
inductive Heard (S : Surroundings) (c : CommandLine) (s : Settings) (t : FileTree) :
    List String → Session → Prop where
  | opened {session : Session} {u : FileTree} :
      openSession S c s t = (.ok session, u) → Heard S c s t [] session
  | handled {raws : List String} {session : Session} (raw : String) :
      Heard S c s t raws session →
      Heard S c s t (raws ++ [raw]) (session.handle Builtin.registry S c.persona raw).2
  | printed {raws : List String} {session : Session} (lines : List String) :
      Heard S c s t raws session → Heard S c s t raws (session.print lines)

/-- A command that can be kept: it is one line, and no shell command that it calls touches what is kept. -/
def CanKeep (S : Surroundings) (s : Settings) (line : String) : Prop :=
  '\n' ∉ line.toList ∧ IsHarmless S (archiveOf s) line

theorem Heard.exists_keeps (h : Heard S c s t raws session) (hfresh : IsFreshStart S s t)
    (hapart : KeepsHistoryApart s t)
    (hhistory : HistoryCanStart (openSession S c s t).2 s.historyFile)
    (hkeep : ∀ line ∈ commands raws, CanKeep S s line) :
    ∃ es, Archive.userTexts es = commands raws ∧
      session.Keeps (archiveOf s) (SessionId.ofInstant (S.clock 0)) (commands raws) es ∧
      (commands raws = [] → HistoryCanStart session.tree s.historyFile) := by
  induction h with
  | opened hopen =>
      obtain ⟨u, hopen', hstarted⟩ := openSession_of_isFreshStart hfresh c
      obtain rfl := Except.ok.inj (Prod.mk.inj (hopen.symm.trans hopen')).1
      rw [hopen'] at hhistory
      exact ⟨_, by simp [commands, Archive.userTexts, Tag.session, Tag.user],
        keeps_openedSession hfresh hapart hstarted, fun _ => hhistory⟩
  | printed lines _ ih =>
      obtain ⟨es, htexts, hkeeps, hstart⟩ := ih hkeep
      exact ⟨es, htexts, hkeeps.of_sameFiles ⟨rfl, rfl, rfl, rfl⟩, hstart⟩
  -- a line that is no command leaves the session as it is, and one that is adds itself and asides
  | @handled raws session raw _ ih =>
      by_cases hblank : Text.trim raw.toList = []
      · rw [Session.commands_concat_of_blank hblank] at hkeep ⊢
        rw [Session.handle_of_blank c.persona _ hblank]
        exact ih hkeep
      cases hends : Session.endsSession (Text.trim raw.toList) with
      | true =>
          rw [Session.commands_concat_of_ends hends] at hkeep ⊢
          rw [Session.handle_of_ends c.persona _ hblank hends]
          exact ih hkeep
      | false =>
          rw [Session.commands_concat hblank hends] at hkeep ⊢
          obtain ⟨es, htexts, hkeeps, hstart⟩ := ih fun line hline => hkeep line (by simp [hline])
          obtain ⟨hline, hharmless⟩ := hkeep (String.ofList (Text.trim raw.toList)) (by simp)
          rw [String.toList_ofList] at hline
          obtain ⟨answer, next, more, hhandle, hmore, hnext⟩ := Session.keeps_handle c.persona
            hfresh.clock hline hblank hends hharmless hstart hkeeps
          rw [hhandle]
          refine ⟨_, ?_, hnext, by simp⟩
          rw [Archive.userTexts_append, Session.userTexts_cons_user,
            Session.userTexts_of_areAsides hmore, htexts]

theorem not_endsSession_of_calls {name : String} {cs args : List Char} (h : Calls name cs args) :
    Session.endsSession cs = false := by
  rw [← Bool.not_eq_true, Session.endsSession_iff]
  cases h with
  | alone hword => rintro (h | h) <;> simp at h
  | behind hword hblank => rintro (h | h) <;> simp at h

theorem Heard.handle_of_calls (h : Heard S c s t raws session) (hfresh : IsFreshStart S s t)
    (hapart : KeepsHistoryApart s t)
    (hhistory : HistoryCanStart (openSession S c s t).2 s.historyFile) {raw name : String}
    (hkeep : ∀ line ∈ commands (raws ++ [raw]), CanKeep S s line) {args : List Char}
    (hcalls : Calls name (Text.trim raw.toList) args) (hname : Command.IsName name)
    {command : Command} (hcommand : Builtin.registry.get? name = some command) :
    ∃ es session', Archive.userTexts es = commands (raws ++ [raw]) ∧
      session'.Keeps (archiveOf s) (SessionId.ofInstant (S.clock 0)) (commands (raws ++ [raw])) es ∧
      commands (raws ++ [raw]) = commands raws ++ [String.ofList (Text.trim raw.toList)] ∧
      (session.handle Builtin.registry S c.persona raw).1 =
        .answered (command.run S (String.ofList args) session').1 := by
  have hends := not_endsSession_of_calls hcalls
  have hne : Text.trim raw.toList ≠ [] := by
    intro hnil
    have hhead := hcalls.head?
    simp [hnil] at hhead
  rw [Session.commands_concat hne hends] at hkeep ⊢
  obtain ⟨es, htexts, hkeeps, hstart⟩ :=
    h.exists_keeps hfresh hapart hhistory fun line hline => hkeep line (by simp [hline])
  have hline := (hkeep (String.ofList (Text.trim raw.toList)) (by simp)).1
  rw [String.toList_ofList] at hline
  have htaken := (hkeeps.append_history (Session.isCommand_trim hline hne) hstart).record
    hfresh.clock Record.validTag_user (String.ofList (Text.trim raw.toList))
  refine ⟨_, _, ?_, htaken, rfl, ?_⟩
  · rw [Archive.userTexts_append, htexts, Session.userTexts_cons_user]
    rfl
  · rw [Session.handle_of_command c.persona _ hne hends]
    dsimp only
    rw [Session.answerTo_of_calls hname hcommand]
    · rw [String.toList_ofList, Text.trim_trim]
    · rw [String.toList_ofList]
      exact hcalls

theorem keepsHistoryApart_plainSettings : KeepsHistoryApart plainSettings bareTree := by
  have hlogs : bareTree.resolve plainSettings.logDir = ["logs"] := by decide +kernel
  have hhistory : bareTree.resolve plainSettings.historyFile = ["home", "history"] := by
    decide +kernel
  intro name _
  simp [hlogs, hhistory]

def strayLines : List String :=
  ["hi", " ", "EXIT", "/dive  why?"]

theorem exists_heard_strayLines :
    ∃ session, Heard stillSurroundings {} plainSettings bareTree strayLines session := by
  have hfresh := bareTree_isFreshStart (s := plainSettings) rfl (by decide +kernel)
  obtain ⟨u, hopen, -⟩ := openSession_of_isFreshStart hfresh {}
  exact ⟨_, (((Heard.opened hopen).handled "hi").handled " ").handled "EXIT" |>.handled "/dive  why?"⟩

def recallRecords : List Record :=
  crowdedRecords.take 3 ++ [⟨Record.leapSecond, Tag.user, "/last"⟩]

def recallFiles : List (String × File) :=
  [("20161231-235960.log",
      ⟨recallRecords.flatMap SessionLog.lineBytes, Record.leapSecond, Mode.newFile⟩),
    ("h.log",
      ⟨recordInput ++ [10] ++ Utf8.encode "/last\n", Record.leapSecond, Mode.newFile⟩)]

theorem userTexts_recallFiles :
    (recallFiles.flatMap fun log => fileLines log.2.readable).filterMap Archive.userText? =
      ["2025-01-01T00:00:00Z user:x", "/last", "x"] := by
  have hrecords : ∀ r ∈ recallRecords, r.IsReadable := by
    simp only [recallRecords, crowdedRecords, List.take, List.cons_append, List.nil_append,
      Record.IsReadable, List.forall_mem_cons]
    decide
  have hhistory : (fileLines (recordInput ++ [10] ++ Utf8.encode "/last\n")).filterMap
      Archive.userText? = ["x"] := by
    decide +kernel
  have hreadable : ∀ bytes, (File.mk bytes Record.leapSecond Mode.newFile).readable = bytes :=
    fun bytes => if_pos FileTree.canRead_newFile
  simp only [recallFiles, List.flatMap_cons, List.flatMap_nil, List.append_nil, hreadable,
    List.filterMap_append, fileLines_flatMap_lineBytes hrecords,
    Archive.filterMap_userText?_render hrecords, hhistory]
  rfl

end Program

end Logbook
