import Logbook.Proofs.History
import Logbook.Proofs.SessionLog.Start

namespace Logbook

/-- The files of a session that has been given some commands and has written some entries. Its log is the
only one in its directory, and the history is not named like a log there. -/
structure Kept (a : Archive) (id : SessionId) (t : FileTree) (ls : List String)
    (es : List (String × String)) : Prop where
  name : Path.IsFileName id.fileName
  text : id.text ≠ ""
  listed : ∃ mode, t.find a.logDir = .ok (.directory mode) ∧ Mode.canRead mode = true ∧
    Mode.canEnter mode = true
  apart : ∀ {name}, SessionId.isLogName name = true →
    t.resolve a.logDir ++ [name] ≠ t.resolve a.historyFile
  shelved : SessionLog.Shelved t a.logDir (t.resolve a.logDir) [id] fun _ => es
  writable : t.Writable (id.path a.logDir) (t.resolve a.logDir ++ [id.fileName])
  commands : ∀ line ∈ ls, History.IsCommand line
  history : HoldsCommands t a.historyFile ls

namespace Kept

variable {a : Archive} {id : SessionId} {t u : FileTree} {ls : List String}
  {es : List (String × String)}

theorem append_log (h : Kept a id t ls es) {now : Instant} {tag text : String}
    (hr : Record.IsReadable ⟨now, tag, text⟩) :
    Kept a id (SessionLog.append { id, dir := a.logDir } now tag text t) ls (es ++ [(tag, text)]) := by
  obtain ⟨hshelved, happended⟩ := h.shelved.append { id, dir := a.logDir } [id]
    (fun _ => es ++ [(tag, text)]) rfl h.writable.canWrite hr h.name h.text (by simp) (by simp) rfl
    (fun other hother hne => absurd (List.mem_singleton.mp hother) hne)
  have hkeeps := happended.keepsDirectories
  have hapart := h.apart (SessionId.isLogName_fileName h.text)
  obtain ⟨mode, hfind, hmode⟩ := h.listed
  refine ⟨h.name, h.text, ⟨mode, hkeeps.find hfind, hmode⟩, ?_, ?_, ?_, h.commands, ?_⟩
  · rw [hkeeps.resolve, hkeeps.resolve]
    exact h.apart
  · rw [hkeeps.resolve]
    exact hshelved
  · rw [hkeeps.resolve]
    exact h.writable.of_appended happended
  · exact h.history.of_appended happended hapart.symm

theorem append_history (h : Kept a id t ls es) {line : String} (hline : History.IsCommand line)
    (hstart : ls = [] → HistoryCanStart t a.historyFile) :
    Kept a id (History.append ⟨a.historyFile⟩ line t) (ls ++ [line]) es := by
  obtain ⟨u, hparents, hadds, hwrite, hheld⟩ := h.history.exists_way hstart
  obtain ⟨l, hlocate, happended⟩ :=
    History.append_of_entry? (h := ⟨a.historyFile⟩) hline.entry?_eq hparents hwrite
  obtain rfl := FileTree.resolve_of_locate hlocate
  have hkeeps := hadds.keepsDirectories.trans happended.keepsDirectories
  have hapart : ∀ {name}, SessionId.isLogName name = true →
      t.resolve a.logDir ++ [name] ≠ u.resolve a.historyFile := by
    intro name hname
    rw [hadds.keepsDirectories.resolve]
    exact h.apart hname
  obtain ⟨mode, hfind, hmode⟩ := h.listed
  refine ⟨h.name, h.text, ⟨mode, hkeeps.find hfind, hmode⟩, ?_, ?_, ?_, ?_, ?_⟩
  · rw [hkeeps.resolve, hkeeps.resolve]
    exact h.apart
  · rw [hkeeps.resolve]
    exact (h.shelved.of_addsDirectories hadds).of_appended happended hapart (by simpa using h.text)
  · rw [hkeeps.resolve]
    exact (h.writable.of_addsDirectories hadds).of_appended happended
  · simpa [or_imp, forall_and, hline] using h.commands
  · exact hheld.append hwrite hlocate happended

end Kept

/-- Nothing that a session keeps has been touched: neither its directory of logs, nor a file in it that is
named like a log, nor the history. -/
structure LeavesAlone (a : Archive) (t u : FileTree) : Prop where
  workingDirectory : u.workingDirectory = t.workingDirectory
  logDir : u.find a.logDir = t.find a.logDir
  logs : ∀ {name}, SessionId.isLogName name = true →
    u.entry? (t.resolve a.logDir ++ [name]) = t.entry? (t.resolve a.logDir ++ [name])
  history : u.find a.historyFile = t.find a.historyFile

theorem LeavesAlone.refl (a : Archive) (t : FileTree) : LeavesAlone a t t where
  workingDirectory := rfl
  logDir := rfl
  logs := fun _ => rfl
  history := rfl

theorem Kept.of_leavesAlone {a : Archive} {id : SessionId} {t u : FileTree} {ls : List String}
    {es : List (String × String)} (h : Kept a id t ls es) (hne : ls ≠ [])
    (hu : LeavesAlone a t u) : Kept a id u ls es := by
  have hresolve := FileTree.resolve_of_workingDirectory hu.workingDirectory
  have hlog := hu.logs (SessionId.isLogName_fileName h.text)
  obtain ⟨mode, hfind, hread, henter⟩ := h.listed
  have hfound : u.find a.logDir = .ok (.directory mode) := hu.logDir.trans hfind
  have hlocate : u.locate (id.path a.logDir) = .ok (t.resolve a.logDir ++ [id.fileName]) := by
    refine FileTree.locate_join ?_ ⟨mode, ?_, henter⟩ h.name
    · rw [← hresolve]
      exact FileTree.locate_of_find hfound
    · rw [← hresolve]
      exact FileTree.entry?_of_find hfound
  refine ⟨h.name, h.text, ⟨mode, hfound, hread, henter⟩, ?_, ?_, ?_, h.commands, ?_⟩
  · rw [hresolve, hresolve]
    exact h.apart
  · rw [hresolve]
    refine ⟨hresolve _, h.shelved.name, by simpa using hlocate, ?_, ?_⟩
    · intro other hother
      obtain rfl := List.mem_singleton.mp hother
      exact (h.shelved.held other hother).of_entry?_eq hlog
    · intro name f hname hf
      rw [hu.logs hname] at hf
      exact h.shelved.others hname hf
  · rw [hresolve]
    exact h.writable.of_entry?_eq hlocate hlog
  · exact h.history.of_find_eq hne hu.history

end Logbook
