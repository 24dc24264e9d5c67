import Logbook.History
import Logbook.Proofs.SessionLog.Retention

namespace Logbook

namespace FileTree

theorem workingDirectory_append (log : SessionLog) (now : Instant) (tag text : String) (t : FileTree) :
    (log.append now tag text t).workingDirectory = t.workingDirectory := by
  rw [SessionLog.append]
  cases happend : t.append log.path (SessionLog.lineBytes ⟨now, tag, text⟩) with
  | error fault => rfl
  | ok u =>
      obtain ⟨l, -, happended⟩ := appended_of_append happend
      exact happended.workingDirectory

theorem workingDirectory_foldl_removeOne (dir : Path) (files : List SessionFile)
    (state : Nat × FileTree) :
    (files.foldl (SessionLog.removeOne dir) state).2.workingDirectory =
      state.2.workingDirectory := by
  induction files generalizing state with
  | nil => rfl
  | cons f files ih =>
      rw [List.foldl_cons, ih, SessionLog.removeOne]
      split
      · rename_i u hremove
        obtain ⟨l, g, -, -, rfl⟩ := of_remove_eq_ok hremove
        rfl
      · rfl

end FileTree

theorem History.append_eq_or (h : History) (command : String) (t : FileTree) :
    ∃ u, FileTree.AddsDirectories t u ∧ (h.append command t = u ∨
      ∃ bytes, FileTree.Appended u (h.append command t) (t.resolve h.path) bytes) := by
  simp only [append]
  split
  · exact ⟨t, FileTree.AddsDirectories.refl t, Or.inl rfl⟩
  have hadds := FileTree.addsDirectories_makeParents t h.path
  split
  · rename_i u hparents
    rw [hparents] at hadds
    exact ⟨u, hadds, Or.inl rfl⟩
  · rename_i entry _ _ u hparents
    rw [hparents] at hadds
    refine ⟨u, hadds, ?_⟩
    cases happend : u.append h.path (Utf8.encode (entry ++ "\n")) with
    | error fault => exact Or.inl rfl
    | ok v =>
        obtain ⟨l, hlocate, happended⟩ := FileTree.appended_of_append happend
        obtain rfl := FileTree.resolve_of_locate hlocate
        rw [hadds.keepsDirectories.resolve] at happended
        exact Or.inr ⟨_, happended⟩

namespace SessionLog

theorem getLast?_lineBytes (r : Record) : (lineBytes r).getLast? = some 10 := by
  simp [lineBytes_eq]

theorem getLast?_append_flatMap_lineBytes {bytes : List UInt8} (h : bytes.getLast? = some 10)
    (rs : List Record) : (bytes ++ rs.flatMap lineBytes).getLast? = some 10 := by
  rcases List.eq_nil_or_concat rs with rfl | ⟨before, r, rfl⟩
  · simpa using h
  · simp [List.getLast?_append, getLast?_lineBytes]

/-- Records with some tags and texts have been added at the end of a log, each on a line of its own, and
nothing else has. -/
def Gains (t u : FileTree) (p : Path) (es : List (String × String)) : Prop :=
  ∃ (f g : File) (rs : List Record), t.find p = .ok (.file f) ∧ u.find p = .ok (.file g) ∧
    (∀ r ∈ rs, r.IsReadable) ∧ rs.map Record.entry = es ∧
      g.bytes = f.bytes ++ rs.flatMap lineBytes ∧
        fileLines g.bytes = fileLines f.bytes ++ rs.map Record.render

def readEntries (t : FileTree) (p : Path) : List (Option (String × String)) :=
  match t.find p with
  | .ok (.file f) => (fileLines f.bytes).map Record.readEntry?
  | _ => []

theorem Gains.readEntries {t u : FileTree} {p : Path} {es : List (String × String)}
    (h : Gains t u p es) : readEntries u p = readEntries t p ++ es.map some := by
  obtain ⟨f, g, rs, hf, hg, hrs, rfl, -, hlines⟩ := h
  have hread : (rs.map Record.render).map Record.readEntry? = (rs.map Record.entry).map some := by
    rw [← fileLines_flatMap_lineBytes hrs, readEntry?_fileLines hrs]
  simp only [SessionLog.readEntries, hf, hg, hlines, List.map_append, hread]

/-- A log that can be written: it holds some lines that have an end, and behind them records with some
tags and texts. -/
structure IsOpen (t : FileTree) (p : Path) (bytes : List UInt8) (es : List (String × String)) :
    Prop where
  writable : t.Writable p (t.resolve p)
  ended : bytes.getLast? = some 10
  holds : ∃ (f : File) (rs : List Record), t.entry? (t.resolve p) = some (.file f) ∧
    f.bytes = bytes ++ rs.flatMap lineBytes ∧ (∀ r ∈ rs, r.IsReadable) ∧ rs.map Record.entry = es

namespace IsOpen

variable {t u : FileTree} {p : Path} {bytes : List UInt8} {es : List (String × String)}

/-- What has been added counts as held when the log is looked at again. -/
theorem restart (h : IsOpen t p bytes es) : ∃ held, IsOpen t p held [] := by
  obtain ⟨f, rs, hentry, hbytes, -, -⟩ := h.holds
  refine ⟨f.bytes, h.writable, ?_, f, [], hentry, by simp, by simp, rfl⟩
  rw [hbytes]
  exact getLast?_append_flatMap_lineBytes h.ended rs

theorem gains (h : IsOpen t p bytes []) (k : IsOpen u p bytes es) : Gains t u p es := by
  obtain ⟨f, rs, hentry, hf, -, hnone⟩ := h.holds
  obtain ⟨g, more, hnew, hg, hmore, hes⟩ := k.holds
  obtain rfl : rs = [] := List.map_eq_nil_iff.mp hnone
  rw [List.flatMap_nil, List.append_nil] at hf
  refine ⟨f, g, more, FileTree.find_of_entry? h.writable.1 hentry,
    FileTree.find_of_entry? k.writable.1 hnew, hmore, hes, ?_, ?_⟩
  · rw [hg, hf]
  · rw [hg, hf, fileLines_append (Or.inr h.ended), fileLines_flatMap_lineBytes hmore]

theorem append (h : IsOpen t p bytes es) {log : SessionLog} (hpath : log.path = p) {now : Instant}
    {tag text : String} (hr : Record.IsReadable ⟨now, tag, text⟩) :
    IsOpen (log.append now tag text t) p bytes (es ++ [(tag, text)]) := by
  subst hpath
  have happended := appended_of_writable log h.writable now tag text
  have hplace := happended.keepsDirectories.resolve log.path
  obtain ⟨f, rs, hentry, hbytes, hrs, hes⟩ := h.holds
  obtain ⟨g, hg | ⟨hg, -⟩, hnew⟩ := happended.file
  · obtain rfl : f = g := by simpa [hentry] using hg
    refine ⟨?_, h.ended, _, rs ++ [⟨now, tag, text⟩], hplace ▸ hnew, ?_, ?_, ?_⟩
    · rw [hplace]
      exact h.writable.of_appended happended
    · simp [hbytes]
    · simpa [or_imp, forall_and, hr] using hrs
    · simp [hes, Record.entry]
  · simp [hentry] at hg

theorem of_entry?_eq (h : IsOpen t p bytes es) (hlocate : u.locate p = .ok (t.resolve p))
    (hu : u.entry? (t.resolve p) = t.entry? (t.resolve p)) : IsOpen u p bytes es := by
  have hplace := FileTree.resolve_of_locate hlocate
  refine ⟨?_, h.ended, ?_⟩
  · rw [hplace]
    exact h.writable.of_entry?_eq hlocate hu
  · rw [hplace, hu]
    exact h.holds

theorem of_addsDirectories (h : IsOpen t p bytes es) (hu : FileTree.AddsDirectories t u) :
    IsOpen u p bytes es := by
  obtain ⟨f, rs, hentry, -⟩ := h.holds
  exact h.of_entry?_eq (hu.keepsDirectories.locate h.writable.1) (by rw [hu.kept hentry, hentry])

theorem of_appended_ne (h : IsOpen t p bytes es) {l : Location} {more : List UInt8}
    (hu : FileTree.Appended t u l more) (hne : t.resolve p ≠ l) : IsOpen u p bytes es :=
  h.of_entry?_eq (hu.keepsDirectories.locate h.writable.1) (hu.elsewhere hne)

theorem of_find_eq (h : IsOpen t p bytes es) (hdir : u.workingDirectory = t.workingDirectory)
    (hu : u.find p = t.find p) : IsOpen u p bytes es := by
  obtain ⟨f, rs, hentry, -⟩ := h.holds
  have hfind := hu.trans (FileTree.find_of_entry? h.writable.1 hentry)
  have hplace := FileTree.resolve_of_workingDirectory hdir p
  refine h.of_entry?_eq ?_ ?_
  · rw [← hplace]
    exact FileTree.locate_of_find hfind
  · rw [hentry, ← hplace]
    exact FileTree.entry?_of_find hfind

theorem append_history (h : IsOpen t p bytes es) {history : History}
    (hne : t.resolve p ≠ t.resolve history.path) (command : String) :
    IsOpen (history.append command t) p bytes es := by
  obtain ⟨u, hadds, heq | ⟨more, happended⟩⟩ := history.append_eq_or command t
  · rw [heq]
    exact h.of_addsDirectories hadds
  · refine (h.of_addsDirectories hadds).of_appended_ne happended ?_
    rw [hadds.keepsDirectories.resolve]
    exact hne

end IsOpen

theorem isOpen_append {log : SessionLog} {t : FileTree} {now : Instant} {tag text : String}
    (h : (log.append now tag text t).CanWrite log.path) :
    ∃ bytes, IsOpen (log.append now tag text t) log.path bytes [] := by
  have hwrite := canWrite_of_append h
  obtain ⟨l, hlocate, happended⟩ := appended_append hwrite now tag text
  have hplace := happended.keepsDirectories.resolve log.path
  rw [FileTree.resolve_of_locate hlocate] at hplace
  obtain ⟨f, -, hnew⟩ := happended.file
  refine ⟨f.bytes ++ lineBytes ⟨now, tag, text⟩, ?_, ?_, _, [], hplace ▸ hnew, by simp, by simp, rfl⟩
  · rw [hplace]
    exact hwrite.writable hlocate happended
  · simp [List.getLast?_append, getLast?_lineBytes]

theorem exists_append_of_start {s : LogSettings} {id : SessionId} {now : Instant} {t u : FileTree}
    {log : SessionLog} (h : start s id now t = (.ok log, u)) :
    log = { id, dir := s.dir } ∧ ∃ v, v.workingDirectory = t.workingDirectory ∧
      u = append log now Tag.session "start" v := by
  cases hmode : s.mode with
  | lenient =>
      rw [start_of_lenient hmode] at h
      obtain ⟨hlog, rfl⟩ := Prod.mk.inj h
      obtain rfl := Except.ok.inj hlog
      exact ⟨rfl, _, (FileTree.addsDirectories_makeDirectories t s.dir).workingDirectory, rfl⟩
  | strict =>
      obtain ⟨rfl, -, l, f, v, hcreate, rfl⟩ := of_start_eq_ok hmode h
      refine ⟨rfl, _, ?_, rfl⟩
      rw [← (FileTree.made_of_create hcreate).workingDirectory, prune]
      split
      · rfl
      · exact FileTree.workingDirectory_foldl_removeOne _ _ _

end SessionLog

end Logbook
