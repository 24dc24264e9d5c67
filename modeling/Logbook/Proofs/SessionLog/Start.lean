import Logbook.Proofs.Files.Standing
import Logbook.Proofs.SessionLog.Shelved

namespace Logbook

namespace FileTree

variable {t u : FileTree} {p dir : Path} {l : Location}

theorem appended_of_create {f : File} (h : t.create p = .ok (l, f, u)) (hnone : t.entry? l = none) :
    Appended t u l [] := by
  obtain ⟨-, ⟨-, hentry, -⟩ | ⟨-, -, rfl, rfl⟩⟩ := of_create_eq_ok h
  · simp [hnone] at hentry
  · have hl : l ≠ [] := t.ne_nil_of_entry?_ne_directory (by simp [hnone])
    exact
      { workingDirectory := rfl
        clock := rfl
        elsewhere := fun hm => by rw [entry?_put hl, if_neg hm]
        file := ⟨t.newFile, Or.inr ⟨hnone, rfl⟩, by rw [entry?_put hl, if_pos rfl]; rfl⟩ }

theorem canChange_of_canWrite (h : t.CanWrite p) (hl : t.locate p = .ok l)
    (hnone : t.entry? l = none) : t.canChange l.dropLast = true := by
  obtain ⟨m, f, u, hcreate⟩ := h
  obtain ⟨hm, hmade⟩ := of_create_eq_ok hcreate
  obtain rfl : m = l := Except.ok.inj (hm.symm.trans hl)
  rcases hmade with ⟨-, hentry, -⟩ | ⟨-, hchange, -⟩
  · simp [hnone] at hentry
  · exact hchange

theorem mem_files {shown : List (String × File)} (h : t.files dir = .ok shown) {name : String}
    {f : File} (hmem : (name, f) ∈ shown) : t.entry? (t.resolve dir ++ [name]) = some (.file f) := by
  cases hlocate : t.locate dir with
  | error fault => simp [files, hlocate, bind, Except.bind] at h
  | ok l =>
      cases hentry : t.entry? l with
      | none => simp [files, hlocate, hentry, bind, Except.bind] at h
      | some e =>
          cases e with
          | file g => simp [files, hlocate, hentry, bind, Except.bind] at h
          | directory mode =>
              rw [files_of_find (find_eq_ok_iff.mpr ⟨l, hlocate, hentry⟩)] at h
              split at h
              · simp at h
              split at h
              · obtain rfl := Except.ok.inj h
                simp at hmem
              · obtain rfl := Except.ok.inj h
                exact mem_filterMap_child?_iff.mp hmem

end FileTree

namespace SessionLog

theorem list_names {dir : Path} {t : FileTree} {sessions : List SessionFile}
    (h : SessionFile.list dir t = .ok sessions) {s : SessionFile} (hs : s ∈ sessions) :
    SessionId.isLogName s.name = true ∧
      ∃ f, t.entry? (t.resolve dir ++ [s.name]) = some (.file f) := by
  simp only [SessionFile.list] at h
  split at h
  · obtain rfl : [] = sessions := by simpa [pure, Except.pure] using h
    simp at hs
  · cases hfiles : t.files dir with
    | error fault => simp [hfiles, bind, Except.bind] at h
    | ok files =>
        simp only [hfiles, bind, Except.bind, pure, Except.pure, Except.ok.injEq] at h
        subst h
        rw [List.mem_mergeSort, List.mem_map] at hs
        obtain ⟨⟨name, f⟩, hmem, rfl⟩ := hs
        rw [List.mem_filter] at hmem
        exact ⟨hmem.2, f, FileTree.mem_files hfiles hmem.1⟩

theorem prune_eq {log : SessionLog} {t : FileTree}
    (h : ∀ {name f}, SessionId.isLogName name = true →
      t.entry? (t.resolve log.dir ++ [name]) = some (.file f) → name = log.id.fileName) (max : Nat) :
    log.prune max t = (0, t) := by
  rw [prune]
  split
  · rfl
  · rename_i sessions hlist
    have hnone : ((sessions.drop max).filter fun f => f.name ≠ log.id.fileName) = [] := by
      rw [List.filter_eq_nil_iff]
      intro s hs
      obtain ⟨hname, f, hf⟩ := list_names hlist (List.mem_of_mem_drop hs)
      simp [h hname hf]
    rw [hnone]
    rfl

/-- The directory of logs as it is before the first log is started: it can be listed, holds no log, and
the first log can be made in it. -/
structure IsVacant (t : FileTree) (dir : Path) (id : SessionId) : Prop where
  listed : ∃ mode, t.find dir = .ok (.directory mode) ∧ Mode.canRead mode = true
  noLogs : ∀ {name f}, SessionId.isLogName name = true →
    t.entry? (t.resolve dir ++ [name]) ≠ some (.file f)
  canWrite : t.CanWrite (id.path dir)

/-- A log has been started in a directory, and nothing else has happened. -/
structure Started (t u : FileTree) (dir : Path) (id : SessionId) : Prop where
  keepsDirectories : FileTree.KeepsDirectories t u
  elsewhere : ∀ {m}, m ≠ t.resolve dir ++ [id.fileName] → u.entry? m = t.entry? m
  shelved : Shelved u dir (t.resolve dir) [id] fun _ => [(Tag.session, "start")]
  writable : u.Writable (id.path dir) (t.resolve dir ++ [id.fileName])

variable {t u : FileTree} {dir : Path} {id : SessionId}

namespace IsVacant

theorem locate (h : IsVacant t dir id) (hname : Path.IsFileName id.fileName) :
    t.locate (id.path dir) = .ok (t.resolve dir ++ [id.fileName]) := by
  obtain ⟨l, f, u, hcreate⟩ := h.canWrite
  obtain ⟨hl, -⟩ := FileTree.of_create_eq_ok hcreate
  rw [hl, ← FileTree.resolve_of_locate hl, SessionId.path, FileTree.resolve_join _ _ hname]

theorem entry?_eq_none (h : IsVacant t dir id) (hname : Path.IsFileName id.fileName)
    (htext : id.text ≠ "") : t.entry? (t.resolve dir ++ [id.fileName]) = none := by
  obtain ⟨l, f, u, hcreate⟩ := h.canWrite
  obtain ⟨hl, hmade⟩ := FileTree.of_create_eq_ok hcreate
  obtain rfl := Except.ok.inj (hl.symm.trans (h.locate hname))
  rcases hmade with ⟨-, hentry, -⟩ | ⟨hnone, -⟩
  · exact absurd hentry (h.noLogs (SessionId.isLogName_fileName htext))
  · exact hnone

theorem shelved (h : IsVacant t dir id) (entries : SessionId → List (String × String)) :
    Shelved t dir (t.resolve dir) [] entries where
  place := rfl
  name := by simp
  locate := by simp
  held := by simp
  others := fun hname hf => absurd hf (h.noLogs hname)

theorem mode_of_find (h : IsVacant t dir id) (hname : Path.IsFileName id.fileName)
    (htext : id.text ≠ "") {mode : Nat} (hfind : t.find dir = .ok (.directory mode)) :
    Mode.canWrite mode = true ∧ Mode.canEnter mode = true := by
  have hchange := FileTree.canChange_of_canWrite h.canWrite (h.locate hname)
    (h.entry?_eq_none hname htext)
  obtain ⟨l, hlocate, hentry⟩ := FileTree.find_eq_ok_iff.mp hfind
  obtain rfl := FileTree.resolve_of_locate hlocate
  simpa [FileTree.canChange, hentry] using hchange

end IsVacant

theorem started_append (log : SessionLog) (hname : Path.IsFileName log.id.fileName)
    (htext : log.id.text ≠ "") {now : Instant} (hnow : now.HasPlainYear) {ids : List SessionId}
    (hids : ∀ other ∈ ids, other = log.id)
    (hshelved : Shelved t log.dir (t.resolve log.dir) ids fun _ => []) (hwrite : t.CanWrite log.path) :
    Started t (log.append now Tag.session "start" t) log.dir log.id := by
  have hmem : ∀ other, other ∈ [log.id] ↔ other ∈ ids ∨ other = log.id := by
    intro other
    rw [List.mem_singleton]
    exact ⟨Or.inr, fun hor => hor.elim (hids other) fun heq => heq⟩
  obtain ⟨hnext, happended⟩ := hshelved.append log [log.id] (fun _ => [(Tag.session, "start")]) rfl
    hwrite (Record.isReadable_session hnow "start") hname htext (fun _ => rfl) hmem rfl
    fun other hother hne => absurd (hids other hother) hne
  obtain ⟨l, f, u, hcreate⟩ := hwrite
  obtain ⟨hlocate, -⟩ := FileTree.of_create_eq_ok hcreate
  obtain rfl : t.resolve log.dir ++ [log.id.fileName] = l := by
    rw [← FileTree.resolve_of_locate hlocate, path, SessionId.path, FileTree.resolve_join _ _ hname]
  exact
    { keepsDirectories := happended.keepsDirectories
      elsewhere := happended.elsewhere
      shelved := hnext
      writable := FileTree.CanWrite.writable ⟨_, f, u, hcreate⟩ hlocate happended }

theorem IsVacant.shelved_create (h : IsVacant t dir id) (hname : Path.IsFileName id.fileName)
    (htext : id.text ≠ "")
    (hu : FileTree.Appended t u (t.resolve dir ++ [id.fileName]) []) :
    Shelved u dir (t.resolve dir) [id] fun _ => [] where
  place := hu.keepsDirectories.resolve dir
  name := by simpa using hname
  locate := by simpa using hu.keepsDirectories.locate (h.locate hname)
  held := by
    obtain ⟨g, hg | ⟨-, rfl⟩, hnew⟩ := hu.file
    · exact absurd hg (h.noLogs (SessionId.isLogName_fileName htext))
    · have hholds : Holds u (t.resolve dir ++ [id.fileName]) [] :=
        ⟨_, [], hnew, FileTree.canRead_newFile, by simp [FileTree.newFile], by simp, rfl⟩
      simpa using hholds
  others := by
    intro name f hlog hf
    refine ⟨id, by simp, ?_⟩
    by_contra hne
    rw [hu.elsewhere (by simpa using Ne.symm hne)] at hf
    exact h.noLogs hlog hf

theorem start_of_isVacant {s : LogSettings} (h : IsVacant t s.dir id)
    (hname : Path.IsFileName id.fileName) (htext : id.text ≠ "") {now : Instant}
    (hnow : now.HasPlainYear) :
    ∃ u, start s id now t = (.ok { id, dir := s.dir }, u) ∧ Started t u s.dir id := by
  obtain ⟨mode, hfind, -⟩ := h.listed
  cases hmode : s.mode with
  | lenient =>
      refine ⟨_, start_of_lenient hmode id now t, ?_⟩
      rw [FileTree.makeDirectories_of_find hfind]
      exact started_append { id, dir := s.dir } hname htext hnow (by simp)
        (h.shelved _) h.canWrite
  | strict =>
      have hcheck : checkDirectory s.dir t = .ok () := by
        have hwrite := (h.mode_of_find hname htext hfind).1
        simp only [Mode.canWrite] at hwrite
        simp [checkDirectory, hfind, Mode.isReadOnly, hwrite]
      obtain ⟨l, f, v, hcreate⟩ := h.canWrite
      obtain ⟨hlocate, -⟩ := FileTree.of_create_eq_ok hcreate
      obtain rfl := Except.ok.inj (hlocate.symm.trans (h.locate hname))
      have hempty := FileTree.appended_of_create hcreate (h.entry?_eq_none hname htext)
      have hplace := hempty.keepsDirectories.resolve s.dir
      have hshelved := h.shelved_create hname htext hempty
      have hprune : prune { id, dir := s.dir } s.maxFiles v = (0, v) := by
        refine prune_eq (fun {name f} hlog hf => ?_) s.maxFiles
        rw [hplace] at hf
        simpa [eq_comm] using hshelved.others hlog hf
      rw [← hplace] at hshelved
      have hstarted := started_append { id, dir := s.dir } hname htext hnow (by simp) hshelved
        (h.canWrite.writable hlocate hempty).canWrite
      refine ⟨append { id, dir := s.dir } now Tag.session "start" v, ?_, ?_⟩
      · simp only [start, hmode, hcheck, path, hcreate, hprune]
      · exact
          { keepsDirectories := hempty.keepsDirectories.trans hstarted.keepsDirectories
            elsewhere := fun hm =>
              (hstarted.elsewhere (by rw [hplace]; exact hm)).trans (hempty.elsewhere hm)
            shelved := hplace ▸ hstarted.shelved
            writable := hplace ▸ hstarted.writable }

end SessionLog

end Logbook
