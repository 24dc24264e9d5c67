import Logbook.Proofs.Files.Reordered
import Logbook.Proofs.Search.Sources
import Logbook.Proofs.SessionLog.Pruning

namespace Logbook

variable {t u : FileTree}

theorem IsLogListing.reorder {here : Location} {mode : Nat} {logs : List (String × File)}
    (hlisting : IsLogListing t here mode logs) (h : t.Reordered u) :
    IsLogListing u here mode logs where
  sorted := hlisting.sorted
  mem_iff := fun name f => by rw [h.entry?_eq, hlisting.mem_iff]

namespace Archive

variable (a : Archive)

theorem HasLines.reorder {a : Archive} {source : Source} {lines : List String}
    (hlines : a.HasLines t source lines) (h : t.Reordered u) : a.HasLines u source lines := by
  cases hlines with
  | logs hfind hread hlisting hpieces =>
      rw [← h.find_eq] at hfind
      rw [← h.resolve_eq] at hlisting
      exact HasLines.logs hfind hread (hlisting.reorder h) hpieces
  | history hfind hpieces => exact HasLines.history (by rw [h.find_eq, hfind]) hpieces

theorem lines?_reorder (h : t.Reordered u) (source : Source) :
    a.lines? u source = a.lines? t source := by
  ext lines
  rw [lines?_eq_some_iff, lines?_eq_some_iff]
  exact ⟨fun hlines => hlines.reorder h.symm, fun hlines => hlines.reorder h⟩

end Archive

namespace SessionFile

theorem list_reorder (h : t.Reordered u) (dir : Path) : list dir u = list dir t := by
  have hcontains : u.contains dir = t.contains dir := by
    rw [FileTree.contains, FileTree.contains, h.find_eq]
  by_cases hlisted : ∃ mode, t.find dir = .ok (.directory mode) ∧ Mode.canRead mode = true ∧
      Mode.canEnter mode = true
  · obtain ⟨mode, hfind, hread, henter⟩ := hlisted
    obtain ⟨listing, hlist, hnewest⟩ := exists_list hfind hread henter
    obtain ⟨others, hothers, hnewest'⟩ := exists_list (h.find_eq dir ▸ hfind) hread henter
    rw [h.resolve_eq] at hnewest'
    rw [hlist, hothers, hnewest.unique (hnewest'.congr fun l => (h.entry?_eq l).symm)]
  · rw [list, list, hcontains, h.files_eq_of_not_listed hlisted]

end SessionFile

namespace SessionLog

theorem removeOne_reorder (h : t.Reordered u) (dir : Path) (n : Nat) (f : SessionFile) :
    (removeOne dir (n, u) f).1 = (removeOne dir (n, t) f).1 ∧
      (removeOne dir (n, t) f).2.Reordered (removeOne dir (n, u) f).2 := by
  have hremove := h.remove (dir.join f.name)
  rw [removeOne, removeOne]
  generalize t.remove (dir.join f.name) = x at *
  generalize u.remove (dir.join f.name) = y at *
  cases hremove with
  | ok hnext => exact ⟨rfl, hnext⟩
  | error fault => exact ⟨rfl, h⟩

theorem foldl_removeOne_reorder (h : t.Reordered u) (dir : Path) (files : List SessionFile) (n : Nat) :
    (files.foldl (removeOne dir) (n, u)).1 = (files.foldl (removeOne dir) (n, t)).1 ∧
      (files.foldl (removeOne dir) (n, t)).2.Reordered (files.foldl (removeOne dir) (n, u)).2 := by
  induction files generalizing n t u with
  | nil => exact ⟨rfl, h⟩
  | cons f files ih =>
      obtain ⟨hcount, hnext⟩ := removeOne_reorder h dir n f
      have hrest := ih hnext (removeOne dir (n, t) f).1
      rwa [← hcount, Prod.mk.eta, hcount] at hrest

theorem prune_reorder (h : t.Reordered u) (log : SessionLog) (max : Nat) :
    (log.prune max u).1 = (log.prune max t).1 ∧
      (log.prune max t).2.Reordered (log.prune max u).2 := by
  rw [prune, prune, SessionFile.list_reorder h]
  split
  · exact ⟨rfl, h⟩
  · exact foldl_removeOne_reorder h log.dir _ 0

end SessionLog

/-- Whatever the order in which directories list their entries, searches of the logs and of the history have
the same outcome, the last commands and the listing of a directory's logs are the same, and the same old logs
go. In a directory that can be read and entered, the listing names each log once, the newest first, and of two
equally new ones the one with the greater name. -/
theorem order_of_entries_immaterial (h : t.Reordered u) :
    (∀ (a : Archive) (q : Query) (source : Source), a.search u q source = a.search t q source) ∧
      (∀ (a : Archive) (limit : Nat), a.recentCommands u limit = a.recentCommands t limit) ∧
      (∀ dir, SessionFile.list dir u = SessionFile.list dir t) ∧
      (∀ dir mode, t.find dir = .ok (.directory mode) → Mode.canRead mode = true →
        Mode.canEnter mode = true → ∃ listing, SessionFile.list dir t = .ok listing ∧
          IsNewestFirst t (t.resolve dir) listing ∧ (listing.map SessionFile.name).Nodup) ∧
      ∀ (log : SessionLog) (max : Nat), (log.prune max u).1 = (log.prune max t).1 ∧
        (log.prune max t).2.Reordered (log.prune max u).2 := by
  refine ⟨fun a q source => ?_, fun a limit => ?_, SessionFile.list_reorder h,
    fun dir mode hfind hread henter => ?_, SessionLog.prune_reorder h⟩
  · rw [Archive.search, Archive.search, a.lines?_reorder h]
  · rw [Archive.recentCommands, Archive.recentCommands, a.lines?_reorder h]
  · obtain ⟨listing, hlist, hnewest⟩ := SessionFile.exists_list hfind hread henter
    exact ⟨listing, hlist, hnewest, hnewest.nodup_names⟩

namespace SessionLog

def tiedLogs : FileTree where
  entries :=
    [(["logs"], .directory Mode.newDirectory),
      (["logs", "20250101-000000.log"], .file ⟨[0x61], ⟨1735700000, 0, by decide⟩, Mode.newFile⟩),
      (["logs", "20250102-030405.log"], .file ⟨[0x62], ⟨1735700000, 0, by decide⟩, Mode.newFile⟩)]
  clock := ⟨1735700100, 0, by decide⟩
  workingDirectory := []
  nodup := by simp

def tiedListing : List SessionFile :=
  [⟨"20250102-030405.log", 1, ⟨1735700000, 0, by decide⟩⟩,
    ⟨"20250101-000000.log", 1, ⟨1735700000, 0, by decide⟩⟩]

theorem entry?_tiedLogs_eq_file_iff {name : String} {f : File} :
    FileTree.entry? tiedLogs (["logs"] ++ [name]) = some (.file f) ↔
      name = "20250101-000000.log" ∧ f = ⟨[0x61], ⟨1735700000, 0, by decide⟩, Mode.newFile⟩ ∨
        name = "20250102-030405.log" ∧ f = ⟨[0x62], ⟨1735700000, 0, by decide⟩, Mode.newFile⟩ := by
  rw [FileTree.entry?_eq_some_iff_mem (by simp)]
  simp [tiedLogs]

theorem isNewestFirst_tiedLogs : IsNewestFirst tiedLogs ["logs"] tiedListing where
  sorted := by decide
  mem_iff := by
    intro s
    have hlater : SessionId.isLogName "20250102-030405.log" = true := by decide
    have hearlier : SessionId.isLogName "20250101-000000.log" = true := by decide
    simp only [tiedListing, List.mem_cons, List.not_mem_nil, or_false, entry?_tiedLogs_eq_file_iff]
    constructor
    · rintro (rfl | rfl)
      · exact ⟨hlater, _, Or.inr ⟨rfl, rfl⟩, rfl⟩
      · exact ⟨hearlier, _, Or.inl ⟨rfl, rfl⟩, rfl⟩
    · rintro ⟨-, f, ⟨hs, rfl⟩ | ⟨hs, rfl⟩, heq⟩
      · rw [heq, hs]
        exact Or.inr rfl
      · rw [heq, hs]
        exact Or.inl rfl

theorem tied_logs_in_either_order :
    let t := tiedLogs
    let u := tiedLogs.reversed
    t.Reordered u ∧ u.entries ≠ t.entries ∧
      t.find earlierLog.dir = .ok (.directory Mode.newDirectory) ∧
      SessionFile.list earlierLog.dir u = .ok tiedListing ∧
      (tiedListing.map SessionFile.name).Nodup ∧
      (earlierLog.prune 0 u).1 = 1 ∧
      FileTree.entry? (earlierLog.prune 0 u).2 ["logs", "20250102-030405.log"] = none := by
  intro t u
  have h : t.Reordered u := tiedLogs.reordered_reversed
  have hfind : t.find earlierLog.dir = .ok (.directory Mode.newDirectory) := by decide +kernel
  have hplace : t.resolve earlierLog.dir = ["logs"] := by decide +kernel
  obtain ⟨-, -, hlist, hnamed, hprune⟩ := order_of_entries_immaterial h
  obtain ⟨listing, hlisting, hnewest, hnodup⟩ := hnamed earlierLog.dir _ hfind (by decide) (by decide)
  obtain rfl : listing = tiedListing := hnewest.unique (hplace ▸ isNewestFirst_tiedLogs)
  obtain ⟨hcount, hleft⟩ := hprune earlierLog 0
  refine ⟨h, by decide +kernel, hfind, (hlist _).trans hlisting, hnodup, ?_, ?_⟩
  · rw [hcount, prune, hlisting]
    decide +kernel
  · rw [hleft.entry?_eq, prune, hlisting]
    decide +kernel

/-- In a directory that can be read but not entered no log is listed, although there are logs. -/
theorem unentered_directory_lists_none :
    let t := oldLogs 0o444
    t.find ⟨"/logs"⟩ = .ok (.directory 0o444) ∧ IsNewestFirst t ["logs"] oldListing ∧
      SessionFile.list ⟨"/logs"⟩ t = .ok [] ∧
      ¬∃ listing, SessionFile.list ⟨"/logs"⟩ t = .ok listing ∧
        ∀ name f, SessionId.isLogName name = true → t.entry? (["logs"] ++ [name]) = some (.file f) →
          (listing.map SessionFile.name).count name = 1 := by
  intro t
  have hlist : SessionFile.list ⟨"/logs"⟩ t = .ok [] := by decide +kernel
  refine ⟨by decide +kernel, isNewestFirst_oldLogs _, hlist, ?_⟩
  rintro ⟨listing, hlisting, hall⟩
  obtain rfl : [] = listing := Except.ok.inj (hlist.symm.trans hlisting)
  have hcount := hall "20250101-000000.log" _ (by decide)
    (entry?_oldLogs_eq_file_iff.mpr (Or.inr ⟨Or.inl rfl, rfl⟩))
  simp at hcount

end SessionLog

end Logbook
