import Logbook.Proofs.Files.Removing
import Logbook.Proofs.SessionLog.Newest
import Logbook.Proofs.SessionLog.Start

/-!
What opening a log makes of the files. A strict log that cannot be opened leaves no trace; one that is
opened adds its first record to its own file, and old logs of the directory may go, but nothing else
does.
-/

namespace Logbook

namespace FileTree

variable {t u : FileTree} {p : Path} {l : Location} {f : File}

theorem Made.isFileName {here : Location} {name : String} (h : Made t u (here ++ [name]) f)
    (hnamed : t.IsNamed) (hname : Path.IsFileName name) {other : String} {g : File}
    (hg : u.entry? (here ++ [other]) = some (.file g)) : Path.IsFileName other := by
  by_cases hother : other = name
  · exact hother ▸ hname
  · rw [h.elsewhere (by simpa using hother)] at hg
    exact hnamed.isFileName hg

theorem Made.entry?_of_loses {here : Location} {name : String} {names : List String} {v : FileTree}
    (h : Made t u (here ++ [name]) f) (hv : Loses u v here names) (hname : name ∉ names) :
    v.entry? (here ++ [name]) = some (.file f) :=
  (hv.entry?_of_notMem hname).trans h.entry

theorem append_of_create_eq_error {fault : FileFault} (h : t.create p = .error fault)
    (bytes : List UInt8) : t.append p bytes = .error fault := by
  simp [append, h, bind, Except.bind]

theorem canChange_of_entry?_eq {here : Location} (h : t.canChange here = true)
    (hu : KeepsDirectories t u) : u.canChange here = true := by
  simp only [canChange] at h ⊢
  split at h
  · rename_i hentry
    rw [hu.directory hentry]
    exact h
  · simp at h

end FileTree

theorem IsNewestFirst.cons_made {t u : FileTree} {here : Location} {listing : List SessionFile}
    (h : IsNewestFirst t here listing) {name : String} (hname : SessionId.isLogName name = true)
    (hnone : t.entry? (here ++ [name]) = none)
    {f : File} (hmade : FileTree.Made t u (here ++ [name]) f)
    (hfirst : ∀ other ∈ listing, (SessionFile.ofFile name f).Precedes other) :
    IsNewestFirst u here (.ofFile name f :: listing) where
  sorted := List.pairwise_cons.mpr ⟨hfirst, h.sorted⟩
  mem_iff := by
    intro s
    rw [List.mem_cons, h.mem_iff]
    by_cases hs : s.name = name
    · rw [hs, hmade.entry, hnone]
      constructor
      · rintro (rfl | ⟨-, g, hg, -⟩)
        · exact ⟨hname, f, rfl, rfl⟩
        · simp at hg
      · rintro ⟨-, g, hg, rfl⟩
        obtain rfl : f = g := by simpa using hg
        exact Or.inl rfl
    · have hne : s ≠ .ofFile name f := by
        rintro rfl
        exact hs rfl
      rw [hmade.elsewhere (by simpa using hs)]
      simp [hne]

namespace SessionLog

variable {dir : Path} {here : Location} {t u : FileTree}

theorem loses_removeOne (dir : Path) (state : Nat × FileTree) {f : SessionFile}
    (hname : Path.IsFileName f.name) :
    FileTree.Loses state.2 (removeOne dir state f).2 (state.2.resolve dir) [f.name] := by
  rw [removeOne]
  split
  · exact FileTree.loses_of_remove hname ‹_›
  · exact FileTree.Loses.refl _ _ _

theorem loses_foldl_removeOne (dir : Path) {files : List SessionFile}
    (h : ∀ f ∈ files, Path.IsFileName f.name) (state : Nat × FileTree) :
    FileTree.Loses state.2 (files.foldl (removeOne dir) state).2 (state.2.resolve dir)
      (files.map SessionFile.name) := by
  induction files generalizing state with
  | nil => exact FileTree.Loses.refl _ _ _
  | cons f files ih =>
      rw [List.forall_mem_cons] at h
      have hfirst := loses_removeOne dir state h.1
      have hrest := ih h.2 (removeOne dir state f)
      rw [hfirst.keepsDirectories.resolve] at hrest
      exact hfirst.trans hrest

theorem entry?_foldl_removeOne {files : List SessionFile} (h : ∀ f ∈ files, Path.IsFileName f.name)
    (state : Nat × FileTree) (hlocate : state.2.locate dir = .ok here)
    (hchange : state.2.canChange here = true)
    (hfiles : ∀ f ∈ files, ∀ mode, FileTree.entry? state.2 (here ++ [f.name]) ≠ some (.directory mode)) :
    ∀ f ∈ files, FileTree.entry? (files.foldl (removeOne dir) state).2 (here ++ [f.name]) = none := by
  induction files generalizing state with
  | nil => simp
  | cons f files ih =>
      rw [List.forall_mem_cons] at h hfiles ⊢
      have hfirst := loses_removeOne dir state h.1
      have hrest := loses_foldl_removeOne dir h.2 (removeOne dir state f)
      rw [hfirst.keepsDirectories.resolve] at hrest
      constructor
      · -- What the first step removes stays gone when the later files go.
        apply hrest.entry?_eq_none
        cases hentry : FileTree.entry? state.2 (here ++ [f.name]) with
        | none => exact hfirst.entry?_eq_none hentry
        | some e =>
            cases e with
            | directory mode => exact absurd hentry (hfiles.1 mode)
            | file g =>
                rw [removeOne, FileTree.remove_of_canChange hlocate hchange h.1 hentry]
                exact (FileTree.entry?_erase (by simp) _).trans (if_pos rfl)
      · refine ih h.2 _ (hfirst.keepsDirectories.locate hlocate)
          (FileTree.canChange_of_entry?_eq hchange hfirst.keepsDirectories) ?_
        intro g hg mode
        rcases hfirst.entry (here ++ [g.name]) with hkept | ⟨-, -, hnone⟩
        · rw [hkept]
          exact hfiles.2 g hg mode
        · simp [hnone]

/-- The logs that go when a number of them is kept: all that come later in the listing, but never the log
itself. -/
def surplus (log : SessionLog) (max : Nat) (listing : List SessionFile) : List SessionFile :=
  (listing.drop max).filter fun f => f.name ≠ log.id.fileName

theorem prune_of_list {log : SessionLog} {listing : List SessionFile}
    (h : SessionFile.list log.dir t = .ok listing) (max : Nat) :
    log.prune max t = (log.surplus max listing).foldl (removeOne log.dir) (0, t) := by
  rw [prune, h]
  rfl

theorem mem_surplus {log : SessionLog} {max : Nat} {listing : List SessionFile} {f : SessionFile} :
    f ∈ log.surplus max listing ↔ f ∈ listing.drop max ∧ f.name ≠ log.id.fileName := by
  simp [surplus]

theorem prune_of_not_canRead {log : SessionLog} {mode : Nat}
    (hfind : t.find log.dir = .ok (.directory mode)) (hread : Mode.canRead mode = false) (max : Nat) :
    log.prune max t = (0, t) := by
  have hcontains : t.contains log.dir = true := by simp [FileTree.contains, hfind]
  have hlist : SessionFile.list log.dir t = .error .permissionDenied := by
    simp [SessionFile.list, hcontains, FileTree.files_of_find hfind, hread, bind, Except.bind]
  rw [prune, hlist]

theorem loses_prune (log : SessionLog) (max : Nat)
    (hnames : ∀ {name f}, t.entry? (t.resolve log.dir ++ [name]) = some (.file f) →
      Path.IsFileName name) :
    ∃ names : List String, FileTree.Loses t (log.prune max t).2 (t.resolve log.dir) names ∧
      ∀ name ∈ names, SessionId.isLogName name = true ∧ name ≠ log.id.fileName := by
  cases hlist : SessionFile.list log.dir t with
  | error fault =>
      refine ⟨[], ?_, by simp⟩
      rw [prune, hlist]
      exact FileTree.Loses.refl _ _ _
  | ok listing =>
      have hlisted : ∀ f ∈ log.surplus max listing, SessionId.isLogName f.name = true ∧
          Path.IsFileName f.name ∧ f.name ≠ log.id.fileName := by
        intro f hf
        obtain ⟨hdrop, hne⟩ := mem_surplus.mp hf
        obtain ⟨hlog, g, hg⟩ := list_names hlist (List.mem_of_mem_drop hdrop)
        exact ⟨hlog, hnames hg, hne⟩
      refine ⟨(log.surplus max listing).map SessionFile.name, ?_, ?_⟩
      · rw [prune_of_list hlist]
        exact loses_foldl_removeOne log.dir (fun f hf => (hlisted f hf).2.1) (0, t)
      · intro name hname
        obtain ⟨f, hf, rfl⟩ := List.mem_map.mp hname
        exact ⟨(hlisted f hf).1, (hlisted f hf).2.2⟩

/-- A strict log that cannot be opened is ended, but the end cannot be written either. -/
theorem eq_of_start_eq_error {s : LogSettings} (hmode : s.mode = .strict) {id : SessionId}
    {now : Instant} {fault : LogFault} (h : start s id now t = (.error fault, u)) : u = t := by
  simp only [start, hmode] at h
  split at h
  · exact (Prod.mk.inj h).2.symm
  · split at h
    · rename_i hcreate
      obtain ⟨-, rfl⟩ := Prod.mk.inj h
      rw [finish_of_not_ended rfl, append, FileTree.append_of_create_eq_error hcreate]
      rfl
    · simp at h

theorem of_start_eq_ok {s : LogSettings} (hmode : s.mode = .strict) {id : SessionId}
    {now : Instant} {log : SessionLog} (h : start s id now t = (.ok log, u)) :
    log = { id, dir := s.dir } ∧ (∃ mode, t.find s.dir = .ok (.directory mode)) ∧
      ∃ l f v, t.create (id.path s.dir) = .ok (l, f, v) ∧
        u = append { id, dir := s.dir } now Tag.session "start"
          (prune { id, dir := s.dir } s.maxFiles v).2 := by
  simp only [start, hmode] at h
  split at h
  · simp at h
  · rename_i hcheck
    split at h
    · simp at h
    · rename_i l f v hcreate
      obtain ⟨hlog, hu⟩ := Prod.mk.inj h
      refine ⟨(Except.ok.inj hlog).symm, ?_, l, f, v, hcreate, hu.symm⟩
      simp only [checkDirectory] at hcheck
      split at hcheck
      · exact ⟨_, ‹_›⟩
      · simp at hcheck

theorem exists_file_prune_iff (log : SessionLog) (max : Nat) {listing : List SessionFile}
    (hnames : ∀ {name f}, t.entry? (here ++ [name]) = some (.file f) → Path.IsFileName name)
    (hlocate : t.locate log.dir = .ok here) (hchange : t.canChange here = true)
    (hlist : SessionFile.list log.dir t = .ok listing) (hlisting : IsNewestFirst t here listing)
    {name : String} (hname : SessionId.isLogName name = true) :
    (∃ f, FileTree.entry? (log.prune max t).2 (here ++ [name]) = some (.file f)) ↔
      name ∈ listing.map SessionFile.name ∧ name ∉ (log.surplus max listing).map SessionFile.name := by
  have hplace := FileTree.resolve_of_locate hlocate
  have hfiles : ∀ f ∈ log.surplus max listing,
      Path.IsFileName f.name ∧ ∃ g, t.entry? (here ++ [f.name]) = some (.file g) := by
    intro f hf
    obtain ⟨-, g, hg, -⟩ := (hlisting.mem_iff f).mp (List.mem_of_mem_drop (mem_surplus.mp hf).1)
    exact ⟨hnames hg, g, hg⟩
  have hloses := loses_foldl_removeOne log.dir (fun f hf => (hfiles f hf).1) (0, t)
  rw [hplace] at hloses
  rw [prune_of_list hlist]
  constructor
  · rintro ⟨f, hf⟩
    by_cases hgone : name ∈ (log.surplus max listing).map SessionFile.name
    · obtain ⟨g, hg, rfl⟩ := List.mem_map.mp hgone
      have hnone := entry?_foldl_removeOne (fun f hf => (hfiles f hf).1) (0, t) hlocate hchange
        (fun f hf mode => by obtain ⟨-, g, hg⟩ := hfiles f hf; simp [hg]) g hg
      rw [hnone] at hf
      simp at hf
    · rw [hloses.entry?_of_notMem hgone] at hf
      have hmem := (hlisting.mem_iff (.ofFile name f)).mpr ⟨hname, f, hf, rfl⟩
      exact ⟨List.mem_map_of_mem hmem, hgone⟩
  · rintro ⟨hmem, hstays⟩
    obtain ⟨s, hs, rfl⟩ := List.mem_map.mp hmem
    obtain ⟨-, f, hf, -⟩ := (hlisting.mem_iff s).mp hs
    exact ⟨f, by rw [hloses.entry?_of_notMem hstays, hf]⟩

theorem mem_map_surplus {log : SessionLog} {max : Nat} {listing : List SessionFile} {name : String}
    (hname : name ≠ log.id.fileName) :
    name ∈ (log.surplus max listing).map SessionFile.name ↔
      name ∈ (listing.drop max).map SessionFile.name := by
  simp only [List.mem_map, mem_surplus]
  constructor
  · rintro ⟨f, ⟨hf, -⟩, rfl⟩
    exact ⟨f, hf, rfl⟩
  · rintro ⟨f, hf, rfl⟩
    exact ⟨f, ⟨hf, hname⟩, rfl⟩

theorem canWrite_of_append {log : SessionLog} {now : Instant} {tag text : String}
    (h : (log.append now tag text t).CanWrite log.path) : t.CanWrite log.path := by
  cases hcreate : t.create log.path with
  | error fault =>
      rw [append, FileTree.append_of_create_eq_error hcreate] at h
      exact h
  | ok made => exact ⟨_, _, _, hcreate⟩

theorem appended_of_writable (log : SessionLog) {l : Location} (h : t.Writable log.path l)
    (now : Instant) (tag text : String) :
    FileTree.Appended t (log.append now tag text t) l (lineBytes ⟨now, tag, text⟩) := by
  obtain ⟨m, hm, happended⟩ := appended_append h.canWrite now tag text
  rwa [Except.ok.inj (hm.symm.trans h.1)] at happended

/-- A regular file of a directory that is named like a log. -/
def IsLogFile (t : FileTree) (here l : Location) : Prop :=
  ∃ name f, SessionId.isLogName name = true ∧ l = here ++ [name] ∧ t.entry? l = some (.file f)

/-- How a strict log is opened: its file is made, old logs go, and the first record is added. -/
structure Opening (s : LogSettings) (id : SessionId) (now : Instant) (t v u : FileTree) (f : File) :
    Prop where
  made : FileTree.Made t v (t.resolve s.dir ++ [id.fileName]) f
  changes : t.entry? (t.resolve s.dir ++ [id.fileName]) = none → t.canChange (t.resolve s.dir) = true
  goes : ∃ names : List String,
    FileTree.Loses v (prune { id, dir := s.dir } s.maxFiles v).2 (t.resolve s.dir) names ∧
      ∀ name ∈ names, SessionId.isLogName name = true ∧ name ≠ id.fileName
  appended : FileTree.Appended (prune { id, dir := s.dir } s.maxFiles v).2 u
    (t.resolve s.dir ++ [id.fileName]) (lineBytes ⟨now, Tag.session, "start"⟩)

theorem opening_of_start {s : LogSettings} {id : SessionId} (hname : Path.IsFileName id.fileName)
    (hnamed : t.IsNamed) (hmode : s.mode = .strict) {now : Instant} {log : SessionLog}
    (h : start s id now t = (.ok log, u)) : ∃ f v, Opening s id now t v u f := by
  obtain ⟨-, -, l, f, v, hcreate, rfl⟩ := of_start_eq_ok hmode h
  obtain ⟨hlocate, -⟩ := FileTree.of_create_eq_ok hcreate
  obtain rfl : l = t.resolve s.dir ++ [id.fileName] := by
    rw [← FileTree.resolve_of_locate hlocate, SessionId.path, FileTree.resolve_join _ _ hname]
  have hmade := FileTree.made_of_create hcreate
  have hplace := hmade.keepsDirectories.resolve s.dir
  obtain ⟨names, hloses, hlogs⟩ := loses_prune { id, dir := s.dir } s.maxFiles fun hg =>
    hmade.isFileName hnamed hname (hplace ▸ hg)
  rw [hplace] at hloses
  have hentry := hmade.entry?_of_loses hloses fun hmem => (hlogs _ hmem).2 rfl
  have hkeeps := hmade.keepsDirectories.trans hloses.keepsDirectories
  refine ⟨f, v, hmade, fun hnone => ?_, ⟨names, hloses, hlogs⟩, ?_⟩
  · simpa using FileTree.canChange_of_canWrite ⟨_, f, v, hcreate⟩ hlocate hnone
  · exact appended_of_writable { id, dir := s.dir }
      ⟨hkeeps.locate hlocate, f, hentry, hmade.canWrite⟩ now Tag.session "start"

namespace Opening

variable {s : LogSettings} {id : SessionId} {now : Instant} {v : FileTree} {f : File}

theorem own (h : Opening s id now t v u f) :
    t.Opens (t.resolve s.dir ++ [id.fileName]) f ∧
      u.entry? (t.resolve s.dir ++ [id.fileName]) =
        some (.file { f with
          bytes := f.bytes ++ lineBytes ⟨now, Tag.session, "start"⟩, modified := t.clock }) := by
  refine ⟨h.made.opens, ?_⟩
  obtain ⟨names, hloses, hlogs⟩ := h.goes
  have hentry := h.made.entry?_of_loses hloses fun hmem => (hlogs _ hmem).2 rfl
  obtain ⟨g, hg | ⟨hg, -⟩, hnew⟩ := h.appended.file
  · obtain rfl : f = g := by simpa [hentry] using hg
    rw [hnew, hloses.clock, h.made.clock]
  · simp [hentry] at hg

theorem elsewhere (h : Opening s id now t v u f) {l : Location}
    (hl : l ≠ t.resolve s.dir ++ [id.fileName]) :
    u.entry? l = t.entry? l ∨ IsLogFile t (t.resolve s.dir) l ∧ u.entry? l = none := by
  obtain ⟨names, hloses, hlogs⟩ := h.goes
  rw [h.appended.elsewhere hl, ← h.made.elsewhere hl]
  refine (hloses.entry l).imp_right ?_
  rintro ⟨⟨name, hname, rfl⟩, ⟨g, hg⟩, hnone⟩
  exact ⟨⟨name, g, (hlogs name hname).1, rfl, by rw [← h.made.elsewhere hl, hg]⟩, hnone⟩

theorem entry?_of_not_canRead (h : Opening s id now t v u f) {mode : Nat}
    (hfind : t.find s.dir = .ok (.directory mode)) (hread : Mode.canRead mode = false) {l : Location}
    (hl : l ≠ t.resolve s.dir ++ [id.fileName]) : u.entry? l = t.entry? l := by
  have hprune : prune { id, dir := s.dir } s.maxFiles v = (0, v) :=
    prune_of_not_canRead (h.made.keepsDirectories.find hfind) hread s.maxFiles
  rw [h.appended.elsewhere hl, hprune, h.made.elsewhere hl]

/-- A new log leaves the newest of all logs in the directory, itself among them or beside them. -/
theorem exists_file_iff (h : Opening s id now t v u f) (hnamed : t.IsNamed)
    (hfile : Path.IsFileName id.fileName)
    (hnone : t.entry? (t.resolve s.dir ++ [id.fileName]) = none) {mode : Nat}
    (hfind : t.find s.dir = .ok (.directory mode)) (hread : Mode.canRead mode = true)
    {listing : List SessionFile} (hlisting : IsNewestFirst v (t.resolve s.dir) listing) {name : String}
    (hname : SessionId.isLogName name = true) :
    (∃ g, u.entry? (t.resolve s.dir ++ [name]) = some (.file g)) ↔
      name = id.fileName ∨ name ∈ (listing.take s.maxFiles).map SessionFile.name := by
  have hchange := h.changes hnone
  have hkeeps := h.made.keepsDirectories
  have henter : Mode.canEnter mode = true := by
    simp only [FileTree.canChange, FileTree.entry?_of_find hfind, Bool.and_eq_true] at hchange
    exact hchange.2
  obtain ⟨found, hlist, hfound⟩ := SessionFile.exists_list (hkeeps.find hfind) hread henter
  rw [hkeeps.resolve] at hfound
  obtain rfl := hfound.unique hlisting
  by_cases hown : name = id.fileName
  · simp [hown, h.own.2]
  · rw [h.appended.elsewhere (by simpa using hown), exists_file_prune_iff { id, dir := s.dir }
      s.maxFiles (fun hg => h.made.isFileName hnamed hfile hg)
      (hkeeps.locate (FileTree.locate_of_find hfind)) (FileTree.canChange_of_entry?_eq hchange hkeeps)
      hlist hlisting hname, mem_map_surplus hown, or_iff_right hown]
    exact hlisting.mem_take_iff.symm

end Opening

theorem exists_file_append (log : SessionLog) (now : Instant) (tag text : String) {l : Location}
    {f : File} (h : t.entry? l = some (.file f)) :
    ∃ g, FileTree.entry? (log.append now tag text t) l = some (.file g) ∧ f.bytes <+: g.bytes := by
  rw [append]
  cases happend : t.append log.path (lineBytes ⟨now, tag, text⟩) with
  | error fault => exact ⟨f, h, List.prefix_refl _⟩
  | ok u =>
      obtain ⟨m, -, happended⟩ := FileTree.appended_of_append happend
      by_cases hl : l = m
      · subst hl
        exact happended.extends.grown f h
      · exact ⟨f, by rw [FileTree.orKeep, happended.elsewhere hl, h], List.prefix_refl _⟩

theorem start_lenient_keeps {s : LogSettings} (hmode : s.mode = .lenient) (id : SessionId)
    (now : Instant) :
    (∃ log, (start s id now t).1 = .ok log) ∧ ∀ l f, t.entry? l = some (.file f) →
      ∃ g, FileTree.entry? (start s id now t).2 l = some (.file g) ∧ f.bytes <+: g.bytes := by
  rw [start_of_lenient hmode]
  refine ⟨⟨_, rfl⟩, fun l f hf => ?_⟩
  exact exists_file_append _ now Tag.session "start"
    ((FileTree.addsDirectories_makeDirectories t s.dir).kept hf)

/-- What opening a log makes of the files. A strict log that is not opened changes nothing. One that is
opened adds its first record to its own file, which is made if it is missing; other files stay as they
are or are old logs of the directory that go, and none goes if the directory cannot be listed. If it can
be, and the own file is made, the own log and the newest of all logs stay, as many as are kept; if the own
log is the newest, it takes one of these places. A lenient log is always opened, and removes nothing. -/
theorem start_retains_newest (s : LogSettings) (session now : Instant) (t : FileTree)
    (hnamed : t.IsNamed) :
    let id := SessionId.ofInstant session
    let here := t.resolve s.dir
    let own := here ++ [id.fileName]
    let result := start s id now t
    (s.mode = .strict → ∀ fault, result.1 = .error fault → result.2 = t) ∧
    (s.mode = .strict → ∀ log, result.1 = .ok log →
      (∃ f, t.Opens own f ∧ FileTree.entry? result.2 own =
        some (.file { f with
          bytes := f.bytes ++ lineBytes ⟨now, Tag.session, "start"⟩, modified := t.clock })) ∧
      (∀ l, l ≠ own → FileTree.entry? result.2 l = t.entry? l ∨
        IsLogFile t here l ∧ FileTree.entry? result.2 l = none) ∧
      (∀ mode, t.find s.dir = .ok (.directory mode) → Mode.canRead mode = false →
        ∀ l, l ≠ own → FileTree.entry? result.2 l = t.entry? l) ∧
      (t.entry? own = none →
        (∃ mode, t.find s.dir = .ok (.directory mode) ∧ Mode.canRead mode = true) →
        (∀ listing, IsNewestFirst (t.put own (.file t.newFile)) here listing →
          ∀ name, SessionId.isLogName name = true →
            ((∃ f, FileTree.entry? result.2 (here ++ [name]) = some (.file f)) ↔
              name = id.fileName ∨ name ∈ (listing.take s.maxFiles).map SessionFile.name)) ∧
        (∀ others, IsNewestFirst t here others →
          (∀ other ∈ others, (SessionFile.ofFile id.fileName t.newFile).Precedes other) →
          ∀ name, SessionId.isLogName name = true →
            ((∃ f, FileTree.entry? result.2 (here ++ [name]) = some (.file f)) ↔ name = id.fileName ∨
              name ∈ (others.take (max s.maxFiles 1 - 1)).map SessionFile.name)))) ∧
    (s.mode = .lenient → (∃ log, result.1 = .ok log) ∧
      ∀ l f, t.entry? l = some (.file f) →
        ∃ g, FileTree.entry? result.2 l = some (.file g) ∧ f.bytes <+: g.bytes) := by
  intro id here own result
  refine ⟨fun hmode fault hfault => ?_, fun hmode log hlog => ?_, fun hmode => ?_⟩
  · exact eq_of_start_eq_error hmode (Prod.ext hfault rfl)
  · have hname := SessionId.isFileName_ofInstant session
    have hlogName := SessionId.isLogName_fileName (SessionId.text_ofInstant_ne_empty session)
    obtain ⟨f, v, hopening⟩ := opening_of_start hname hnamed hmode (Prod.ext hlog rfl)
    refine ⟨⟨f, hopening.own⟩, fun l => hopening.elsewhere,
      fun _ hfind hread l => hopening.entry?_of_not_canRead hfind hread, ?_⟩
    rintro hnone ⟨mode, hfind, hread⟩
    -- Old logs go after the own file has been made, so the listing is that of `t` with this file.
    have hleft : ∀ listing, IsNewestFirst (t.put own (.file t.newFile)) here listing →
        ∀ name, SessionId.isLogName name = true →
          ((∃ f, FileTree.entry? result.2 (here ++ [name]) = some (.file f)) ↔
            name = id.fileName ∨ name ∈ (listing.take s.maxFiles).map SessionFile.name) := by
      intro listing hlisting name
      exact hopening.exists_file_iff hnamed hname hnone hfind hread (hlisting.congr fun m => by
        rw [hopening.made.entry?_eq hnone, (FileTree.made_put hnone).entry?_eq hnone])
    refine ⟨hleft, fun others hothers hfirst name hlog' => ?_⟩
    rw [hleft _ (hothers.cons_made hlogName hnone (FileTree.made_put hnone) hfirst) name hlog']
    cases s.maxFiles with
    | zero => simp
    | succ max => simp [id, SessionFile.ofFile]
  · exact start_lenient_keeps hmode id now

def oldLogs (mode : Nat) : FileTree where
  entries :=
    [(["logs"], .directory mode),
      (["logs", "20250102-030405.log"], .file ⟨[], ⟨1735787045, 0, by decide⟩, Mode.newFile⟩),
      (["logs", "20250101-000000.log"], .file ⟨[], ⟨1735689600, 0, by decide⟩, Mode.newFile⟩),
      (["logs", "notes.txt"], .file ⟨[], ⟨1735689600, 0, by decide⟩, Mode.newFile⟩)]
  clock := ⟨1735787100, 0, by decide⟩
  workingDirectory := []
  nodup := by simp

def oldListing : List SessionFile :=
  [⟨"20250102-030405.log", 0, ⟨1735787045, 0, by decide⟩⟩,
    ⟨"20250101-000000.log", 0, ⟨1735689600, 0, by decide⟩⟩]

theorem entry?_oldLogs_eq_file_iff {mode : Nat} {name : String} {f : File} :
    FileTree.entry? (oldLogs mode) (["logs"] ++ [name]) = some (.file f) ↔
      name = "20250102-030405.log" ∧ f = ⟨[], ⟨1735787045, 0, by decide⟩, Mode.newFile⟩ ∨
        (name = "20250101-000000.log" ∨ name = "notes.txt") ∧
          f = ⟨[], ⟨1735689600, 0, by decide⟩, Mode.newFile⟩ := by
  rw [FileTree.entry?_eq_some_iff_mem (by simp)]
  simp [oldLogs, or_and_right]

theorem isNewestFirst_oldLogs (mode : Nat) : IsNewestFirst (oldLogs mode) ["logs"] oldListing where
  sorted := by decide
  mem_iff := by
    intro s
    have hlater : SessionId.isLogName "20250102-030405.log" = true := by decide
    have hearlier : SessionId.isLogName "20250101-000000.log" = true := by decide
    have hnotes : SessionId.isLogName "notes.txt" = false := by decide
    simp only [oldListing, List.mem_cons, List.not_mem_nil, or_false, entry?_oldLogs_eq_file_iff]
    constructor
    · rintro (rfl | rfl)
      · exact ⟨hlater, _, Or.inl ⟨rfl, rfl⟩, rfl⟩
      · exact ⟨hearlier, _, Or.inr ⟨Or.inl rfl, rfl⟩, rfl⟩
    · rintro ⟨hname, f, ⟨hs, rfl⟩ | ⟨hs | hs, rfl⟩, heq⟩
      · rw [heq, hs]
        exact Or.inl rfl
      · rw [heq, hs]
        exact Or.inr rfl
      · rw [hs, hnotes] at hname
        simp at hname

theorem third_log_retains_newest :
    let s : LogSettings := { dir := ⟨"/logs"⟩, mode := .strict, maxFiles := 2 }
    let now : Instant := ⟨1735787100, 0, by decide⟩
    let result := start s (SessionId.ofInstant now) now (oldLogs Mode.newDirectory)
    (oldLogs Mode.newDirectory).IsNamed ∧
      result.1 = .ok { id := SessionId.ofInstant now, dir := s.dir } ∧
      (∃ f, FileTree.entry? result.2 (["logs"] ++ ["20250102-030405.log"]) = some (.file f)) ∧
      ¬∃ f, FileTree.entry? result.2 (["logs"] ++ ["20250101-000000.log"]) = some (.file f) := by
  intro s now result
  have hnamed : (oldLogs Mode.newDirectory).IsNamed := by decide +kernel
  have hstarted : result.1 = .ok { id := SessionId.ofInstant now, dir := s.dir } := by decide +kernel
  obtain ⟨-, hstrict, -⟩ := start_retains_newest s now now (oldLogs Mode.newDirectory) hnamed
  obtain ⟨-, -, -, hleft⟩ := hstrict rfl _ hstarted
  obtain ⟨-, hnewest⟩ := hleft (by decide +kernel) ⟨Mode.newDirectory, by decide +kernel, by decide⟩
  have hplace : (oldLogs Mode.newDirectory).resolve s.dir = ["logs"] := by decide +kernel
  rw [hplace] at hnewest
  have hfiles := hnewest oldListing (isNewestFirst_oldLogs _) (by decide +kernel)
  refine ⟨hnamed, hstarted, ?_, ?_⟩
  · exact (hfiles "20250102-030405.log" (by decide)).mpr (Or.inr (by decide +kernel))
  · exact fun hgone => absurd ((hfiles "20250101-000000.log" (by decide)).mp hgone) (by decide +kernel)

/-- In a directory that can be changed but not listed, no old log goes, although one log is to be kept
and the new one is the newest. -/
theorem unlisted_directory_retains_all :
    let s : LogSettings := { dir := ⟨"/logs"⟩, mode := .strict, maxFiles := 1 }
    let now : Instant := ⟨1735787100, 0, by decide⟩
    let t := oldLogs 0o333
    let result := start s (SessionId.ofInstant now) now t
    result.1 = .ok { id := SessionId.ofInstant now, dir := s.dir } ∧
      t.entry? (["logs"] ++ [(SessionId.ofInstant now).fileName]) = none ∧
      IsNewestFirst t ["logs"] oldListing ∧
      (∀ other ∈ oldListing,
        (SessionFile.ofFile (SessionId.ofInstant now).fileName t.newFile).Precedes other) ∧
      ¬∀ name, SessionId.isLogName name = true →
        ((∃ f, FileTree.entry? result.2 (["logs"] ++ [name]) = some (.file f)) ↔
          name = (SessionId.ofInstant now).fileName ∨
            name ∈ (oldListing.take (max s.maxFiles 1 - 1)).map SessionFile.name) := by
  intro s now t result
  refine ⟨by decide +kernel, by decide +kernel, isNewestFirst_oldLogs _, by decide +kernel, ?_⟩
  intro hall
  have hold : FileTree.entry? result.2 (["logs"] ++ ["20250101-000000.log"]) =
      some (.file ⟨[], ⟨1735689600, 0, by decide⟩, Mode.newFile⟩) := by decide +kernel
  exact absurd ((hall "20250101-000000.log" (by decide)).mp ⟨_, hold⟩) (by decide +kernel)

end SessionLog

end Logbook
