import Logbook.Proofs.SessionLog.NameOrder
import Logbook.Proofs.SessionLog.Retention

namespace Logbook

/-- A session log from its start to its end, with nothing done to another log in between. -/
structure Sitting where
  mode : LogMode
  maxFiles : Nat
  opened : Instant
  started : Instant
  added : List Record
  ended : Instant
  /-- Whether the log is closed before it goes out of use. -/
  closed : Bool

namespace Sitting

def id (k : Sitting) : SessionId :=
  SessionId.ofInstant k.opened

def settings (k : Sitting) (dir : Path) : LogSettings :=
  { dir, mode := k.mode, maxFiles := k.maxFiles }

def log (k : Sitting) (dir : Path) : SessionLog :=
  { id := k.id, dir }

/-- All records of the log: the start, what is added, and the end. -/
def records (k : Sitting) : List Record :=
  ⟨k.started, Tag.session, "start"⟩ :: (k.added ++ [⟨k.ended, Tag.session, "end"⟩])

def addAll (log : SessionLog) (rs : List Record) (t : FileTree) : FileTree :=
  rs.foldl (fun t r => log.append r.time r.tag r.text t) t

/-- The files after the session. A log that is closed is ended, and ended again as it goes out of use. -/
def run (dir : Path) (k : Sitting) (t : FileTree) : FileTree :=
  match SessionLog.start (k.settings dir) k.id k.started t with
  | (.error _, t) => t
  | (.ok log, t) =>
    let (log, t) := log.finish k.ended (addAll log k.added t)
    if k.closed then (log.finish k.ended t).2 else t

def runAll (dir : Path) (ks : List Sitting) (t : FileTree) : FileTree :=
  ks.foldl (fun t k => k.run dir t) t

def CanRun (dir : Path) (k : Sitting) (t : FileTree) : Prop :=
  ∃ log u, SessionLog.start (k.settings dir) k.id k.started t = (.ok log, u) ∧ u.CanWrite log.path

/-- Whether each session's log is opened and can be written when its turn comes. -/
def AllCanRun (dir : Path) : List Sitting → FileTree → Prop
  | [], _ => True
  | k :: ks, t => k.CanRun dir t ∧ AllCanRun dir ks (k.run dir t)

/-- Whether the years are plain, and the tags can be read back. -/
def IsPlain (k : Sitting) : Prop :=
  k.opened.HasPlainYear ∧ ∀ r ∈ k.records, r.IsReadable

instance (dir : Path) (k : Sitting) (t : FileTree) : Decidable (k.CanRun dir t) :=
  match h : SessionLog.start (k.settings dir) k.id k.started t with
  | (.error _, _) => isFalse fun ⟨_, _, hok, _⟩ => by simp [h] at hok
  | (.ok log, u) => decidable_of_iff (u.CanWrite log.path) <| by simp [CanRun, h]

instance decidableAllCanRun (dir : Path) : (ks : List Sitting) → (t : FileTree) →
    Decidable (AllCanRun dir ks t)
  | [], _ => isTrue trivial
  | k :: ks, t =>
      have := decidableAllCanRun dir ks (k.run dir t)
      inferInstanceAs (Decidable (k.CanRun dir t ∧ _))

instance : DecidablePred IsPlain := fun k =>
  inferInstanceAs
    (Decidable (k.opened.HasPlainYear ∧ ∀ r ∈ k.records, Instant.HasPlainYear r.time ∧ _ = true))

variable {dir : Path} {k : Sitting} {t u : FileTree}

theorem isFileName_id (k : Sitting) : Path.IsFileName k.id.fileName :=
  SessionId.isFileName_ofInstant k.opened

theorem appended_addAll {log : SessionLog} {l : Location} (hwritable : u.Writable log.path l)
    {bytes : List UInt8} (h : FileTree.Appended t u l bytes) (rs : List Record) :
    FileTree.Appended t (addAll log rs u) l (bytes ++ rs.flatMap SessionLog.lineBytes) := by
  induction rs generalizing u bytes with
  | nil => simpa [addAll] using h
  | cons r rs ih =>
      have hnext := SessionLog.appended_of_writable log hwritable r.time r.tag r.text
      have hrest := ih (hwritable.of_appended hnext) (h.trans hnext)
      rw [List.flatMap_cons, ← List.append_assoc]
      exact hrest

theorem run_eq (h : SessionLog.start (k.settings dir) k.id k.started t = (.ok (k.log dir), u)) :
    k.run dir t = addAll (k.log dir) (k.added ++ [⟨k.ended, Tag.session, "end"⟩]) u := by
  have hfinish : ∀ t, (k.log dir).finish k.ended t =
      ({ k.log dir with ended := true }, (k.log dir).append k.ended Tag.session "end" t) :=
    SessionLog.finish_of_not_ended rfl k.ended
  have hagain : ∀ t, SessionLog.finish { k.log dir with ended := true } k.ended t =
      ({ k.log dir with ended := true }, t) := SessionLog.finish_of_ended rfl k.ended
  have happend : addAll (k.log dir) (k.added ++ [⟨k.ended, Tag.session, "end"⟩]) u =
      (k.log dir).append k.ended Tag.session "end" (addAll (k.log dir) k.added u) := by
    simp only [addAll, List.foldl_append, List.foldl_cons, List.foldl_nil]
  rw [happend]
  simp only [run, h, hfinish, hagain, ite_self]

theorem appended_run {l : Location}
    (h : SessionLog.start (k.settings dir) k.id k.started t = (.ok (k.log dir), u)) {v : FileTree}
    (hwritable : u.Writable (k.log dir).path l)
    (hstart : FileTree.Appended v u l (SessionLog.lineBytes ⟨k.started, Tag.session, "start"⟩)) :
    FileTree.Appended v (k.run dir t) l (k.records.flatMap SessionLog.lineBytes) := by
  rw [run_eq h, records, List.flatMap_cons]
  exact appended_addAll hwritable hstart _

theorem prune_of_length_le {log : SessionLog} {max : Nat}
    (h : ∀ listing, SessionFile.list log.dir t = .ok listing → listing.length ≤ max) :
    log.prune max t = (0, t) := by
  cases hlist : SessionFile.list log.dir t with
  | error fault => rw [SessionLog.prune, hlist]
  | ok listing =>
      rw [SessionLog.prune_of_list hlist, SessionLog.surplus, List.drop_eq_nil_of_le (h listing hlist)]
      rfl

theorem length_list_le {mode : Nat} (hfind : t.find dir = .ok (.directory mode))
    (henter : Mode.canEnter mode = true) {names : List String}
    (hnames : ∀ {name f}, SessionId.isLogName name = true →
      t.entry? (t.resolve dir ++ [name]) = some (.file f) → name ∈ names)
    {listing : List SessionFile} (hlist : SessionFile.list dir t = .ok listing) :
    listing.length ≤ names.length := by
  cases hread : Mode.canRead mode with
  | true =>
      obtain ⟨found, hfound, hlisting⟩ := SessionFile.exists_list hfind hread henter
      obtain rfl := Except.ok.inj (hfound.symm.trans hlist)
      have hsubset : found.map SessionFile.name ⊆ names := by
        intro name hname
        obtain ⟨s, hs, rfl⟩ := List.mem_map.mp hname
        obtain ⟨hlog, f, hf, -⟩ := (hlisting.mem_iff s).mp hs
        exact hnames hlog hf
      simpa using (hlisting.nodup_names.subperm hsubset).length_le
  | false =>
      have hcontains : t.contains dir = true := by simp [FileTree.contains, hfind]
      have hfiles := FileTree.files_of_find hfind
      simp [SessionFile.list, hcontains, hfiles, hread, bind, Except.bind] at hlist

theorem of_locate_path {l : Location} (h : t.locate (k.log dir).path = .ok l) :
    l = t.resolve dir ++ [k.id.fileName] ∧ t.CanEnter (t.resolve dir) := by
  have hjoin : t.locate (dir.join k.id.fileName) = .ok l := h
  rw [← FileTree.resolve_of_locate hjoin, FileTree.resolve_join t dir k.isFileName_id]
  exact ⟨rfl, FileTree.canEnter_of_locate_join k.isFileName_id hjoin⟩

theorem appended_of_lenient (hmode : k.mode = .lenient) {log : SessionLog}
    (hstart : SessionLog.start (k.settings dir) k.id k.started t = (.ok log, u))
    (hwrite : u.CanWrite log.path) :
    ∃ v, FileTree.AddsDirectories t v ∧ v.CanEnter (t.resolve dir) ∧
      FileTree.Appended v (k.run dir t) (t.resolve dir ++ [k.id.fileName])
        (k.records.flatMap SessionLog.lineBytes) := by
  rw [SessionLog.start_of_lenient hmode] at hstart
  obtain ⟨hlog, hu⟩ := Prod.mk.inj hstart
  obtain rfl : k.log dir = log := Except.ok.inj hlog
  subst hu
  have hdirs := FileTree.addsDirectories_makeDirectories t dir
  have hplace := hdirs.keepsDirectories.resolve dir
  have hbefore : FileTree.CanWrite (t.makeDirectories dir).2 (k.log dir).path :=
    SessionLog.canWrite_of_append hwrite
  obtain ⟨l, hl, happended⟩ :=
    SessionLog.appended_append hbefore k.started Tag.session "start"
  obtain ⟨rfl, henter⟩ := of_locate_path hl
  rw [← hplace]
  refine ⟨_, hdirs, henter, ?_⟩
  exact appended_run (SessionLog.start_of_lenient hmode _ _ _) (hbefore.writable hl happended) happended

theorem of_start_strict (hmode : k.mode = .strict) {log : SessionLog}
    (h : SessionLog.start (k.settings dir) k.id k.started t = (.ok log, u)) :
    log = k.log dir ∧ (∃ mode, t.find dir = .ok (.directory mode)) ∧
      ∃ l f v, t.create (k.log dir).path = .ok (l, f, v) ∧
        u = (k.log dir).append k.started Tag.session "start" ((k.log dir).prune k.maxFiles v).2 :=
  SessionLog.of_start_eq_ok hmode h

theorem appended_of_strict (hmode : k.mode = .strict) {log : SessionLog}
    (hstart : SessionLog.start (k.settings dir) k.id k.started t = (.ok log, u))
    {names : List String}
    (hnames : ∀ {name f}, SessionId.isLogName name = true →
      t.entry? (t.resolve dir ++ [name]) = some (.file f) → name ∈ names)
    (hkept : names.length < k.maxFiles) :
    t.CanEnter (t.resolve dir) ∧
      FileTree.Appended t (k.run dir t) (t.resolve dir ++ [k.id.fileName])
        (k.records.flatMap SessionLog.lineBytes) := by
  obtain ⟨hlog, ⟨mode, hfind⟩, l, f, v, hcreate, hu⟩ := of_start_strict hmode hstart
  obtain ⟨hlocate, -⟩ := FileTree.of_create_eq_ok hcreate
  obtain ⟨rfl, henter⟩ := of_locate_path hlocate
  have hmade := FileTree.made_of_create hcreate
  have hkeeps := hmade.keepsDirectories
  have hprune : SessionLog.prune (k.log dir) k.maxFiles v = (0, v) := by
    refine prune_of_length_le fun listing hlist => ?_
    have hmodeEnter : Mode.canEnter mode = true := by
      obtain ⟨mode', hentry, hmode'⟩ := henter
      rw [FileTree.entry?_of_find hfind] at hentry
      obtain rfl : mode = mode' := by simpa using hentry
      exact hmode'
    have hlisted : ∀ {name g}, SessionId.isLogName name = true →
        v.entry? (v.resolve dir ++ [name]) = some (.file g) → name ∈ k.id.fileName :: names := by
      intro name g hname hg
      rw [hkeeps.resolve] at hg
      by_cases hown : name = k.id.fileName
      · exact hown ▸ List.mem_cons_self
      · rw [hmade.elsewhere (by simpa using hown)] at hg
        exact List.mem_cons_of_mem _ (hnames hname hg)
    exact (length_list_le (hkeeps.find hfind) hmodeEnter hlisted hlist).trans hkept
  have hwritable : v.Writable (k.log dir).path (t.resolve dir ++ [k.id.fileName]) :=
    ⟨hkeeps.locate hlocate, f, hmade.entry, hmade.canWrite⟩
  have happended := SessionLog.appended_of_writable (k.log dir) hwritable k.started Tag.session "start"
  rw [hlog, hu, hprune] at hstart
  exact ⟨henter, appended_run hstart (hwritable.of_appended happended) (hmade.appended happended)⟩

/-- A session adds its records to its own file, and leaves the other logs. A strict one does so if they
and its own are no more than are kept. -/
theorem appended_of_canRun (h : k.CanRun dir t) {names : List String}
    (hnames : ∀ {name f}, SessionId.isLogName name = true →
      t.entry? (t.resolve dir ++ [name]) = some (.file f) → name ∈ names)
    (hkept : k.mode = .strict → names.length < k.maxFiles) :
    ∃ v, FileTree.AddsDirectories t v ∧ v.CanEnter (t.resolve dir) ∧
      FileTree.Appended v (k.run dir t) (t.resolve dir ++ [k.id.fileName])
        (k.records.flatMap SessionLog.lineBytes) := by
  obtain ⟨log, u, hstart, hwrite⟩ := h
  cases hmode : k.mode with
  | lenient => exact appended_of_lenient hmode hstart hwrite
  | strict =>
      exact ⟨t, FileTree.AddsDirectories.refl t, appended_of_strict hmode hstart hnames (hkept hmode)⟩

end Sitting

structure Filing where
  id : SessionId
  file : File
  records : List Record

/-- The file of a filing can be read, and has its records line by line. -/
structure Filing.IsReadable (f : Filing) : Prop where
  canRead : Mode.canRead f.file.mode = true
  bytes : f.file.bytes = f.records.flatMap SessionLog.lineBytes
  records : ∀ r ∈ f.records, r.IsReadable

/-- The log files of a directory, in the order of their names. -/
structure Filed (t : FileTree) (dir : Path) (here : Location) (fs : List Filing) : Prop where
  place : t.resolve dir = here
  sorted : fs.Pairwise fun f g => f.id.fileName < g.id.fileName
  name : ∀ f ∈ fs, SessionId.isLogName f.id.fileName = true
  entry : ∀ f ∈ fs, t.entry? (here ++ [f.id.fileName]) = some (.file f.file)
  readable : ∀ f ∈ fs, f.IsReadable
  enter : fs ≠ [] → t.CanEnter here
  others : ∀ {name f}, SessionId.isLogName name = true →
    t.entry? (here ++ [name]) = some (.file f) → name ∈ fs.map fun g => g.id.fileName

namespace Filed

variable {t u : FileTree} {dir : Path} {here : Location} {fs : List Filing}

theorem of_addsDirectories (h : Filed t dir here fs) (hu : FileTree.AddsDirectories t u) :
    Filed u dir here fs where
  place := by rw [hu.keepsDirectories.resolve, h.place]
  sorted := h.sorted
  name := h.name
  entry := fun f hf => hu.kept (h.entry f hf)
  readable := h.readable
  enter := fun hne => by
    obtain ⟨mode, hentry, hmode⟩ := h.enter hne
    exact ⟨mode, hu.kept hentry, hmode⟩
  others := fun hname hf => h.others hname (hu.entry?_eq_file_iff.mp hf)

theorem concat (h : Filed t dir here fs) {front : List Filing} {last : Filing} {bytes : List UInt8}
    (hu : FileTree.Appended t u (here ++ [last.id.fileName]) bytes) (henter : t.CanEnter here)
    (hname : SessionId.isLogName last.id.fileName = true)
    (hentry : u.entry? (here ++ [last.id.fileName]) = some (.file last.file)) (hlast : last.IsReadable)
    (hfront : front.Sublist fs) (hlt : ∀ f ∈ front, f.id.fileName < last.id.fileName)
    (hall : ∀ f ∈ fs, f ∈ front ∨ f.id = last.id) : Filed u dir here (front ++ [last]) := by
  have helsewhere : ∀ {name}, name ≠ last.id.fileName →
      u.entry? (here ++ [name]) = t.entry? (here ++ [name]) := fun hne =>
    hu.elsewhere (by simpa using hne)
  refine ⟨?_, ?_, List.forall_mem_append.mpr ⟨fun f hf => h.name f (hfront.subset hf), by simpa⟩,
    List.forall_mem_append.mpr ⟨fun f hf => ?_, by simpa⟩,
    List.forall_mem_append.mpr ⟨fun f hf => h.readable f (hfront.subset hf), by simpa⟩, fun _ => ?_, ?_⟩
  · rw [hu.keepsDirectories.resolve, h.place]
  · refine List.pairwise_append.mpr ⟨h.sorted.sublist hfront, List.pairwise_singleton _ _, ?_⟩
    simpa using hlt
  · rw [helsewhere (hlt f hf).ne, h.entry f (hfront.subset hf)]
  · obtain ⟨mode, hdir, hmode⟩ := henter
    exact ⟨mode, hu.keepsDirectories.directory hdir, hmode⟩
  · intro name f hlog hf
    simp only [List.map_append, List.mem_append, List.map_cons, List.map_nil, List.mem_singleton]
    by_cases hne : name = last.id.fileName
    · exact Or.inr hne
    · rw [helsewhere hne] at hf
      obtain ⟨g, hg, rfl⟩ := List.mem_map.mp (h.others hlog hf)
      rcases hall g hg with hg | hid
      · exact Or.inl (List.mem_map_of_mem hg)
      · exact absurd (congrArg SessionId.fileName hid) hne

theorem append_last {front : List Filing} {f : Filing} (h : Filed t dir here (front ++ [f]))
    {rs : List Record} (hrs : ∀ r ∈ rs, r.IsReadable)
    (hu : FileTree.Appended t u (here ++ [f.id.fileName]) (rs.flatMap SessionLog.lineBytes)) :
    ∃ last : Filing, last.id = f.id ∧ last.records = f.records ++ rs ∧
      Filed u dir here (front ++ [last]) := by
  have hf : f ∈ front ++ [f] := by simp
  have hread := h.readable f hf
  obtain ⟨-, -, hlt⟩ := List.pairwise_append.mp h.sorted
  obtain ⟨old, hopens, hnew⟩ := hu.file
  obtain rfl : old = f.file := by
    rcases hopens with hold | ⟨hnone, -⟩
    · rw [h.entry f hf] at hold
      exact (Entry.file.inj (Option.some.inj hold)).symm
    · simp [h.entry f hf] at hnone
  refine ⟨⟨f.id, _, f.records ++ rs⟩, rfl, rfl, h.concat hu (h.enter (List.ne_nil_of_mem hf))
    (h.name f hf) hnew ⟨hread.canRead, ?_, ?_⟩ (List.sublist_append_left _ _)
    (fun g hg => hlt g hg f (by simp)) ?_⟩
  · simp [hread.bytes]
  · exact fun r hr => (List.mem_append.mp hr).elim (hread.records r) (hrs r)
  · intro g hg
    rcases List.mem_append.mp hg with hg | hg
    · exact Or.inl hg
    · exact Or.inr (by rw [List.mem_singleton.mp hg])

theorem append_new (h : Filed t dir here fs) {id : SessionId} {rs : List Record}
    (hid : SessionId.isLogName id.fileName = true) (hrs : ∀ r ∈ rs, r.IsReadable)
    (henter : t.CanEnter here) (hlt : ∀ f ∈ fs, f.id.fileName < id.fileName)
    (hu : FileTree.Appended t u (here ++ [id.fileName]) (rs.flatMap SessionLog.lineBytes)) :
    ∃ last : Filing, last.id = id ∧ last.records = rs ∧ Filed u dir here (fs ++ [last]) := by
  obtain ⟨old, hold | ⟨-, rfl⟩, hnew⟩ := hu.file
  · obtain ⟨f, hf, heq⟩ := List.mem_map.mp (h.others hid hold)
    exact absurd heq (hlt f hf).ne
  · exact ⟨⟨id, _, rs⟩, rfl, rfl, h.concat hu henter hid hnew
      ⟨FileTree.canRead_newFile, by simp [FileTree.newFile], hrs⟩ (List.Sublist.refl _) hlt
      fun f hf => Or.inl hf⟩

theorem append (h : Filed t dir here fs) {id : SessionId} {rs : List Record}
    (hid : SessionId.isLogName id.fileName = true) (hrs : ∀ r ∈ rs, r.IsReadable)
    (henter : t.CanEnter here) (hlast : ∀ f ∈ fs, f.id = id ∨ f.id.fileName < id.fileName)
    (hu : FileTree.Appended t u (here ++ [id.fileName]) (rs.flatMap SessionLog.lineBytes)) :
    ∃ gs, Filed u dir here gs ∧ gs.length ≤ fs.length + 1 ∧
      (∀ g ∈ gs, g.id = id ∨ g.id ∈ fs.map Filing.id) ∧
      gs.flatMap Filing.records = fs.flatMap Filing.records ++ rs := by
  by_cases hmem : ∃ f ∈ fs, f.id = id
  · -- The log of the session is there: no name comes after its name, and so it is the last one.
    obtain ⟨f, hf, rfl⟩ := hmem
    obtain ⟨front, back, rfl⟩ := List.append_of_mem hf
    obtain rfl : back = [] := by
      rw [List.eq_nil_iff_forall_not_mem]
      intro g hg
      have hlt := List.rel_of_pairwise_cons (List.pairwise_append.mp h.sorted).2.1 hg
      rcases hlast g (by simp [hg]) with heq | hgt
      · exact absurd (heq ▸ hlt) (lt_irrefl _)
      · exact absurd (hlt.trans hgt) (lt_irrefl _)
    obtain ⟨last, hlastId, hrecords, hfiled⟩ := h.append_last hrs hu
    refine ⟨front ++ [last], hfiled, by simp, ?_, by simp [hrecords]⟩
    refine List.forall_mem_append.mpr ⟨fun g hg => Or.inr ?_, by simp [hlastId]⟩
    simp [List.mem_map_of_mem hg]
  · push Not at hmem
    obtain ⟨last, hlastId, hrecords, hfiled⟩ := h.append_new hid hrs henter
      (fun f hf => (hlast f hf).resolve_left (hmem f hf)) hu
    refine ⟨fs ++ [last], hfiled, by simp, ?_, by simp [hrecords]⟩
    exact List.forall_mem_append.mpr ⟨fun g hg => Or.inr (List.mem_map_of_mem hg), by simp [hlastId]⟩

theorem run (h : Filed t dir here fs) {k : Sitting} (hplain : k.IsPlain) (hcan : k.CanRun dir t)
    (hkept : k.mode = .strict → fs.length < k.maxFiles)
    (hlast : ∀ f ∈ fs, f.id = k.id ∨ f.id.fileName < k.id.fileName) :
    ∃ gs, Filed (k.run dir t) dir here gs ∧ gs.length ≤ fs.length + 1 ∧
      (∀ g ∈ gs, g.id = k.id ∨ g.id ∈ fs.map Filing.id) ∧
      gs.flatMap Filing.records = fs.flatMap Filing.records ++ k.records := by
  obtain ⟨v, hdirs, henter, happended⟩ := Sitting.appended_of_canRun hcan
    (fun hname hf => h.others hname (h.place ▸ hf)) fun hmode => by simpa using hkept hmode
  rw [h.place] at henter happended
  exact (h.of_addsDirectories hdirs).append
    (SessionId.isLogName_fileName (SessionId.text_ofInstant_ne_empty k.opened)) hplain.2 henter hlast
    happended

theorem runAll {ks : List Sitting} (h : Filed t dir here fs) (hplain : ∀ k ∈ ks, k.IsPlain)
    (hcan : Sitting.AllCanRun dir ks t)
    (hkept : ∀ k ∈ ks, k.mode = .strict → fs.length + ks.length ≤ k.maxFiles)
    (hlast : ∀ k ∈ ks, ∀ f ∈ fs, f.id = k.id ∨ f.id.fileName < k.id.fileName)
    (hordered : ks.Pairwise fun k m => k.id = m.id ∨ k.id.fileName < m.id.fileName) :
    ∃ gs, Filed (Sitting.runAll dir ks t) dir here gs ∧
      gs.flatMap Filing.records = fs.flatMap Filing.records ++ ks.flatMap Sitting.records := by
  -- The induction takes off the first session: its records are filed before all that come later.
  induction ks generalizing t fs with
  | nil => exact ⟨fs, h, by simp⟩
  | cons k ks ih =>
      rw [List.forall_mem_cons] at hplain hkept hlast
      rw [List.pairwise_cons] at hordered
      obtain ⟨hcan, hrest⟩ := hcan
      obtain ⟨gs, hfiled, hlength, hids, hrecords⟩ := h.run hplain.1 hcan
        (fun hmode => by have := hkept.1 hmode; simp only [List.length_cons] at this; omega) hlast.1
      obtain ⟨ls, hls, hall⟩ := ih hfiled hplain.2 hrest
        (fun m hm hmode => by
          have := hkept.2 m hm hmode
          simp only [List.length_cons] at this
          omega)
        (fun m hm g hg => by
          rcases hids g hg with hid | hid
          · rw [hid]
            exact hordered.1 m hm
          · obtain ⟨f, hf, hsame⟩ := List.mem_map.mp hid
            rw [← hsame]
            exact hlast.2 m hm f hf)
        hordered.2
      exact ⟨ls, hls, by rw [hall, hrecords, List.flatMap_cons, List.append_assoc]⟩

end Filed

end Logbook
