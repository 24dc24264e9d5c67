import Logbook.Proofs.Files.Listing

namespace Logbook.FileTree

variable {t u : FileTree} {p dir : Path} {l : Location}

theorem canWrite_newFile : Mode.canWrite Mode.newFile = true := by
  decide

def Writable (t : FileTree) (p : Path) (l : Location) : Prop :=
  t.locate p = .ok l ∧ ∃ f, t.entry? l = some (.file f) ∧ Mode.canWrite f.mode = true

theorem Writable.canWrite (h : t.Writable p l) : t.CanWrite p := by
  obtain ⟨hlocate, f, hentry, hmode⟩ := h
  exact ⟨l, f, t, by simp [create, hlocate, hentry, hmode, bind, Except.bind]⟩

theorem CanWrite.writable (h : t.CanWrite p) (hl : t.locate p = .ok l) {bytes : List UInt8}
    (hu : Appended t u l bytes) : u.Writable p l := by
  obtain ⟨m, f, v, hcreate⟩ := h
  obtain ⟨hm, hmade⟩ := of_create_eq_ok hcreate
  obtain rfl : m = l := Except.ok.inj (hm.symm.trans hl)
  refine ⟨hu.keepsDirectories.locate hl, ?_⟩
  obtain ⟨g, hg | ⟨hg, rfl⟩, hnew⟩ := hu.file
  · refine ⟨_, hnew, ?_⟩
    rcases hmade with ⟨hmode, hf, -⟩ | ⟨hf, -⟩
    · obtain rfl : f = g := by simpa [hf] using hg
      exact hmode
    · simp [hf] at hg
  · exact ⟨_, hnew, canWrite_newFile⟩

theorem Writable.of_entry?_eq (h : t.Writable p l) (hl : u.locate p = .ok l)
    (hu : u.entry? l = t.entry? l) : u.Writable p l :=
  ⟨hl, by rw [hu]; exact h.2⟩

theorem Writable.of_appended (h : t.Writable p l) {m : Location} {bytes : List UInt8}
    (hu : Appended t u m bytes) : u.Writable p l := by
  by_cases hm : l = m
  · subst hm
    exact h.canWrite.writable h.1 hu
  · exact h.of_entry?_eq (hu.keepsDirectories.locate h.1) (hu.elsewhere hm)

theorem Writable.of_addsDirectories (h : t.Writable p l) (hu : AddsDirectories t u) :
    u.Writable p l := by
  obtain ⟨hlocate, f, hentry, hmode⟩ := h
  exact ⟨hu.keepsDirectories.locate hlocate, f, hu.kept hentry, hmode⟩

def HasDirectory (t : FileTree) (l : Location) : Prop :=
  ∃ mode, t.entry? l = some (.directory mode)

theorem hasDirectory_of_foldlM_step {names : List String} {here : Location}
    (h : names.foldlM t.step here = .ok l) (hl : t.HasDirectory l) : t.HasDirectory here := by
  cases names with
  | nil =>
      obtain rfl : here = l := Except.ok.inj h
      exact hl
  | cons name names =>
      obtain ⟨next, hstep, -⟩ := foldlM_cons_eq_ok_iff.mp h
      obtain ⟨⟨mode, hentry, -⟩, -⟩ := step_eq_ok_iff.mp hstep
      exact ⟨mode, hentry⟩

theorem makeDirectoriesAt_of_foldlM_step {names : List String} {here : Location}
    (h : names.foldlM t.step here = .ok l) (hl : t.HasDirectory l) :
    t.makeDirectoriesAt here names = (.ok (), t) := by
  induction names generalizing here with
  | nil => rfl
  | cons name names ih =>
      obtain ⟨next, hstep, hrest⟩ := foldlM_cons_eq_ok_iff.mp h
      obtain ⟨mode, hnext⟩ := hasDirectory_of_foldlM_step hrest hl
      have henter : t.enter here name = .ok (next, t) := by
        simp [enter, hstep, hnext, bind, Except.bind]
      simp only [makeDirectoriesAt, henter, ih hrest]

theorem makeDirectories_of_find {mode : Nat} (h : t.find dir = .ok (.directory mode)) :
    t.makeDirectories dir = (.ok (), t) := by
  obtain ⟨l, hlocate, hentry⟩ := find_eq_ok_iff.mp h
  exact makeDirectoriesAt_of_foldlM_step (locate_eq_ok_iff.mp hlocate).2 ⟨mode, hentry⟩

theorem foldlM_append_eq_ok_iff {α β ε : Type} {f : β → α → Except ε β} {xs ys : List α}
    {first last : β} :
    (xs ++ ys).foldlM f first = .ok last ↔
      ∃ middle, xs.foldlM f first = .ok middle ∧ ys.foldlM f middle = .ok last := by
  rw [List.foldlM_append]
  cases xs.foldlM f first <;> simp [bind, Except.bind]

theorem makeParents_of_locate (h : t.locate p = .ok l) : t.makeParents p = (.ok (), t) := by
  have hsteps := (locate_eq_ok_iff.mp h).2
  rw [makeParents]
  rcases List.eq_nil_or_concat p.names with hnil | ⟨names, name, hnames⟩
  · rw [hnil]
    rfl
  · rw [List.concat_eq_append] at hnames
    rw [hnames] at hsteps
    obtain ⟨parent, hparent, hlast⟩ := foldlM_append_eq_ok_iff.mp hsteps
    obtain ⟨next, hstep, -⟩ := foldlM_cons_eq_ok_iff.mp hlast
    obtain ⟨⟨mode, hentry, -⟩, -⟩ := step_eq_ok_iff.mp hstep
    rw [hnames, List.dropLast_concat]
    exact makeDirectoriesAt_of_foldlM_step hparent ⟨mode, hentry⟩

theorem locate_join (h : t.locate dir = .ok l) (henter : t.CanEnter l) {name : String}
    (hname : Path.IsFileName name) : t.locate (dir.join name) = .ok (l ++ [name]) := by
  have hstart : t.start (dir.join name) = t.start dir := by
    rw [start, Path.isAbsolute_join dir hname, start]
  rw [locate_eq_ok_iff, Path.names_join dir hname, hstart, foldlM_append_eq_ok_iff]
  refine ⟨Path.text_join_ne_empty dir hname, l, (locate_eq_ok_iff.mp h).2, ?_⟩
  refine foldlM_cons_eq_ok_iff.mpr ⟨l ++ [name], step_eq_ok_iff.mpr ⟨henter, ?_⟩, rfl⟩
  rw [stepTo, if_neg hname.2.2.1]

theorem canEnter_of_locate_join {name : String} (hname : Path.IsFileName name)
    (h : t.locate (dir.join name) = .ok l) : t.CanEnter (t.resolve dir) := by
  have hstart : t.start (dir.join name) = t.start dir := by
    rw [start, Path.isAbsolute_join dir hname, start]
  have hsteps := (locate_eq_ok_iff.mp h).2
  rw [Path.names_join dir hname, hstart, foldlM_append_eq_ok_iff] at hsteps
  obtain ⟨parent, hparent, hlast⟩ := hsteps
  obtain ⟨next, hstep, -⟩ := foldlM_cons_eq_ok_iff.mp hlast
  obtain rfl : parent = t.resolve dir := foldlM_step_eq_ok hparent
  exact (step_eq_ok_iff.mp hstep).1

theorem read_eq_ok_iff {bytes : List UInt8} :
    t.read p = .ok bytes ↔
      ∃ f, t.find p = .ok (.file f) ∧ Mode.canRead f.mode = true ∧ f.bytes = bytes := by
  simp only [read]
  cases hfind : t.find p with
  | error fault => simp [bind, Except.bind]
  | ok e =>
      cases e with
      | directory mode => simp [bind, Except.bind]
      | file f => cases hmode : Mode.canRead f.mode <;> simp [bind, Except.bind, hmode]

theorem resolve_of_workingDirectory (h : u.workingDirectory = t.workingDirectory) (p : Path) :
    u.resolve p = t.resolve p := by
  simp [resolve, start, h]

theorem locate_of_find {e : Entry} (h : t.find p = .ok e) : t.locate p = .ok (t.resolve p) := by
  obtain ⟨l, hl, -⟩ := find_eq_ok_iff.mp h
  rw [resolve_of_locate hl, hl]

theorem entry?_of_find {e : Entry} (h : t.find p = .ok e) : t.entry? (t.resolve p) = some e := by
  obtain ⟨l, hl, hentry⟩ := find_eq_ok_iff.mp h
  rw [resolve_of_locate hl, hentry]

theorem find_of_entry? (hl : t.locate p = .ok l) {e : Entry} (h : t.entry? l = some e) :
    t.find p = .ok e :=
  find_eq_ok_iff.mpr ⟨l, hl, h⟩

theorem KeepsDirectories.find (h : KeepsDirectories t u) {mode : Nat}
    (hfind : t.find dir = .ok (.directory mode)) : u.find dir = .ok (.directory mode) :=
  find_of_entry? (h.locate (locate_of_find hfind)) (h.directory (entry?_of_find hfind))

theorem Appended.read_of_ne {bytes : List UInt8} (h : Appended t u l bytes) {old : List UInt8}
    (hold : t.read p = .ok old) (hne : t.resolve p ≠ l) : u.read p = .ok old := by
  obtain ⟨f, hfind, hmode, hbytes⟩ := read_eq_ok_iff.mp hold
  have hentry : u.entry? (t.resolve p) = some (.file f) := by
    rw [h.elsewhere hne, entry?_of_find hfind]
  exact read_eq_ok_iff.mpr
    ⟨f, find_of_entry? (h.keepsDirectories.locate (locate_of_find hfind)) hentry, hmode, hbytes⟩

theorem Appended.read {bytes : List UInt8} (h : Appended t u l bytes) (hl : t.locate p = .ok l)
    {old : List UInt8} (hold : t.read p = .ok old) : u.read p = .ok (old ++ bytes) := by
  obtain ⟨f, hfind, hmode, rfl⟩ := read_eq_ok_iff.mp hold
  obtain ⟨g, hg | ⟨hg, -⟩, hnew⟩ := h.file
  · rw [← resolve_of_locate hl, entry?_of_find hfind] at hg
    obtain rfl := Entry.file.inj (Option.some.inj hg)
    exact read_eq_ok_iff.mpr
      ⟨_, find_of_entry? (h.keepsDirectories.locate hl) hnew, hmode, rfl⟩
  · rw [← resolve_of_locate hl, entry?_of_find hfind] at hg
    simp at hg

theorem Appended.read_of_none {bytes : List UInt8} (h : Appended t u l bytes)
    (hl : t.locate p = .ok l) (hnone : ∀ f, t.entry? l ≠ some (.file f)) :
    u.read p = .ok bytes := by
  obtain ⟨g, hg | ⟨-, rfl⟩, hnew⟩ := h.file
  · exact absurd hg (hnone g)
  · exact read_eq_ok_iff.mpr
      ⟨_, find_of_entry? (h.keepsDirectories.locate hl) hnew, canRead_newFile,
        by simp [newFile]⟩

/-- A file that can be written stands at a location, where it has been made if nothing was there. -/
structure Made (t u : FileTree) (l : Location) (f : File) : Prop where
  workingDirectory : u.workingDirectory = t.workingDirectory
  clock : u.clock = t.clock
  opens : t.Opens l f
  canWrite : Mode.canWrite f.mode = true
  entry : u.entry? l = some (.file f)
  elsewhere : ∀ {m}, m ≠ l → u.entry? m = t.entry? m

variable {f : File}

theorem made_put (h : t.entry? l = none) : Made t (t.put l (.file t.newFile)) l t.newFile := by
  have hl : l ≠ [] := t.ne_nil_of_entry?_ne_directory (by simp [h])
  exact ⟨rfl, rfl, Or.inr ⟨h, rfl⟩, canWrite_newFile, by rw [entry?_put hl, if_pos rfl],
    fun hm => by rw [entry?_put hl, if_neg hm]⟩

theorem made_of_create (h : t.create p = .ok (l, f, u)) : Made t u l f := by
  obtain ⟨-, ⟨hmode, hentry, rfl⟩ | ⟨hnone, -, rfl, rfl⟩⟩ := of_create_eq_ok h
  · exact ⟨rfl, rfl, Or.inl hentry, hmode, hentry, fun _ => rfl⟩
  · exact made_put hnone

theorem Made.keepsDirectories (h : Made t u l f) : KeepsDirectories t u where
  workingDirectory := h.workingDirectory
  directory := by
    intro m mode hm
    rw [h.elsewhere, hm]
    rintro rfl
    rcases h.opens with hfile | ⟨hnone, -⟩
    · simp [hfile] at hm
    · simp [hnone] at hm

theorem Made.entry?_eq (h : Made t u l f) (hnone : t.entry? l = none) (m : Location) :
    u.entry? m = if m = l then some (.file t.newFile) else t.entry? m := by
  split
  · rename_i hm
    rcases h.opens with hf | ⟨-, rfl⟩
    · simp [hnone] at hf
    · rw [hm, h.entry]
  · exact h.elsewhere ‹_›

theorem Made.appended (h : Made t u l f) {v : FileTree} {bytes : List UInt8}
    (hv : Appended u v l bytes) : Appended t v l bytes where
  workingDirectory := hv.workingDirectory.trans h.workingDirectory
  clock := hv.clock.trans h.clock
  elsewhere := fun hm => (hv.elsewhere hm).trans (h.elsewhere hm)
  file := by
    refine ⟨f, h.opens, ?_⟩
    obtain ⟨g, hg | ⟨hg, -⟩, hnew⟩ := hv.file
    · obtain rfl : f = g := by simpa [h.entry] using hg
      rw [hnew, h.clock]
    · simp [h.entry] at hg

theorem Appended.trans {v : FileTree} {bytes more : List UInt8} (h : Appended t u l bytes)
    (k : Appended u v l more) : Appended t v l (bytes ++ more) where
  workingDirectory := k.workingDirectory.trans h.workingDirectory
  clock := k.clock.trans h.clock
  elsewhere := fun hm => (k.elsewhere hm).trans (h.elsewhere hm)
  file := by
    obtain ⟨f, hf, hnew⟩ := h.file
    refine ⟨f, hf, ?_⟩
    obtain ⟨g, hg | ⟨hg, -⟩, hlast⟩ := k.file
    · obtain rfl := Entry.file.inj (Option.some.inj (hnew.symm.trans hg))
      rw [hlast, h.clock, List.append_assoc]
    · simp [hnew] at hg

end Logbook.FileTree
