import Logbook.Proofs.SessionLog.Lines
import Logbook.Proofs.SessionLog.Name

namespace Logbook.SessionLog

/-- A file that can be read, whose lines are records with these tags and texts, one by one. -/
def Holds (t : FileTree) (l : Location) (es : List (String × String)) : Prop :=
  ∃ (f : File) (rs : List Record), t.entry? l = some (.file f) ∧ Mode.canRead f.mode = true ∧
    f.bytes = rs.flatMap lineBytes ∧ (∀ r ∈ rs, Record.IsReadable r) ∧ rs.map Record.entry = es

namespace Holds

variable {t u : FileTree} {l m : Location} {es : List (String × String)}

theorem of_entry?_eq (h : Holds t l es) (hu : u.entry? l = t.entry? l) : Holds u l es := by
  obtain ⟨f, rs, hf, hrest⟩ := h
  exact ⟨f, rs, hu.trans hf, hrest⟩

theorem of_addsDirectories (h : Holds t l es) (hu : FileTree.AddsDirectories t u) : Holds u l es := by
  obtain ⟨f, rs, hf, hrest⟩ := h
  exact ⟨f, rs, hu.kept hf, hrest⟩

theorem appended (h : Holds t l es) {r : Record} (hr : r.IsReadable)
    (hu : FileTree.Appended t u l (lineBytes r)) : Holds u l (es ++ [r.entry]) := by
  obtain ⟨f, rs, hf, hread, hbytes, hrs, rfl⟩ := h
  obtain ⟨g, hg | ⟨hg, -⟩, hnew⟩ := hu.file
  · obtain rfl : f = g := by simpa [hf] using hg
    refine ⟨_, rs ++ [r], hnew, hread, ?_, ?_, ?_⟩
    · simp [hbytes]
    · simpa [or_imp, forall_and, hr] using hrs
    · simp
  · simp [hf] at hg

theorem read (h : Holds t l es) {p : Path} (hl : t.locate p = .ok l) :
    ∃ bytes, t.read p = .ok bytes ∧ (fileLines bytes).map Record.readEntry? = es.map some := by
  obtain ⟨f, rs, hf, hread, hbytes, hrs, rfl⟩ := h
  refine ⟨f.bytes, ?_, ?_⟩
  · simp [FileTree.read, FileTree.find, hl, hf, hread, bind, Except.bind]
  · rw [hbytes, readEntry?_fileLines hrs]

end Holds

theorem holds_of_appended {t u : FileTree} {l : Location} {r : Record} (hr : r.IsReadable)
    (hu : FileTree.Appended t u l (lineBytes r)) (hl : ∀ f, t.entry? l ≠ some (.file f)) :
    Holds u l [r.entry] := by
  obtain ⟨g, hg | ⟨-, rfl⟩, hnew⟩ := hu.file
  · exact absurd hg (hl g)
  · exact ⟨_, [r], hnew, FileTree.canRead_newFile, by simp [FileTree.newFile], by simpa using hr, rfl⟩

theorem finish_of_ended {log : SessionLog} (h : log.ended = true) (now : Instant) (t : FileTree) :
    log.finish now t = (log, t) :=
  if_pos h

theorem finish_of_not_ended {log : SessionLog} (h : log.ended = false) (now : Instant)
    (t : FileTree) :
    log.finish now t = ({ log with ended := true }, log.append now Tag.session "end" t) :=
  if_neg (by simp [h])

theorem fst_finish (log : SessionLog) (now : Instant) (t : FileTree) :
    (log.finish now t).1 = { log with ended := true } := by
  cases h : log.ended with
  | true =>
      obtain ⟨id, dir, ended⟩ := log
      obtain rfl : ended = true := h
      rw [finish_of_ended rfl]
  | false => rw [finish_of_not_ended h]

theorem start_of_lenient {s : LogSettings} (h : s.mode = .lenient) (id : SessionId) (now : Instant)
    (t : FileTree) :
    start s id now t =
      (.ok { id, dir := s.dir },
        append { id, dir := s.dir } now Tag.session "start" (t.makeDirectories s.dir).2) := by
  simp only [start, h]

theorem appended_append {log : SessionLog} {t : FileTree} (h : t.CanWrite log.path)
    (now : Instant) (tag text : String) :
    ∃ l, t.locate log.path = .ok l ∧
      FileTree.Appended t (log.append now tag text t) l (lineBytes ⟨now, tag, text⟩) := by
  obtain ⟨u, hu⟩ := FileTree.append_of_canWrite h (lineBytes ⟨now, tag, text⟩)
  obtain ⟨l, hl, happended⟩ := FileTree.appended_of_append hu
  refine ⟨l, hl, ?_⟩
  rwa [append, hu, FileTree.orKeep]

/-- The files of a directory that are named like logs are those of some sessions, and each of them holds
what is known of its session. -/
structure Shelved (t : FileTree) (dir : Path) (here : Location) (ids : List SessionId)
    (entries : SessionId → List (String × String)) : Prop where
  place : t.resolve dir = here
  name : ∀ id ∈ ids, Path.IsFileName id.fileName
  locate : ∀ id ∈ ids, t.locate (id.path dir) = .ok (here ++ [id.fileName])
  held : ∀ id ∈ ids, Holds t (here ++ [id.fileName]) (entries id)
  others : ∀ {name f}, SessionId.isLogName name = true →
    t.entry? (here ++ [name]) = some (.file f) → ∃ id ∈ ids, id.fileName = name

namespace Shelved

variable {t u : FileTree} {dir : Path} {here : Location} {ids : List SessionId}
  {entries : SessionId → List (String × String)}

theorem of_addsDirectories (h : Shelved t dir here ids entries)
    (hu : FileTree.AddsDirectories t u) : Shelved u dir here ids entries where
  place := by rw [hu.keepsDirectories.resolve, h.place]
  name := h.name
  locate := fun id hid => hu.keepsDirectories.locate (h.locate id hid)
  held := fun id hid => (h.held id hid).of_addsDirectories hu
  others := fun hname hf => h.others hname (hu.entry?_eq_file_iff.mp hf)

theorem of_appended (h : Shelved t dir here ids entries) {l : Location} {bytes : List UInt8}
    (hu : FileTree.Appended t u l bytes)
    (hne : ∀ {name}, SessionId.isLogName name = true → here ++ [name] ≠ l)
    (htext : ∀ id ∈ ids, id.text ≠ "") : Shelved u dir here ids entries where
  place := by rw [hu.keepsDirectories.resolve, h.place]
  name := h.name
  locate := fun id hid => hu.keepsDirectories.locate (h.locate id hid)
  held := fun id hid => (h.held id hid).of_entry?_eq
    (hu.elsewhere (hne (SessionId.isLogName_fileName (htext id hid))))
  others := fun hname hf => h.others hname (by rwa [hu.elsewhere (hne hname)] at hf)

theorem append (h : Shelved t dir here ids entries) (log : SessionLog) (ids' : List SessionId)
    (entries' : SessionId → List (String × String)) (hdir : log.dir = dir) (hwrite : t.CanWrite log.path)
    {now : Instant} {tag text : String} (hr : Record.IsReadable ⟨now, tag, text⟩)
    (hname : Path.IsFileName log.id.fileName) (hlog : log.id.text ≠ "")
    (hnew : log.id ∉ ids → entries log.id = [])
    (hids : ∀ id, id ∈ ids' ↔ id ∈ ids ∨ id = log.id)
    (hentry : entries' log.id = entries log.id ++ [(tag, text)])
    (hentries : ∀ id ∈ ids, id ≠ log.id → entries' id = entries id) :
    Shelved (log.append now tag text t) dir here ids' entries' ∧
      FileTree.Appended t (log.append now tag text t) (here ++ [log.id.fileName])
        (lineBytes ⟨now, tag, text⟩) := by
  subst hdir
  obtain ⟨l, hl, happended⟩ := appended_append hwrite now tag text
  obtain rfl : here ++ [log.id.fileName] = l := by
    rw [← FileTree.resolve_of_locate hl, path, SessionId.path, FileTree.resolve_join _ _ hname, h.place]
  have helsewhere : ∀ {name}, name ≠ log.id.fileName →
      FileTree.entry? (log.append now tag text t) (here ++ [name]) = t.entry? (here ++ [name]) := by
    intro name hne
    exact happended.elsewhere (by simpa using hne)
  refine ⟨⟨?_, ?_, ?_, ?_, ?_⟩, happended⟩
  · rw [happended.keepsDirectories.resolve, h.place]
  · intro id hid
    rcases (hids id).mp hid with hid | rfl
    · exact h.name id hid
    · exact hname
  · intro id hid
    rcases (hids id).mp hid with hid | rfl
    · exact happended.keepsDirectories.locate (h.locate id hid)
    · exact happended.keepsDirectories.locate hl
  · intro id hid
    by_cases heq : id = log.id
    · rw [heq, hentry]
      by_cases hmem : log.id ∈ ids
      · exact (h.held _ hmem).appended hr happended
      · -- A file that is there already would be the log of one of the sessions.
        rw [hnew hmem]
        apply holds_of_appended hr happended
        intro f hf
        obtain ⟨other, hother, hsame⟩ := h.others (SessionId.isLogName_fileName hlog) hf
        rw [SessionId.fileName_injective hsame] at hother
        exact hmem hother
    · have hmem := ((hids id).mp hid).resolve_right heq
      rw [hentries id hmem heq]
      exact (h.held id hmem).of_entry?_eq
        (helsewhere fun hsame => heq (SessionId.fileName_injective hsame))
  · intro name f hlogName hf
    by_cases heq : name = log.id.fileName
    · exact ⟨log.id, (hids _).mpr (Or.inr rfl), heq.symm⟩
    · rw [helsewhere heq] at hf
      obtain ⟨id, hid, hsame⟩ := h.others hlogName hf
      exact ⟨id, (hids _).mpr (Or.inl hid), hsame⟩

end Shelved

end Logbook.SessionLog
