import Logbook.Proofs.Search.Reference
import Logbook.Proofs.Search.Tail
import Logbook.Proofs.SessionLog.Sitting

namespace Logbook.Archive

variable {a : Archive} {t : FileTree} {fs : List Filing}

theorem isLogListing_of_filed {here : Location} {mode : Nat} (h : Filed t a.logDir here fs)
    (hdir : t.entry? here = some (.directory mode)) :
    IsLogListing t here mode (fs.map fun f => (f.id.fileName, f.file)) where
  sorted := by
    rw [List.pairwise_map]
    exact h.sorted.imp fun hlt => Utf8.encode_lt_encode_iff.mpr hlt
  mem_iff := by
    intro name f
    rw [List.mem_map, ← SessionId.isLogName_iff]
    constructor
    · rintro ⟨g, hg, heq⟩
      obtain ⟨rfl, rfl⟩ := Prod.mk.inj heq
      obtain ⟨mode', hentry, henter⟩ := h.enter (List.ne_nil_of_mem hg)
      obtain rfl : mode = mode' := by simpa [hdir] using hentry
      exact ⟨h.name g hg, henter, h.entry g hg⟩
    · rintro ⟨hname, -, hf⟩
      obtain ⟨g, hg, rfl⟩ := List.mem_map.mp (h.others hname hf)
      obtain rfl : g.file = f := by simpa [h.entry g hg] using hf
      exact ⟨g, hg, rfl⟩

theorem fileLines_readable {f : Filing} (h : f.IsReadable) :
    fileLines f.file.readable = f.records.map Record.render := by
  rw [File.readable, if_pos h.canRead, h.bytes, fileLines_flatMap_lineBytes h.records]

theorem lines?_of_filed (h : Filed t a.logDir (t.resolve a.logDir) fs) (hsource : a.HasSource t .logs) :
    a.lines? t .logs = some ((fs.flatMap Filing.records).map Record.render) := by
  obtain ⟨mode, hfind, hread⟩ := hsource
  obtain ⟨logs, hlisting, hlines⟩ := lines?_logs_of_find hfind hread
  obtain rfl := hlisting.unique (isLogListing_of_filed h (FileTree.entry?_of_find hfind))
  rw [hlines, List.flatMap_map, List.map_flatMap]
  exact congrArg some (List.flatMap_congr fun f hf => fileLines_readable (h.readable f hf))

theorem pairwise_id {ks : List Sitting} (hplain : ∀ k ∈ ks, k.IsPlain)
    (hordered : ks.Pairwise fun k m => ¬m.opened.isBefore k.opened = true) :
    ks.Pairwise fun k m => k.id = m.id ∨ k.id.fileName < m.id.fileName := by
  refine hordered.imp_of_mem fun hk hm hle => ?_
  exact SessionId.ofInstant_eq_or_fileName_lt (hplain _ hk).1 (hplain _ hm).1 hle

/-- Sessions one after the other, in a directory that holds no log before them. Their clock does not go
back, their writes succeed, and strict ones keep no fewer logs than there are sessions. Then a search
without a pattern finds all their records, in the order in which they have been written, if the directory
can be listed. -/
theorem search_finds_sittings (a : Archive) (t : FileTree) (ks : List Sitting)
    (hfresh : ∀ name f, SessionId.isLogName name = true →
      t.entry? (t.resolve a.logDir ++ [name]) ≠ some (.file f))
    (hplain : ∀ k ∈ ks, k.IsPlain)
    (hordered : ks.Pairwise fun k m => ¬m.opened.isBefore k.opened = true)
    (hkept : ∀ k ∈ ks, k.mode = .strict → ks.length ≤ k.maxFiles)
    (hcan : Sitting.AllCanRun a.logDir ks t)
    (hsource : a.HasSource (Sitting.runAll a.logDir ks t) .logs) (mode : MatchMode) (limit : Nat)
    (hlimit : (ks.flatMap Sitting.records).length ≤ limit) :
    (a.search (Sitting.runAll a.logDir ks t) { pattern := none, limit, mode } .logs).lines.map
        Record.parse? =
      (ks.flatMap Sitting.records).map fun r => some { r with time := r.time.truncateToMicros } := by
  have hempty : Filed t a.logDir (t.resolve a.logDir) [] :=
    { place := rfl, sorted := List.Pairwise.nil, name := by simp, entry := by simp, readable := by simp
      enter := by simp, others := fun hname hf => absurd hf (hfresh _ _ hname) }
  obtain ⟨fs, hfiled, hrecords⟩ := hempty.runAll hplain hcan (by simpa using hkept) (by simp)
    (pairwise_id hplain hordered)
  rw [List.flatMap_nil, List.nil_append] at hrecords
  have hlines := lines?_of_filed (hfiled.place.symm ▸ hfiled) hsource
  rw [hrecords] at hlines
  rw [lines_search_all hlines mode (by simpa using hlimit), List.map_map]
  refine List.map_congr_left fun r hr => ?_
  obtain ⟨k, hk, hr⟩ := List.mem_flatMap.mp hr
  exact Record.parse?_render ((hplain k hk).2 r hr).1 ((hplain k hk).2 r hr).2

def bareLogs (mode : Nat) : FileTree where
  entries := [(["logs"], .directory mode)]
  clock := Record.leapSecond
  workingDirectory := []
  nodup := by simp

def bareArchive : Archive :=
  { logDir := ⟨"/logs"⟩, historyFile := ⟨"/history"⟩ }

def newYear : Instant :=
  ⟨1483228800, 0, by decide⟩

def sittingAt (opened : Instant) (mode : LogMode) (text : String) : Sitting :=
  { mode, maxFiles := 3, opened, started := opened, added := [⟨opened, Tag.user, text⟩]
    ended := opened, closed := true }

/-- Two sessions of a leap second and one of the second after it. -/
def acrossNewYear : List Sitting :=
  [sittingAt Record.leapSecond .strict "a\nb", sittingAt Record.leapSecond .lenient "c",
    sittingAt newYear .lenient "d"]

theorem across_new_year_found :
    (∀ k ∈ acrossNewYear, k.IsPlain) ∧
      (acrossNewYear.Pairwise fun k m => ¬m.opened.isBefore k.opened = true) ∧
      Sitting.AllCanRun bareArchive.logDir acrossNewYear (bareLogs Mode.newDirectory) ∧
      ((bareArchive.search (Sitting.runAll bareArchive.logDir acrossNewYear (bareLogs Mode.newDirectory))
          { pattern := none, limit := 9, mode := .regex } .logs).lines.map Record.readEntry?) =
        [some ("session", "start"), some ("user", "a\nb"), some ("session", "end"),
          some ("session", "start"), some ("user", "c"), some ("session", "end"),
          some ("session", "start"), some ("user", "d"), some ("session", "end")] := by
  have hplain : ∀ k ∈ acrossNewYear, k.IsPlain := by decide +kernel
  have hordered : acrossNewYear.Pairwise fun k m => ¬m.opened.isBefore k.opened = true := by
    decide +kernel
  have hcan : Sitting.AllCanRun bareArchive.logDir acrossNewYear (bareLogs Mode.newDirectory) := by
    decide +kernel
  have hfresh : ∀ name f, SessionId.isLogName name = true →
      FileTree.entry? (bareLogs Mode.newDirectory)
        ((bareLogs Mode.newDirectory).resolve bareArchive.logDir ++ [name]) ≠ some (.file f) := by
    intro name f _
    rw [show (bareLogs Mode.newDirectory).resolve bareArchive.logDir = ["logs"] by decide +kernel]
    simp [FileTree.entry?_eq_some_iff_mem, bareLogs]
  have hfound := search_finds_sittings bareArchive (bareLogs Mode.newDirectory) acrossNewYear hfresh
    hplain hordered (by decide +kernel) hcan ⟨Mode.newDirectory, by decide +kernel, by decide⟩ .regex 9
    (by decide)
  refine ⟨hplain, hordered, hcan, ?_⟩
  have hentries := congrArg (List.map (Option.map Record.entry)) hfound
  rw [List.map_map] at hentries
  exact hentries.trans (by decide +kernel)

/-- A session whose log cannot be written, because a directory has its name, and one whose directory can
be changed but not listed: neither has a record that is found. -/
theorem unwritten_and_unlisted_not_found :
    let k := sittingAt newYear .lenient "a"
    let blocked :=
      (bareLogs Mode.newDirectory).put ["logs", k.id.fileName] (.directory Mode.newDirectory)
    let query : Query := { pattern := none, limit := 3 }
    k.IsPlain ∧
      (bareArchive.search (k.run bareArchive.logDir blocked) query .logs).lines.map Record.parse? ≠
        k.records.map (fun r => some { r with time := r.time.truncateToMicros }) ∧
      (bareArchive.search (k.run bareArchive.logDir (bareLogs 0o333)) query .logs).lines.map
          Record.parse? ≠
        k.records.map (fun r => some { r with time := r.time.truncateToMicros }) := by
  decide +kernel

end Logbook.Archive
