import Mathlib.Data.List.Sort
import Mathlib.Data.String.Basic
import Logbook.Archive
import Logbook.Proofs.Files.Listing
import Logbook.Proofs.SessionLog.Name
import Logbook.Proofs.Text.Order

namespace Logbook

/-- What can be read of a file: nothing, if its owner may not read it. -/
def File.readable (f : File) : List UInt8 :=
  if Mode.canRead f.mode then f.bytes else []

theorem fileLines_nil : fileLines [] = [] := by
  rw [fileLines, Text.linesBy_nil]
  rfl

/-- The session logs of a directory with their names, in the order of the names' bytes: the regular files
whose names end like a log's. They show only if the directory can be entered. -/
structure IsLogListing (t : FileTree) (here : Location) (mode : Nat)
    (logs : List (String × File)) : Prop where
  sorted : logs.Pairwise fun a b => Utf8.encode a.1 < Utf8.encode b.1
  mem_iff : ∀ name f, (name, f) ∈ logs ↔
    (∃ stem : String, stem ≠ "" ∧ name = stem ++ ".log") ∧ Mode.canEnter mode = true ∧
      t.entry? (here ++ [name]) = some (.file f)

theorem IsLogListing.unique {t : FileTree} {here : Location} {mode : Nat}
    {logs others : List (String × File)} (h : IsLogListing t here mode logs)
    (k : IsLogListing t here mode others) : logs = others := by
  have hnodup : ∀ {logs : List (String × File)},
      (logs.Pairwise fun a b => Utf8.encode a.1 < Utf8.encode b.1) → logs.Nodup := by
    intro logs hlogs
    apply hlogs.imp
    intro a b hlt heq
    rw [heq] at hlt
    exact List.lt_irrefl _ hlt
  have hperm : logs.Perm others := by
    rw [List.perm_ext_iff_of_nodup (hnodup h.sorted) (hnodup k.sorted)]
    rintro ⟨name, f⟩
    rw [h.mem_iff, k.mem_iff]
  refine List.Perm.eq_of_pairwise ?_ h.sorted k.sorted hperm
  intro a b _ _ hab hba
  exact absurd hba (List.lt_asymm hab)

theorem pairwise_mergeSort_nameOrder (files : List (String × File)) :
    (files.mergeSort Archive.nameOrder).Pairwise fun a b => a.1 ≤ b.1 := by
  have hsorted : (files.mergeSort Archive.nameOrder).Pairwise
      fun a b => Archive.nameOrder a b = true := by
    refine List.pairwise_mergeSort ?_ ?_ files
    · intro a b c hab hbc
      rw [Archive.nameOrder, decide_eq_true_eq] at hab hbc ⊢
      exact hab.trans hbc
    · intro a b
      simpa [Archive.nameOrder] using le_total a.1 b.1
  exact hsorted.imp of_decide_eq_true

theorem sorted_mergeSort_nameOrder {files : List (String × File)}
    (h : files.Pairwise fun a b => a.1 ≠ b.1) :
    (files.mergeSort Archive.nameOrder).Pairwise fun a b => Utf8.encode a.1 < Utf8.encode b.1 := by
  have hne : (files.mergeSort Archive.nameOrder).Pairwise fun a b => a.1 ≠ b.1 :=
    ((List.mergeSort_perm files Archive.nameOrder).pairwise_iff fun hab => hab.symm).mpr h
  apply ((pairwise_mergeSort_nameOrder files).and hne).imp
  intro a b hab
  rw [Utf8.encode_lt_encode_iff]
  exact lt_of_le_of_ne hab.1 hab.2

/-- The names and files of a listing that are named like logs, in the order in which they are read. -/
def logsOf (files : List (String × File)) : List (String × File) :=
  (files.filter fun (name, _) => SessionId.isLogName name).mergeSort Archive.nameOrder

theorem logsOf_eq_self {files : List (String × File)}
    (hnames : ∀ file ∈ files, SessionId.isLogName file.1 = true)
    (hsorted : files.Pairwise fun a b => Archive.nameOrder a b = true) : logsOf files = files := by
  rw [logsOf, List.filter_eq_self.mpr hnames]
  exact List.mergeSort_of_pairwise hsorted

theorem exists_logListing {t : FileTree} {dir : Path} {mode : Nat}
    (h : t.find dir = .ok (.directory mode)) (hread : Mode.canRead mode = true) :
    ∃ files, t.files dir = .ok files ∧ IsLogListing t (t.resolve dir) mode (logsOf files) := by
  rw [FileTree.files_of_find h, hread]
  cases henter : Mode.canEnter mode with
  | false =>
      refine ⟨[], by simp, by simp [logsOf], fun name f => ?_⟩
      simp [logsOf, henter]
  | true =>
      refine ⟨t.entries.filterMap (FileTree.child? (t.resolve dir)), by simp,
        sorted_mergeSort_nameOrder ?_, fun name f => ?_⟩
      · exact (FileTree.pairwise_filterMap_child? _).filter _
      · rw [logsOf, List.mem_mergeSort, List.mem_filter, FileTree.mem_filterMap_child?_iff,
          SessionId.isLogName_iff, and_comm]
        simp only [henter, true_and]

namespace Archive

/-- A source exists: the directory of the logs can be listed, or the history is a regular file. -/
def HasSource (a : Archive) (t : FileTree) : Source → Prop
  | .logs => ∃ mode, t.find a.logDir = .ok (.directory mode) ∧ Mode.canRead mode = true
  | .history => ∃ f, t.find a.historyFile = .ok (.file f)

/-- The lines of a source that exists: those of each of its files, in the order of the files, with
replacements where bytes are no text. -/
inductive HasLines (a : Archive) (t : FileTree) : Source → List String → Prop where
  | logs {mode : Nat} {logs : List (String × File)} {lines : List (List (List UInt8))} :
      t.find a.logDir = .ok (.directory mode) → Mode.canRead mode = true →
      IsLogListing t (t.resolve a.logDir) mode logs →
      List.Forall₂ (fun log ls => Text.HasLines 10 log.2.readable ls) logs lines →
      HasLines a t .logs (lines.flatten.map Utf8.decodeLossy)
  | history {f : File} {lines : List (List UInt8)} :
      t.find a.historyFile = .ok (.file f) → Text.HasLines 10 f.readable lines →
      HasLines a t .history (lines.map Utf8.decodeLossy)

variable {a : Archive} {t : FileTree}

theorem flatMap_fileLines_bytes (logs : List (String × File)) :
    ((logs.filter fun (_, f) => Mode.canRead f.mode).map fun (_, f) => f.bytes).flatMap fileLines =
      logs.flatMap fun log => fileLines log.2.readable := by
  induction logs with
  | nil => rfl
  | cons log logs ih =>
      rw [List.flatMap_cons, ← ih, List.filter_cons]
      cases h : Mode.canRead log.2.mode <;> simp [File.readable, h, fileLines_nil]

theorem forall₂_hasLines_iff {logs : List (String × File)} {lines : List (List (List UInt8))} :
    List.Forall₂ (fun log ls => Text.HasLines 10 log.2.readable ls) logs lines ↔
      logs.map (fun log => Text.linesBy 10 log.2.readable) = lines := by
  simp only [← Text.linesBy_eq_iff]
  rw [← List.forall₂_map_left_iff (R := Eq), List.forall₂_eq_eq_eq]

theorem map_flatten_linesBy (logs : List (String × File)) :
    (logs.map fun log => Text.linesBy 10 log.2.readable).flatten.map Utf8.decodeLossy =
      logs.flatMap fun log => fileLines log.2.readable := by
  rw [← List.flatMap_def, List.map_flatMap]
  rfl

theorem lines?_logs_of_files {files : List (String × File)} (hdir : t.isDirectory a.logDir = true)
    (hfiles : t.files a.logDir = .ok files) :
    a.lines? t .logs = some ((logsOf files).flatMap fun log => fileLines log.2.readable) := by
  rw [← flatMap_fileLines_bytes]
  simp only [lines?, contents?, hdir, hfiles]
  rfl

theorem lines?_logs_of_find {mode : Nat} (h : t.find a.logDir = .ok (.directory mode))
    (hread : Mode.canRead mode = true) :
    ∃ logs, IsLogListing t (t.resolve a.logDir) mode logs ∧
      a.lines? t .logs = some (logs.flatMap fun log => fileLines log.2.readable) := by
  obtain ⟨files, hfiles, hlisting⟩ := exists_logListing h hread
  exact ⟨logsOf files, hlisting, lines?_logs_of_files (by simp [FileTree.isDirectory, h]) hfiles⟩

theorem lines?_logs_eq_none (h : ¬a.HasSource t .logs) : a.lines? t .logs = none := by
  cases hfind : t.find a.logDir with
  | error fault => simp [lines?, contents?, FileTree.isDirectory, hfind]
  | ok e =>
      cases e with
      | file f => simp [lines?, contents?, FileTree.isDirectory, hfind]
      | directory mode =>
          have hread : Mode.canRead mode = false := by
            by_contra hread
            exact h ⟨mode, hfind, by simpa using hread⟩
          simp [lines?, contents?, FileTree.isDirectory, hfind, FileTree.files_of_find hfind, hread]

theorem lines?_logs_eq_some_iff {lines : List String} :
    a.lines? t .logs = some lines ↔ a.HasLines t .logs lines := by
  constructor
  · intro h
    by_cases hsource : a.HasSource t .logs
    · obtain ⟨mode, hfind, hread⟩ := hsource
      obtain ⟨logs, hlisting, hlines⟩ := lines?_logs_of_find hfind hread
      obtain rfl : (logs.flatMap fun log => fileLines log.2.readable) = lines :=
        Option.some.inj (hlines.symm.trans h)
      rw [← map_flatten_linesBy]
      exact HasLines.logs hfind hread hlisting (forall₂_hasLines_iff.mpr rfl)
    · rw [lines?_logs_eq_none hsource] at h
      simp at h
  · rintro ⟨hfind, hread, hlisting, hpieces⟩
    obtain ⟨logs, hlogs, hlines⟩ := lines?_logs_of_find hfind hread
    rw [hlines, ← map_flatten_linesBy, hlogs.unique hlisting, forall₂_hasLines_iff.mp hpieces]

theorem lines?_history_of_find {f : File} (h : t.find a.historyFile = .ok (.file f)) :
    a.lines? t .history = some ((Text.linesBy 10 f.readable).map Utf8.decodeLossy) := by
  simp only [lines?, contents?, FileTree.isFile, FileTree.read, h, File.readable, bind, Except.bind]
  cases Mode.canRead f.mode <;> simp [fileLines, Text.linesBy_nil]

theorem lines?_history_eq_none (h : ¬a.HasSource t .history) : a.lines? t .history = none := by
  cases hfind : t.find a.historyFile with
  | error fault => simp [lines?, contents?, FileTree.isFile, hfind]
  | ok e =>
      cases e with
      | file f => exact absurd ⟨f, hfind⟩ h
      | directory mode => simp [lines?, contents?, FileTree.isFile, hfind]

theorem lines?_history_eq_some_iff {lines : List String} :
    a.lines? t .history = some lines ↔ a.HasLines t .history lines := by
  constructor
  · intro h
    by_cases hsource : a.HasSource t .history
    · obtain ⟨f, hfind⟩ := hsource
      obtain rfl : (Text.linesBy 10 f.readable).map Utf8.decodeLossy = lines :=
        Option.some.inj ((lines?_history_of_find hfind).symm.trans h)
      exact HasLines.history hfind (Text.hasLines_linesBy 10 f.readable)
    · rw [lines?_history_eq_none hsource] at h
      simp at h
  · rintro (_ | ⟨hfind, hpieces⟩)
    rw [lines?_history_of_find hfind, Text.linesBy_eq_iff.mpr hpieces]

theorem lines?_eq_some_iff {source : Source} {lines : List String} :
    a.lines? t source = some lines ↔ a.HasLines t source lines := by
  cases source with
  | logs => exact lines?_logs_eq_some_iff
  | history => exact lines?_history_eq_some_iff

theorem HasLines.hasSource {source : Source} {lines : List String} (h : a.HasLines t source lines) :
    a.HasSource t source := by
  cases h with
  | logs hfind hread _ _ => exact ⟨_, hfind, hread⟩
  | history hfind _ => exact ⟨_, hfind⟩

theorem lines?_eq_none_iff {source : Source} :
    a.lines? t source = none ↔ ¬a.HasSource t source := by
  constructor
  · rintro hnone hsource
    cases source with
    | logs =>
        obtain ⟨mode, hfind, hread⟩ := hsource
        obtain ⟨logs, -, hlines⟩ := lines?_logs_of_find hfind hread
        simp [hnone] at hlines
    | history =>
        obtain ⟨f, hfind⟩ := hsource
        simp [lines?_history_of_find hfind] at hnone
  · intro hnot
    cases hlines : a.lines? t source with
    | none => rfl
    | some lines => exact absurd (lines?_eq_some_iff.mp hlines).hasSource hnot

theorem HasSource.exists_hasLines {source : Source} (h : a.HasSource t source) :
    ∃ lines, a.HasLines t source lines := by
  cases hlines : a.lines? t source with
  | none => exact absurd h (lines?_eq_none_iff.mp hlines)
  | some lines => exact ⟨lines, lines?_eq_some_iff.mp hlines⟩

end Archive

end Logbook
