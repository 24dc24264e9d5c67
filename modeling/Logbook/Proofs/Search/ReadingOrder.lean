import Logbook.Proofs.Search.Sources
import Logbook.Proofs.SessionLog.NameOrder

namespace Logbook

def Instant.notAfter (t u : Instant) : Bool :=
  !u.isBefore t

namespace Instant

variable {t u v : Instant}

theorem notAfter_iff : t.notAfter u = true ↔ ¬u.isBefore t = true := by
  rw [notAfter, Bool.not_eq_true', Bool.not_eq_true]

theorem notAfter_total (t u : Instant) : (t.notAfter u || u.notAfter t) = true := by
  rw [Bool.or_eq_true, notAfter_iff, notAfter_iff]
  by_contra h
  obtain ⟨hbefore, hafter⟩ := not_or.mp h
  exact t.not_isBefore_self (isBefore_trans (not_not.mp hafter) (not_not.mp hbefore))

theorem notAfter_trans (h : t.notAfter u = true) (k : u.notAfter v = true) :
    t.notAfter v = true := by
  rw [notAfter_iff] at *
  intro hbefore
  rcases t.isBefore_or_eq u with hlt | rfl | hlt
  · exact k (isBefore_trans hbefore hlt)
  · exact k hbefore
  · exact h hlt

end Instant

namespace SessionId

theorem text_lt {t u : Instant} (ht : t.HasPlainYear) (hu : u.HasPlainYear)
    (h : t.notAfter u = true) (hsecond : ¬t.SameSecond u) :
    (ofInstant t).text < (ofInstant u).text := by
  have hlt := text_append_lt ht hu (Instant.fields_lt ht (Instant.notAfter_iff.mp h) hsecond) [] []
  rwa [List.append_nil, List.append_nil, ← String.lt_iff_toList_lt] at hlt

theorem text_le {t u : Instant} (ht : t.HasPlainYear) (hu : u.HasPlainYear)
    (h : t.notAfter u = true) : (ofInstant t).text ≤ (ofInstant u).text := by
  by_cases hsecond : t.SameSecond u
  · rw [ofInstant_eq_of_sameSecond hsecond]
  · exact (text_lt ht hu h hsecond).le

theorem fileName_le {t u : Instant} (ht : t.HasPlainYear) (hu : u.HasPlainYear)
    (h : t.notAfter u = true) : (ofInstant t).fileName ≤ (ofInstant u).fileName := by
  rcases ofInstant_eq_or_fileName_lt ht hu (Instant.notAfter_iff.mp h) with heq | hlt
  · rw [heq]
  · exact hlt.le

theorem ofInstant_eq_iff {t u : Instant} (ht : t.HasPlainYear) (hu : u.HasPlainYear) :
    ofInstant t = ofInstant u ↔ t.SameSecond u := by
  refine ⟨fun heq => ?_, ofInstant_eq_of_sameSecond⟩
  by_contra hsecond
  have hne : (ofInstant t).text ≠ (ofInstant u).text := by
    rcases Bool.or_eq_true_iff.mp (t.notAfter_total u) with h | h
    · exact (text_lt ht hu h hsecond).ne
    · exact (text_lt hu ht h fun hsame => hsecond ⟨hsame.1.symm, hsame.2.symm⟩).ne'
  exact hne (congrArg text heq)

theorem pairwise_fileName_le {starts : List Instant} (hplain : ∀ t ∈ starts, t.HasPlainYear) :
    ((starts.mergeSort Instant.notAfter).map fun t => (ofInstant t).fileName).Pairwise (· ≤ ·) := by
  have hsorted : (starts.mergeSort Instant.notAfter).Pairwise fun t u => t.notAfter u = true :=
    List.pairwise_mergeSort @Instant.notAfter_trans Instant.notAfter_total starts
  rw [List.pairwise_map]
  refine hsorted.imp_of_mem fun ht hu hle => fileName_le (hplain _ ?_) (hplain _ ?_) hle
  · exact List.mem_mergeSort.mp ht
  · exact List.mem_mergeSort.mp hu

theorem map_fst_logsOf {starts : List Instant} (hplain : ∀ t ∈ starts, t.HasPlainYear)
    (file : Instant → File) :
    (logsOf (starts.map fun t => ((ofInstant t).fileName, file t))).map Prod.fst =
      (starts.mergeSort Instant.notAfter).map fun t => (ofInstant t).fileName := by
  have hlogs : ∀ log ∈ starts.map fun t => ((ofInstant t).fileName, file t),
      isLogName log.1 = true := by
    intro log hlog
    obtain ⟨t, -, rfl⟩ := List.mem_map.mp hlog
    exact isLogName_fileName (text_ofInstant_ne_empty t)
  rw [logsOf, List.filter_eq_self.mpr hlogs]
  refine List.Perm.eq_of_pairwise (fun _ _ _ _ => le_antisymm)
    (List.pairwise_map.mpr (pairwise_mergeSort_nameOrder _)) (pairwise_fileName_le hplain) ?_
  have hnames := (List.mergeSort_perm (starts.map fun t => ((ofInstant t).fileName, file t))
    Archive.nameOrder).map Prod.fst
  rw [List.map_map] at hnames
  exact hnames.trans ((List.mergeSort_perm starts Instant.notAfter).map _).symm

/-- Of two sessions that start one after the other, the name of the first comes first in the order of bytes,
and they are the same exactly if both start in the same second. So the logs of a directory are read in the
order in which their sessions have started. -/
theorem names_in_order_of_starts (starts : List Instant) (hplain : ∀ t ∈ starts, t.HasPlainYear) :
    (∀ t ∈ starts, ∀ u ∈ starts, t.notAfter u = true →
      Utf8.encode (ofInstant t).text ≤ Utf8.encode (ofInstant u).text ∧
        (ofInstant t = ofInstant u ↔ t.SameSecond u) ∧
        Utf8.encode (ofInstant t).fileName ≤ Utf8.encode (ofInstant u).fileName) ∧
      ∀ file : Instant → File,
        (logsOf (starts.map fun t => ((ofInstant t).fileName, file t))).map Prod.fst =
          (starts.mergeSort Instant.notAfter).map fun t => (ofInstant t).fileName := by
  refine ⟨fun t ht u hu h => ?_, map_fst_logsOf hplain⟩
  rw [Utf8.encode_le_encode_iff, Utf8.encode_le_encode_iff]
  exact ⟨text_le (hplain t ht) (hplain u hu) h, ofInstant_eq_iff (hplain t ht) (hplain u hu),
    fileName_le (hplain t ht) (hplain u hu) h⟩

def leapStart : Instant :=
  ⟨1483228799, 1000000001, by decide⟩

def laterLeapStart : Instant :=
  ⟨1483228799, 1500000000, by decide⟩

/-- Starts within a leap second and on both sides of it, after a leap day and in the first and the last
plain year, out of order. -/
def boundaryStarts : List Instant :=
  [⟨1483228800, 1, by decide⟩, laterLeapStart, ⟨951868800, 0, by decide⟩,
    ⟨1483228799, 999999999, by decide⟩, ⟨253402300799, 5, by decide⟩, leapStart,
    ⟨951868799, 0, by decide⟩, ⟨-62167219200, 0, by decide⟩]

theorem boundary_starts_in_order :
    (∀ t ∈ boundaryStarts, t.HasPlainYear) ∧ leapStart ∈ boundaryStarts ∧
      laterLeapStart ∈ boundaryStarts ∧ leapStart.notAfter laterLeapStart = true ∧
      ofInstant leapStart = ofInstant laterLeapStart ∧
      (logsOf (boundaryStarts.map fun t => ((ofInstant t).fileName, ⟨[], t, Mode.newFile⟩))).map
          Prod.fst =
        ["00000101-000000.log", "20000229-235959.log", "20000301-000000.log", "20161231-235959.log",
          "20161231-235960.log", "20161231-235960.log", "20170101-000000.log",
          "99991231-235959.log"] := by
  have hplain : ∀ t ∈ boundaryStarts, t.HasPlainYear := by decide +kernel
  have hfirst : leapStart ∈ boundaryStarts := by decide +kernel
  have hlater : laterLeapStart ∈ boundaryStarts := by decide +kernel
  have hle : leapStart.notAfter laterLeapStart = true := by decide
  obtain ⟨hpairs, hread⟩ := names_in_order_of_starts boundaryStarts hplain
  have hsame : leapStart.SameSecond laterLeapStart := by
    constructor <;> decide
  refine ⟨hplain, hfirst, hlater, hle, ?_, (hread _).trans ?_⟩
  · exact (hpairs leapStart hfirst laterLeapStart hlater hle).2.1.mpr hsame
  · refine List.Perm.eq_of_pairwise (fun _ _ _ _ => le_antisymm) (pairwise_fileName_le hplain) ?_
      (((List.mergeSort_perm _ _).map _).trans ?_)
    · decide +kernel
    · decide +kernel

end SessionId

end Logbook
