import Logbook.Proofs.Files.Writing

namespace Logbook.FileTree

variable {t : FileTree}

theorem lookup_eq_some_iff_mem {entries : List (Location × Entry)}
    (h : (entries.map (·.1)).Nodup) {l : Location} {e : Entry} :
    entries.lookup l = some e ↔ (l, e) ∈ entries := by
  induction entries with
  | nil => simp
  | cons head rest ih =>
      obtain ⟨k, old⟩ := head
      rw [List.map_cons, List.nodup_cons] at h
      rw [List.lookup_cons, List.mem_cons, Prod.mk.injEq]
      by_cases hk : l = k
      · subst hk
        have hnot : (l, e) ∉ rest := fun hmem => h.1 (List.mem_map.mpr ⟨_, hmem, rfl⟩)
        simp [hnot, eq_comm]
      · simp only [beq_false_of_ne hk, ih h.2, hk, false_and, false_or]

theorem entry?_eq_some_iff_mem {l : Location} (hl : l ≠ []) {e : Entry} :
    t.entry? l = some e ↔ (l, e) ∈ t.entries := by
  unfold entry?
  rw [if_neg hl, lookup_eq_some_iff_mem t.nodup]

/-- A file in a directory, as a listing of the directory shows it. -/
def child? (here : Location) : Location × Entry → Option (String × File)
  | (l, .file f) => if l.dropLast = here then l.getLast?.map (·, f) else none
  | (_, .directory _) => none

theorem child?_eq_some_iff {here : Location} {e : Location × Entry} {name : String} {f : File} :
    child? here e = some (name, f) ↔ e = (here ++ [name], .file f) := by
  obtain ⟨l, entry⟩ := e
  cases entry with
  | directory mode => simp [child?]
  | file g =>
      rw [child?, Option.ite_none_right_eq_some, Option.map_eq_some_iff, Prod.mk.injEq,
        Entry.file.injEq]
      constructor
      · rintro ⟨hdrop, last, hlast, heq⟩
        obtain ⟨rfl, rfl⟩ := Prod.mk.inj heq
        exact ⟨by rw [← hdrop, List.dropLast_append_getLast? last hlast], rfl⟩
      · rintro ⟨rfl, rfl⟩
        exact ⟨by simp, name, by simp, rfl⟩

theorem mem_filterMap_child?_iff {here : Location} {name : String} {f : File} :
    (name, f) ∈ t.entries.filterMap (child? here) ↔ t.entry? (here ++ [name]) = some (.file f) := by
  rw [entry?_eq_some_iff_mem (by simp), List.mem_filterMap]
  constructor
  · rintro ⟨e, he, hchild⟩
    rwa [child?_eq_some_iff.mp hchild] at he
  · intro hmem
    exact ⟨_, hmem, child?_eq_some_iff.mpr rfl⟩

theorem pairwise_filterMap_child? (here : Location) :
    (t.entries.filterMap (child? here)).Pairwise fun a b => a.1 ≠ b.1 := by
  rw [List.pairwise_filterMap]
  apply (List.pairwise_map.mp t.nodup).imp
  intro a b hne c hc d hd heq
  obtain ⟨name, f⟩ := c
  obtain ⟨other, g⟩ := d
  obtain rfl : name = other := heq
  rw [child?_eq_some_iff.mp hc, child?_eq_some_iff.mp hd] at hne
  exact hne rfl

theorem find_eq_ok_iff {p : Path} {e : Entry} :
    t.find p = .ok e ↔ ∃ l, t.locate p = .ok l ∧ t.entry? l = some e := by
  simp only [find]
  cases hlocate : t.locate p with
  | error fault => simp [bind, Except.bind]
  | ok l => cases hentry : t.entry? l <;> simp [bind, Except.bind, hentry]

theorem files_of_find {dir : Path} {mode : Nat} (h : t.find dir = .ok (.directory mode)) :
    t.files dir =
      if !Mode.canRead mode then .error .permissionDenied
      else if !Mode.canEnter mode then .ok []
      else .ok (t.entries.filterMap (child? (t.resolve dir))) := by
  obtain ⟨l, hlocate, hentry⟩ := find_eq_ok_iff.mp h
  obtain rfl := resolve_of_locate hlocate
  simp only [files, hlocate, bind, Except.bind, hentry]
  rfl

end Logbook.FileTree
