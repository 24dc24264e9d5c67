import Logbook.Proofs.Files.Alike
import Logbook.Proofs.Files.Removing

namespace Logbook.FileTree

/-- Two trees have the same entries, listed in whatever order. -/
structure Reordered (t u : FileTree) : Prop where
  entries : u.entries.Perm t.entries
  clock : u.clock = t.clock
  workingDirectory : u.workingDirectory = t.workingDirectory

namespace Reordered

variable {t u : FileTree} {p : Path} {l : Location}

theorem refl (t : FileTree) : Reordered t t :=
  ⟨List.Perm.refl _, rfl, rfl⟩

theorem symm (h : Reordered t u) : Reordered u t :=
  ⟨h.entries.symm, h.clock.symm, h.workingDirectory.symm⟩

theorem entry?_eq (h : Reordered t u) (l : Location) : u.entry? l = t.entry? l := by
  by_cases hl : l = []
  · rw [ entry?, entry?, if_pos hl, if_pos hl]
  · ext e
    rw [entry?_eq_some_iff_mem hl, entry?_eq_some_iff_mem hl, h.entries.mem_iff]

theorem locate_eq (h : Reordered t u) (p : Path) : u.locate p = t.locate p := by
  have hstep : u.step = t.step := by
    funext here name
    rw [step, step, h.entry?_eq]
  rw [locate, locate, start, start, h.workingDirectory, hstep]

theorem find_eq (h : Reordered t u) (p : Path) : u.find p = t.find p := by
  simp only [find, h.locate_eq, h.entry?_eq]

theorem resolve_eq (h : Reordered t u) (p : Path) : u.resolve p = t.resolve p :=
  resolve_of_workingDirectory h.workingDirectory p

theorem canChange_eq (h : Reordered t u) (dir : Location) : u.canChange dir = t.canChange dir := by
  rw [canChange, canChange, h.entry?_eq]

theorem erase (h : Reordered t u) (l : Location) : Reordered (t.erase l) (u.erase l) :=
  ⟨h.entries.filter _, h.clock, h.workingDirectory⟩

theorem files_eq_of_not_listed (h : Reordered t u) {dir : Path}
    (hnot : ¬∃ mode, t.find dir = .ok (.directory mode) ∧ Mode.canRead mode = true ∧
      Mode.canEnter mode = true) : u.files dir = t.files dir := by
  rw [files, files, h.locate_eq]
  cases hlocate : t.locate dir with
  | error fault => rfl
  | ok here =>
      simp only [bind, Except.bind, h.entry?_eq]
      split
      · rfl
      · rfl
      · rename_i mode hentry
        have hfind : t.find dir = .ok (.directory mode) := find_eq_ok_iff.mpr ⟨here, hlocate, hentry⟩
        by_cases hread : Mode.canRead mode = true
        · have henter : Mode.canEnter mode = false := by
            by_contra henter
            exact hnot ⟨mode, hfind, hread, by simpa using henter⟩
          simp [henter]
        · simp [hread]

theorem remove (h : Reordered t u) (p : Path) : SameResult Reordered (t.remove p) (u.remove p) := by
  rw [FileTree.remove, FileTree.remove, h.locate_eq]
  refine SameResult.bind (Q := Eq) ?_ ?_
  · cases t.locate p with
    | error fault => exact SameResult.error fault
    | ok l => exact SameResult.ok rfl
  · rintro l _ rfl
    rw [h.entry?_eq, h.canChange_eq]
    split
    · exact SameResult.error _
    · exact SameResult.error _
    · split
      · exact SameResult.ok (h.erase l)
      · exact SameResult.error _

end Reordered

def reversed (t : FileTree) : FileTree :=
  { t with
    entries := t.entries.reverse
    nodup := by simpa [List.map_reverse] using t.nodup }

theorem reordered_reversed (t : FileTree) : Reordered t t.reversed :=
  ⟨List.reverse_perm _, rfl, rfl⟩

end Logbook.FileTree
