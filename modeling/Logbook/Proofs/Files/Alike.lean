import Logbook.Proofs.Files.Standing

/-!
Trees of files that differ only in the bytes of some files. No operation tells two such trees apart: it
fails in both with the same fault, or it leaves two trees that differ as little.
-/

namespace Logbook.FileTree

section SameResult

variable {α β : Type} {Q : α → α → Prop} {R : β → β → Prop}

/-- Two operations fail with the same fault, or have results that are related. -/
inductive SameResult (Q : α → α → Prop) : Except FileFault α → Except FileFault α → Prop where
  | ok {a b : α} : Q a b → SameResult Q (.ok a) (.ok b)
  | error (fault : FileFault) : SameResult Q (.error fault) (.error fault)

namespace SameResult

theorem bind {x y : Except FileFault α} {f g : α → Except FileFault β} (h : SameResult Q x y)
    (hfg : ∀ a b, Q a b → SameResult R (f a) (g b)) : SameResult R (x >>= f) (y >>= g) := by
  cases h with
  | ok hab => exact hfg _ _ hab
  | error fault => exact SameResult.error fault

end SameResult

end SameResult

/-- What stands at a location of two trees is the same, but for the bytes of a file. -/
inductive SameEntry (P : List UInt8 → List UInt8 → Prop) : Option Entry → Option Entry → Prop where
  | none : SameEntry P none none
  | directory (mode : Nat) : SameEntry P (some (.directory mode)) (some (.directory mode))
  | file {f g : File} : f.mode = g.mode → P f.bytes g.bytes →
      SameEntry P (some (.file f)) (some (.file g))

theorem SameEntry.refl {P : List UInt8 → List UInt8 → Prop} (h : ∀ bytes, P bytes bytes)
    (e : Option Entry) : SameEntry P e e := by
  cases e with
  | none => exact SameEntry.none
  | some e =>
      cases e with
      | file f => exact SameEntry.file rfl (h f.bytes)
      | directory mode => exact SameEntry.directory mode

/-- Two trees are the same, but for the bytes of files, which are related location by location. -/
structure Alike (P : Location → List UInt8 → List UInt8 → Prop) (t u : FileTree) : Prop where
  workingDirectory : u.workingDirectory = t.workingDirectory
  entry : ∀ l, SameEntry (P l) (t.entry? l) (u.entry? l)

namespace Alike

variable {P : Location → List UInt8 → List UInt8 → Prop} {t u : FileTree}

theorem start_eq (h : Alike P t u) (p : Path) : u.start p = t.start p := by
  simp [start, h.workingDirectory]

theorem resolve_eq (h : Alike P t u) (p : Path) : u.resolve p = t.resolve p :=
  resolve_of_workingDirectory h.workingDirectory p

theorem entry_cases (h : Alike P t u) (l : Location) :
    t.entry? l = none ∧ u.entry? l = none ∨
      (∃ mode, t.entry? l = some (.directory mode) ∧ u.entry? l = some (.directory mode)) ∨
      ∃ f g, t.entry? l = some (.file f) ∧ u.entry? l = some (.file g) ∧ f.mode = g.mode ∧
        P l f.bytes g.bytes := by
  have hentry := h.entry l
  generalize t.entry? l = e at *
  generalize u.entry? l = e' at *
  cases hentry with
  | none => exact Or.inl ⟨rfl, rfl⟩
  | directory mode => exact Or.inr (Or.inl ⟨mode, rfl, rfl⟩)
  | file hmode hbytes => exact Or.inr (Or.inr ⟨_, _, rfl, rfl, hmode, hbytes⟩)

theorem step_eq (h : Alike P t u) (here : Location) (name : String) :
    u.step here name = t.step here name := by
  rw [step, step]
  obtain ⟨ht, hu⟩ | ⟨mode, ht, hu⟩ | ⟨f, g, ht, hu, -, -⟩ := h.entry_cases here
  all_goals rw [ht, hu]

theorem locate_eq (h : Alike P t u) (p : Path) : u.locate p = t.locate p := by
  have hstep : u.step = t.step := by
    funext here name
    exact h.step_eq here name
  rw [locate, locate, h.start_eq, hstep]

theorem canChange_eq (h : Alike P t u) (dir : Location) : u.canChange dir = t.canChange dir := by
  rw [canChange, canChange]
  obtain ⟨ht, hu⟩ | ⟨mode, ht, hu⟩ | ⟨f, g, ht, hu, -, -⟩ := h.entry_cases dir
  all_goals rw [ht, hu]

theorem put (h : Alike P t u) {l : Location} (hl : l ≠ []) {e e' : Entry}
    (he : SameEntry (P l) (some e) (some e')) : Alike P (t.put l e) (u.put l e') where
  workingDirectory := h.workingDirectory
  entry := by
    intro m
    rw [entry?_put hl, entry?_put hl]
    by_cases hm : m = l
    · rw [if_pos hm, if_pos hm, hm]
      exact he
    · rw [if_neg hm, if_neg hm]
      exact h.entry m

theorem create (h : Alike P t u) (p : Path) (hnew : ∀ l, P l [] []) :
    SameResult
      (fun a b => t.locate p = .ok a.1 ∧ a.1 = b.1 ∧ a.1 ≠ [] ∧ a.2.1.mode = b.2.1.mode ∧
        P a.1 a.2.1.bytes b.2.1.bytes ∧ Alike P a.2.2 b.2.2)
      (t.create p) (u.create p) := by
  rw [FileTree.create, FileTree.create, h.locate_eq]
  cases hlocate : t.locate p with
  | error fault => exact SameResult.error fault
  | ok l =>
      simp only [bind, Except.bind]
      obtain ⟨ht, hu⟩ | ⟨mode, ht, hu⟩ | ⟨f, g, ht, hu, hmode, hbytes⟩ := h.entry_cases l
      · have hl : l ≠ [] := t.ne_nil_of_entry?_ne_directory (by simp [ht])
        simp only [ht, hu, h.canChange_eq]
        split
        · exact SameResult.ok
            ⟨rfl, rfl, hl, rfl, hnew l, h.put hl (SameEntry.file rfl (hnew l))⟩
        · exact SameResult.error _
      · simp only [ht, hu]
        exact SameResult.error _
      · have hl : l ≠ [] := t.ne_nil_of_entry?_ne_directory (by simp [ht])
        simp only [ht, hu, ← hmode]
        split
        · exact SameResult.ok ⟨rfl, rfl, hl, hmode, hbytes, h⟩
        · exact SameResult.error _

theorem append (h : Alike P t u) (p : Path) {bytes more : List UInt8} (hnew : ∀ l, P l [] [])
    (hadd : ∀ l old old', t.locate p = .ok l → P l old old' → P l (old ++ bytes) (old' ++ more)) :
    SameResult (Alike P) (t.append p bytes) (u.append p more) := by
  rw [FileTree.append, FileTree.append]
  apply (h.create p hnew).bind
  rintro ⟨l, f, t'⟩ ⟨m, g, u'⟩ ⟨hlocate, rfl, hl, hmode, hbytes, halike⟩
  exact SameResult.ok (halike.put hl (SameEntry.file hmode (hadd l _ _ hlocate hbytes)))

theorem enter (h : Alike P t u) (dir : Location) (name : String) :
    SameResult (fun a b => a.1 = b.1 ∧ Alike P a.2 b.2) (t.enter dir name) (u.enter dir name) := by
  simp only [FileTree.enter, h.step_eq]
  cases hstep : t.step dir name with
  | error fault => exact SameResult.error fault
  | ok l =>
      simp only [bind, Except.bind]
      obtain ⟨ht, hu⟩ | ⟨mode, ht, hu⟩ | ⟨f, g, ht, hu, -, -⟩ := h.entry_cases l
      · have hl : l ≠ [] := t.ne_nil_of_entry?_ne_directory (by simp [ht])
        simp only [ht, hu, h.canChange_eq]
        split
        · exact SameResult.ok ⟨rfl, h.put hl (SameEntry.directory _)⟩
        · exact SameResult.error _
      · simp only [ht, hu]
        exact SameResult.ok ⟨rfl, h⟩
      · simp only [ht, hu]
        exact SameResult.error _

theorem makeDirectoriesAt (h : Alike P t u) (base : Location) (names : List String) :
    Alike P (t.makeDirectoriesAt base names).2 (u.makeDirectoriesAt base names).2 := by
  induction names generalizing t u base with
  | nil => exact h
  | cons name names ih =>
      rw [FileTree.makeDirectoriesAt, FileTree.makeDirectoriesAt]
      have henter := h.enter base name
      generalize t.enter base name = left, u.enter base name = right at henter
      cases henter with
      | error fault => exact h
      | @ok a b hab =>
          obtain ⟨l, t'⟩ := a
          obtain ⟨m, u'⟩ := b
          obtain ⟨rfl, halike⟩ := hab
          exact ih halike l

theorem makeDirectories (h : Alike P t u) (p : Path) :
    Alike P (t.makeDirectories p).2 (u.makeDirectories p).2 := by
  rw [FileTree.makeDirectories, FileTree.makeDirectories, h.start_eq]
  exact h.makeDirectoriesAt _ _

theorem orKeep (h : Alike P t u) {x y : Except FileFault FileTree} (hxy : SameResult (Alike P) x y) :
    Alike P (t.orKeep x) (u.orKeep y) := by
  cases hxy with
  | ok hab => exact hab
  | error fault => exact h

theorem entry?_eq_directory_iff (h : Alike P t u) {l : Location} {mode : Nat} :
    u.entry? l = some (.directory mode) ↔ t.entry? l = some (.directory mode) := by
  obtain ⟨ht, hu⟩ | ⟨mode, ht, hu⟩ | ⟨f, g, ht, hu, -, -⟩ := h.entry_cases l
  all_goals simp [ht, hu]

theorem find_eq_directory_iff (h : Alike P t u) {p : Path} {mode : Nat} :
    u.find p = .ok (.directory mode) ↔ t.find p = .ok (.directory mode) := by
  simp only [find_eq_ok_iff, h.locate_eq, h.entry?_eq_directory_iff]

theorem exists_file_right (h : Alike P t u) {l : Location} {f : File}
    (hf : t.entry? l = some (.file f)) :
    ∃ g, u.entry? l = some (.file g) ∧ f.mode = g.mode ∧ P l f.bytes g.bytes := by
  obtain ⟨ht, hu⟩ | ⟨mode, ht, hu⟩ | ⟨f', g, ht, hu, hmode, hbytes⟩ := h.entry_cases l
  · simp [hf] at ht
  · simp [hf] at ht
  · obtain rfl : f = f' := by simpa [hf] using ht
    exact ⟨g, hu, hmode, hbytes⟩

theorem exists_file_left (h : Alike P t u) {l : Location} {g : File}
    (hg : u.entry? l = some (.file g)) : ∃ f, t.entry? l = some (.file f) := by
  obtain ⟨ht, hu⟩ | ⟨mode, ht, hu⟩ | ⟨f, g', ht, hu, -, -⟩ := h.entry_cases l
  · simp [hg] at hu
  · simp [hg] at hu
  · exact ⟨f, ht⟩

end Alike

end Logbook.FileTree
