import Mathlib.Tactic
import Logbook.Files.Tree
import Logbook.Proofs.Files.Path

namespace Logbook.FileTree

theorem foldlM_cons_eq_ok_iff {α β ε : Type} {f : β → α → Except ε β} {x : α} {xs : List α}
    {first last : β} :
    (x :: xs).foldlM f first = .ok last ↔
      ∃ next, f first x = .ok next ∧ xs.foldlM f next = .ok last := by
  rw [List.foldlM_cons]
  cases f first x <;> simp [bind, Except.bind]

theorem lookup_putEntry (l m : Location) (e : Entry) (entries : List (Location × Entry)) :
    (putEntry l e entries).lookup m = if m = l then some e else entries.lookup m := by
  induction entries with
  | nil =>
      rw [putEntry, List.lookup_cons]
      split <;> simp_all
  | cons head rest ih =>
      obtain ⟨k, old⟩ := head
      rw [putEntry]
      split
      · rename_i hk
        subst hk
        rw [List.lookup_cons, List.lookup_cons]
        split <;> simp_all
      · rename_i hk
        rw [List.lookup_cons, List.lookup_cons, ih]
        by_cases hm : m = k
        · subst hm
          simp [hk]
        · simp only [beq_false_of_ne hm]

theorem entry?_put {t : FileTree} {l : Location} (hl : l ≠ []) (e : Entry) (m : Location) :
    entry? (t.put l e) m = if m = l then some e else t.entry? m := by
  simp only [put, lookup_putEntry, entry?]
  by_cases hm : m = []
  · rw [if_pos hm, if_neg (by rw [hm]; exact hl.symm), if_pos hm]
  · simp [hm]

theorem entry?_nil (t : FileTree) : t.entry? [] = some (.directory Mode.newDirectory) :=
  if_pos rfl

/-- Where a name leads from a directory. -/
def stepTo (here : Location) (name : String) : Location :=
  if name = ".." then here.dropLast else here ++ [name]

/-- The place that a path names, if everything on the way is a directory. -/
def resolve (t : FileTree) (p : Path) : Location :=
  p.names.foldl stepTo (t.start p)

def CanEnter (t : FileTree) (l : Location) : Prop :=
  ∃ mode, t.entry? l = some (.directory mode) ∧ Mode.canEnter mode = true

theorem step_eq_ok_iff {t : FileTree} {here l : Location} {name : String} :
    t.step here name = .ok l ↔ t.CanEnter here ∧ l = stepTo here name := by
  simp only [step, CanEnter, stepTo]
  cases hentry : t.entry? here with
  | none => simp
  | some e =>
      cases e with
      | file f => simp
      | directory mode =>
          by_cases hmode : Mode.canEnter mode = true
          · simp only [hmode, Bool.not_true, Bool.false_eq_true, if_false, Except.ok.injEq,
              Option.some.injEq, Entry.directory.injEq, exists_eq_left', true_and]
            exact eq_comm
          · simp [hmode]

theorem foldlM_step_eq_ok {t : FileTree} {names : List String} {here l : Location}
    (h : names.foldlM t.step here = .ok l) : l = names.foldl stepTo here := by
  induction names generalizing here with
  | nil => exact (Except.ok.inj h).symm
  | cons name names ih =>
      obtain ⟨next, hstep, hrest⟩ := foldlM_cons_eq_ok_iff.mp h
      rw [ih hrest, (step_eq_ok_iff.mp hstep).2]
      rfl

theorem locate_eq_ok_iff {t : FileTree} {p : Path} {l : Location} :
    t.locate p = .ok l ↔ p.text.isEmpty = false ∧ p.names.foldlM t.step (t.start p) = .ok l := by
  simp only [locate]
  cases p.text.isEmpty <;> simp

theorem resolve_of_locate {t : FileTree} {p : Path} {l : Location} (h : t.locate p = .ok l) :
    t.resolve p = l :=
  (foldlM_step_eq_ok (locate_eq_ok_iff.mp h).2).symm

theorem resolve_join (t : FileTree) (dir : Path) {name : String} (h : Path.IsFileName name) :
    t.resolve (dir.join name) = t.resolve dir ++ [name] := by
  simp [resolve, start, Path.isAbsolute_join dir h, Path.names_join dir h, stepTo, h.2.2.1]

/-- Directories stay as they are, and paths start where they did. -/
structure KeepsDirectories (t u : FileTree) : Prop where
  workingDirectory : u.workingDirectory = t.workingDirectory
  directory : ∀ {l mode}, t.entry? l = some (.directory mode) → u.entry? l = some (.directory mode)

namespace KeepsDirectories

variable {t u v : FileTree}

theorem trans (h : KeepsDirectories t u) (k : KeepsDirectories u v) : KeepsDirectories t v :=
  ⟨k.workingDirectory.trans h.workingDirectory, fun hl => k.directory (h.directory hl)⟩

theorem start (h : KeepsDirectories t u) (p : Path) : u.start p = t.start p := by
  simp [FileTree.start, h.workingDirectory]

theorem resolve (h : KeepsDirectories t u) (p : Path) : u.resolve p = t.resolve p := by
  simp [FileTree.resolve, h.start]

theorem foldlM_step (h : KeepsDirectories t u) {names : List String} {here l : Location}
    (hl : names.foldlM t.step here = .ok l) : names.foldlM u.step here = .ok l := by
  induction names generalizing here with
  | nil => exact hl
  | cons name names ih =>
      obtain ⟨next, hstep, hrest⟩ := foldlM_cons_eq_ok_iff.mp hl
      obtain ⟨⟨mode, hentry, hmode⟩, hnext⟩ := step_eq_ok_iff.mp hstep
      exact foldlM_cons_eq_ok_iff.mpr
        ⟨next, step_eq_ok_iff.mpr ⟨⟨mode, h.directory hentry, hmode⟩, hnext⟩, ih hrest⟩

theorem locate (h : KeepsDirectories t u) {p : Path} {l : Location} (hl : t.locate p = .ok l) :
    u.locate p = .ok l := by
  rw [locate_eq_ok_iff] at hl ⊢
  rw [h.start]
  exact ⟨hl.1, h.foldlM_step hl.2⟩

end KeepsDirectories

/-- A file that can be written stands at a path, or can be made there. -/
def CanWrite (t : FileTree) (p : Path) : Prop :=
  ∃ l f u, t.create p = .ok (l, f, u)

instance (t : FileTree) (p : Path) : Decidable (t.CanWrite p) :=
  match h : t.create p with
  | .ok (l, f, u) => isTrue ⟨l, f, u, h⟩
  | .error _ => isFalse fun ⟨_, _, _, hok⟩ => by simp [h] at hok

def newFile (t : FileTree) : File :=
  { bytes := [], modified := t.clock, mode := Mode.newFile }

theorem canRead_newFile : Mode.canRead Mode.newFile = true := by
  decide

/-- The file that a write to a location adds to: the one that is there, or a new one if nothing is. -/
def Opens (t : FileTree) (l : Location) (f : File) : Prop :=
  t.entry? l = some (.file f) ∨ t.entry? l = none ∧ f = t.newFile

/-- The file at a location with bytes added to it, where one is made if nothing is there. -/
structure Appended (t u : FileTree) (l : Location) (bytes : List UInt8) : Prop where
  workingDirectory : u.workingDirectory = t.workingDirectory
  clock : u.clock = t.clock
  elsewhere : ∀ {m}, m ≠ l → u.entry? m = t.entry? m
  file : ∃ f, t.Opens l f ∧
    u.entry? l = some (.file { f with bytes := f.bytes ++ bytes, modified := t.clock })

theorem of_create_eq_ok {t u : FileTree} {p : Path} {l : Location} {f : File}
    (h : t.create p = .ok (l, f, u)) :
    t.locate p = .ok l ∧
      (Mode.canWrite f.mode = true ∧ t.entry? l = some (.file f) ∧ u = t ∨
        t.entry? l = none ∧ t.canChange l.dropLast = true ∧ f = t.newFile ∧
          u = t.put l (.file f)) := by
  simp only [create] at h
  cases hlocate : t.locate p with
  | error fault => simp [hlocate, bind, Except.bind] at h
  | ok k =>
      simp only [hlocate, bind, Except.bind] at h
      cases hentry : t.entry? k with
      | none =>
          simp only [hentry] at h
          split at h
          · rename_i hchange
            obtain ⟨rfl, rfl, rfl⟩ : k = l ∧ t.newFile = f ∧ t.put k (.file t.newFile) = u := by
              simpa [newFile] using h
            exact ⟨rfl, Or.inr ⟨hentry, hchange, rfl, rfl⟩⟩
          · simp at h
      | some e =>
          cases e with
          | directory mode => simp [hentry] at h
          | file g =>
              simp only [hentry] at h
              split at h
              · rename_i hwrite
                obtain ⟨rfl, rfl, rfl⟩ : k = l ∧ g = f ∧ t = u := by simpa using h
                exact ⟨rfl, Or.inl ⟨hwrite, hentry, rfl⟩⟩
              · simp at h

theorem ne_nil_of_entry?_ne_directory {t : FileTree} {l : Location}
    (h : ∀ mode, t.entry? l ≠ some (.directory mode)) : l ≠ [] := by
  rintro rfl
  exact h _ t.entry?_nil

theorem appended_of_append {t u : FileTree} {p : Path} {bytes : List UInt8}
    (h : t.append p bytes = .ok u) :
    ∃ l, t.locate p = .ok l ∧ Appended t u l bytes := by
  simp only [append] at h
  cases hcreate : t.create p with
  | error fault => simp [hcreate, bind, Except.bind] at h
  | ok made =>
      obtain ⟨l, f, v⟩ := made
      obtain ⟨hlocate, hmade⟩ := of_create_eq_ok hcreate
      obtain rfl : v.put l (.file { f with bytes := f.bytes ++ bytes, modified := v.clock }) = u := by
        simpa [hcreate, bind, Except.bind] using h
      refine ⟨l, hlocate, ?_⟩
      rcases hmade with ⟨-, hentry, rfl⟩ | ⟨hentry, -, rfl, rfl⟩
      · have hl : l ≠ [] := v.ne_nil_of_entry?_ne_directory (by simp [hentry])
        exact
          { workingDirectory := rfl
            clock := rfl
            elsewhere := fun hm => by rw [entry?_put hl, if_neg hm]
            file := ⟨f, Or.inl hentry, by rw [entry?_put hl, if_pos rfl]⟩ }
      · have hl : l ≠ [] := t.ne_nil_of_entry?_ne_directory (by simp [hentry])
        exact
          { workingDirectory := rfl
            clock := rfl
            elsewhere := fun hm => by rw [entry?_put hl, if_neg hm, entry?_put hl, if_neg hm]
            file := ⟨t.newFile, Or.inr ⟨hentry, rfl⟩, by rw [entry?_put hl, if_pos rfl]; rfl⟩ }

theorem append_of_canWrite {t : FileTree} {p : Path} (h : t.CanWrite p) (bytes : List UInt8) :
    ∃ u, t.append p bytes = .ok u := by
  obtain ⟨l, f, u, hcreate⟩ := h
  exact ⟨_, by simp only [append, hcreate]; rfl⟩

namespace Appended

variable {t u : FileTree} {l : Location} {bytes : List UInt8}

theorem keepsDirectories (h : Appended t u l bytes) : KeepsDirectories t u where
  workingDirectory := h.workingDirectory
  directory := by
    intro m mode hm
    rw [h.elsewhere, hm]
    rintro rfl
    obtain ⟨f, hf | ⟨hf, -⟩, -⟩ := h.file
    · rw [hf] at hm
      simp at hm
    · rw [hf] at hm
      simp at hm

end Appended

/-- Directories are added where nothing was, and all else is as it was. -/
structure AddsDirectories (t u : FileTree) : Prop where
  workingDirectory : u.workingDirectory = t.workingDirectory
  clock : u.clock = t.clock
  kept : ∀ {l e}, t.entry? l = some e → u.entry? l = some e
  added : ∀ {l e}, u.entry? l = some e → t.entry? l = some e ∨ ∃ mode, e = .directory mode

namespace AddsDirectories

variable {t u v : FileTree}

theorem refl (t : FileTree) : AddsDirectories t t :=
  ⟨rfl, rfl, id, Or.inl⟩

theorem trans (h : AddsDirectories t u) (k : AddsDirectories u v) : AddsDirectories t v where
  workingDirectory := k.workingDirectory.trans h.workingDirectory
  clock := k.clock.trans h.clock
  kept := fun hl => k.kept (h.kept hl)
  added := fun hl => (k.added hl).elim h.added Or.inr

theorem keepsDirectories (h : AddsDirectories t u) : KeepsDirectories t u :=
  ⟨h.workingDirectory, h.kept⟩

theorem entry?_eq_file_iff (h : AddsDirectories t u) {l : Location} {f : File} :
    u.entry? l = some (.file f) ↔ t.entry? l = some (.file f) := by
  refine ⟨fun hl => ?_, h.kept⟩
  rcases h.added hl with hl | ⟨mode, hl⟩
  · exact hl
  · simp at hl

theorem put_directory {l : Location} (h : t.entry? l = none) (mode : Nat) :
    AddsDirectories t (t.put l (.directory mode)) := by
  have hl : l ≠ [] := t.ne_nil_of_entry?_ne_directory (by simp [h])
  refine ⟨rfl, rfl, fun {m e} hm => ?_, fun {m e} hm => ?_⟩
  · rw [entry?_put hl, if_neg, hm]
    rintro rfl
    simp [h] at hm
  · rw [entry?_put hl] at hm
    split at hm
    · exact Or.inr ⟨mode, (Option.some.inj hm).symm⟩
    · exact Or.inl hm

end AddsDirectories

/-- No file has changed but the one at a location, and that one has only grown. -/
structure Extends (t u : FileTree) (l : Location) : Prop where
  elsewhere : ∀ {m}, m ≠ l → ∀ f, u.entry? m = some (.file f) ↔ t.entry? m = some (.file f)
  grown : ∀ f, t.entry? l = some (.file f) → ∃ g, u.entry? l = some (.file g) ∧ f.bytes <+: g.bytes

theorem Extends.refl (t : FileTree) (l : Location) : Extends t t l :=
  ⟨fun _ _ => Iff.rfl, fun f hf => ⟨f, hf, List.prefix_refl f.bytes⟩⟩

theorem Appended.extends {t u : FileTree} {l : Location} {bytes : List UInt8}
    (h : Appended t u l bytes) : Extends t u l where
  elsewhere := fun hm f => by rw [h.elsewhere hm]
  grown := by
    intro f hf
    obtain ⟨g, hg | ⟨hg, -⟩, hnew⟩ := h.file
    · obtain rfl : f = g := by simpa [hf] using hg
      exact ⟨_, hnew, List.prefix_append _ _⟩
    · simp [hf] at hg

theorem AddsDirectories.extends_trans {t u v : FileTree} {l : Location} (h : AddsDirectories t u)
    (k : Extends u v l) : Extends t v l where
  elsewhere := fun hm f => (k.elsewhere hm f).trans h.entry?_eq_file_iff
  grown := fun f hf => k.grown f (h.kept hf)

theorem addsDirectories_of_enter {t u : FileTree} {here next : Location} {name : String}
    (h : t.enter here name = .ok (next, u)) : AddsDirectories t u := by
  simp only [enter] at h
  cases hstep : t.step here name with
  | error fault => simp [hstep, bind, Except.bind] at h
  | ok l =>
      simp only [hstep, bind, Except.bind] at h
      split at h
      · obtain ⟨-, rfl⟩ : l = next ∧ t = u := by simpa using h
        exact AddsDirectories.refl t
      · simp at h
      · rename_i hentry
        split at h
        · obtain ⟨-, rfl⟩ : l = next ∧ t.put l (.directory Mode.newDirectory) = u := by simpa using h
          exact AddsDirectories.put_directory hentry _
        · simp at h

theorem addsDirectories_makeDirectoriesAt (t : FileTree) (base : Location) (names : List String) :
    AddsDirectories t (t.makeDirectoriesAt base names).2 := by
  induction names generalizing t base with
  | nil => exact AddsDirectories.refl t
  | cons name names ih =>
      rw [makeDirectoriesAt]
      split
      · exact AddsDirectories.refl t
      · rename_i l u henter
        exact (addsDirectories_of_enter henter).trans (ih u l)

theorem addsDirectories_makeDirectories (t : FileTree) (p : Path) :
    AddsDirectories t (t.makeDirectories p).2 :=
  addsDirectories_makeDirectoriesAt t _ _

theorem addsDirectories_makeParents (t : FileTree) (p : Path) :
    AddsDirectories t (t.makeParents p).2 :=
  addsDirectories_makeDirectoriesAt t _ _

end Logbook.FileTree
