import Mathlib.Data.List.Sort
import Mathlib.Data.String.Basic
import Logbook.Proofs.Files.Listing
import Logbook.Proofs.SessionLog.Name
import Logbook.Proofs.Time.Order
import Logbook.SessionLog

namespace Logbook

namespace SessionFile

/-- Whether a log stands before another one in a listing: it is newer, or as new and has the greater
name. -/
def Precedes (f g : SessionFile) : Prop :=
  g.modified.isBefore f.modified = true ∨ f.modified = g.modified ∧ g.name < f.name

instance (f g : SessionFile) : Decidable (f.Precedes g) :=
  inferInstanceAs (Decidable (_ ∨ _ ∧ _))

def ofFile (name : String) (f : File) : SessionFile :=
  { name, size := f.bytes.length, modified := f.modified }

variable {f g h : SessionFile}

theorem comesFirst_iff :
    f.comesFirst g = true ↔ f.Precedes g ∨ f.modified = g.modified ∧ f.name = g.name := by
  simp only [comesFirst, Precedes, Bool.or_eq_true, Bool.and_eq_true, beq_iff_eq, decide_eq_true_eq]
  rw [or_assoc, ← and_or_left, le_iff_lt_or_eq, eq_comm (a := g.name)]

theorem Precedes.trans (hfg : f.Precedes g) (hgh : g.Precedes h) : f.Precedes h := by
  rcases hfg with hfg | ⟨hfg, hname⟩
  · rcases hgh with hgh | ⟨hgh, -⟩
    · exact Or.inl (Instant.isBefore_trans hgh hfg)
    · exact Or.inl (hgh ▸ hfg)
  · rcases hgh with hgh | ⟨hgh, hname'⟩
    · exact Or.inl (hfg ▸ hgh)
    · exact Or.inr ⟨hfg.trans hgh, hname'.trans hname⟩

theorem Precedes.irrefl (f : SessionFile) : ¬f.Precedes f := by
  rintro (hbefore | ⟨-, hlt⟩)
  · exact Instant.not_isBefore_self _ hbefore
  · exact lt_irrefl _ hlt

theorem comesFirst_trans (hfg : f.comesFirst g = true) (hgh : g.comesFirst h = true) :
    f.comesFirst h = true := by
  rw [comesFirst_iff] at *
  rcases hfg with hfg | ⟨hfg, hname⟩
  · rcases hgh with hgh | ⟨hgh, hname'⟩
    · exact Or.inl (hfg.trans hgh)
    · left
      simpa only [Precedes, hgh, hname'] using hfg
  · rcases hgh with hgh | ⟨hgh, hname'⟩
    · left
      simpa only [Precedes, hfg, hname] using hgh
    · exact Or.inr ⟨hfg.trans hgh, hname.trans hname'⟩

theorem comesFirst_total (f g : SessionFile) : (f.comesFirst g || g.comesFirst f) = true := by
  simp only [Bool.or_eq_true, comesFirst_iff, Precedes]
  rcases Instant.isBefore_or_eq f.modified g.modified with hbefore | heq | hbefore
  · exact Or.inr (Or.inl (Or.inl hbefore))
  · rcases lt_trichotomy f.name g.name with hlt | hname | hlt
    · exact Or.inr (Or.inl (Or.inr ⟨heq.symm, hlt⟩))
    · exact Or.inl (Or.inr ⟨heq, hname⟩)
    · exact Or.inl (Or.inl (Or.inr ⟨heq, hlt⟩))
  · exact Or.inl (Or.inl (Or.inl hbefore))

end SessionFile

/-- The session logs that stand in a directory, each of them once, the newest first. -/
structure IsNewestFirst (t : FileTree) (here : Location) (listing : List SessionFile) : Prop where
  sorted : listing.Pairwise SessionFile.Precedes
  mem_iff : ∀ s, s ∈ listing ↔ SessionId.isLogName s.name = true ∧
    ∃ f, t.entry? (here ++ [s.name]) = some (.file f) ∧ s = .ofFile s.name f

namespace IsNewestFirst

variable {t : FileTree} {here : Location} {listing others : List SessionFile}

theorem congr (h : IsNewestFirst t here listing) {u : FileTree}
    (hu : ∀ l, u.entry? l = t.entry? l) : IsNewestFirst u here listing where
  sorted := h.sorted
  mem_iff := fun s => by rw [hu, h.mem_iff]

theorem nodup (h : IsNewestFirst t here listing) : listing.Nodup := by
  refine h.sorted.imp ?_
  rintro s _ hlt rfl
  exact SessionFile.Precedes.irrefl s hlt

theorem unique (h : IsNewestFirst t here listing) (k : IsNewestFirst t here others) :
    listing = others := by
  have hperm : listing.Perm others := by
    rw [List.perm_ext_iff_of_nodup h.nodup k.nodup]
    intro s
    rw [h.mem_iff, k.mem_iff]
  refine List.Perm.eq_of_pairwise ?_ h.sorted k.sorted hperm
  intro a b _ _ hab hba
  exact absurd (hab.trans hba) (SessionFile.Precedes.irrefl a)

theorem eq_of_name_eq (h : IsNewestFirst t here listing) {s s' : SessionFile} (hs : s ∈ listing)
    (hs' : s' ∈ listing) (hname : s.name = s'.name) : s = s' := by
  obtain ⟨-, f, hf, heq⟩ := (h.mem_iff s).mp hs
  obtain ⟨-, g, hg, heq'⟩ := (h.mem_iff s').mp hs'
  rw [hname, hg] at hf
  obtain rfl : g = f := by simpa using hf
  rw [heq, heq', hname]

theorem nodup_names (h : IsNewestFirst t here listing) :
    (listing.map SessionFile.name).Nodup :=
  h.nodup.map_on fun _ hs _ hs' => h.eq_of_name_eq hs hs'

theorem mem_take_iff (h : IsNewestFirst t here listing) {k : Nat} {name : String} :
    name ∈ (listing.take k).map SessionFile.name ↔
      name ∈ listing.map SessionFile.name ∧ name ∉ (listing.drop k).map SessionFile.name := by
  have hsplit : (listing.take k).map SessionFile.name ++ (listing.drop k).map SessionFile.name =
      listing.map SessionFile.name := by
    rw [← List.map_append, List.take_append_drop]
  have hdisjoint := List.disjoint_of_nodup_append (hsplit ▸ h.nodup_names)
  rw [← hsplit, List.mem_append]
  constructor
  · exact fun htake => ⟨Or.inl htake, fun hdrop => hdisjoint htake hdrop⟩
  · rintro ⟨htake | hdrop, hnot⟩
    · exact htake
    · exact absurd hdrop hnot

end IsNewestFirst

theorem SessionFile.exists_list {t : FileTree} {dir : Path} {mode : Nat}
    (h : t.find dir = .ok (.directory mode)) (hread : Mode.canRead mode = true)
    (henter : Mode.canEnter mode = true) :
    ∃ listing, SessionFile.list dir t = .ok listing ∧ IsNewestFirst t (t.resolve dir) listing := by
  let logs := ((t.entries.filterMap (FileTree.child? (t.resolve dir))).filter
    fun e => SessionId.isLogName e.1).map fun e => SessionFile.ofFile e.1 e.2
  have hlist : SessionFile.list dir t = .ok (logs.mergeSort comesFirst) := by
    have hfiles := FileTree.files_of_find h
    rw [hread, henter] at hfiles
    have hcontains : t.contains dir = true := by simp [FileTree.contains, h]
    simp only [list, hcontains, hfiles, Bool.not_true, Bool.false_eq_true, if_false, bind,
      Except.bind, pure, Except.pure]
    rfl
  have hmem : ∀ s, s ∈ logs ↔ SessionId.isLogName s.name = true ∧
      ∃ f, t.entry? (t.resolve dir ++ [s.name]) = some (.file f) ∧ s = .ofFile s.name f := by
    intro s
    simp only [logs, List.mem_map, List.mem_filter, Prod.exists, FileTree.mem_filterMap_child?_iff]
    constructor
    · rintro ⟨name, f, ⟨hf, hname⟩, rfl⟩
      exact ⟨hname, f, hf, rfl⟩
    · rintro ⟨hname, f, hf, heq⟩
      exact ⟨s.name, f, ⟨hf, hname⟩, heq.symm⟩
  refine ⟨_, hlist, ?_, fun s => List.mem_mergeSort.trans (hmem s)⟩
  have hsorted : (logs.mergeSort comesFirst).Pairwise fun f g => f.comesFirst g = true :=
    @List.pairwise_mergeSort _ comesFirst (fun _ _ _ => comesFirst_trans) comesFirst_total logs
  have hnames : (logs.mergeSort comesFirst).Pairwise fun f g => f.name ≠ g.name := by
    refine ((List.mergeSort_perm logs comesFirst).pairwise_iff fun hab => hab.symm).mpr ?_
    exact List.pairwise_map.mpr ((FileTree.pairwise_filterMap_child? _).filter _)
  refine (hsorted.and hnames).imp ?_
  rintro f g ⟨hfirst, hne⟩
  exact (comesFirst_iff.mp hfirst).resolve_right fun hsame => hne hsame.2

end Logbook
