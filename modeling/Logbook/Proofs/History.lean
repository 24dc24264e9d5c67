import Logbook.History
import Logbook.Proofs.Files.Standing
import Logbook.Proofs.Text.Cut
import Logbook.Proofs.Text.Encoding
import Logbook.Proofs.Text.Trim

namespace Logbook

namespace History

/-- A line of a history: it is not blank, holds no line feed and ends in no carriage return. -/
structure IsEntry (line : String) : Prop where
  notBlank : Text.allBlank line.toList = false
  lineFeed : '\n' ∉ line.toList
  last : line.toList.getLast? ≠ some '\r'

/-- A line as it is handed to the history: it is not empty, holds no line feed and ends in no blank. -/
structure IsCommand (line : String) : Prop where
  ne_empty : line ≠ ""
  lineFeed : '\n' ∉ line.toList
  last : ∀ c, line.toList.getLast? = some c → Text.isBlank c = false

namespace IsCommand

variable {line : String}

theorem getLast?_ne (h : IsCommand line) {c : Char} (hc : Text.isBlank c = true) :
    line.toList.getLast? ≠ some c := by
  intro hlast
  rw [h.last c hlast] at hc
  exact Bool.false_ne_true hc

theorem isEntry (h : IsCommand line) : IsEntry line := by
  refine ⟨?_, h.lineFeed, h.getLast?_ne (by decide)⟩
  have hne : line.toList ≠ [] := by simpa using h.ne_empty
  obtain ⟨c, hlast⟩ := Option.ne_none_iff_exists'.mp (mt List.getLast?_eq_none_iff.mp hne)
  rw [Text.allBlank, List.all_eq_false]
  exact ⟨c, List.mem_of_getLast? hlast, by simp [h.last c hlast]⟩

theorem entry?_eq (h : IsCommand line) : entry? line = some line := by
  have hends : Text.dropEndWhile (fun c => c == '\r' || c == '\n') line.toList = line.toList := by
    apply Text.dropEndWhile_of_getLast?
    intro c hc
    rw [Bool.or_eq_false_iff, beq_eq_false_iff_ne, beq_eq_false_iff_ne]
    constructor
    · rintro rfl
      exact h.getLast?_ne (by decide) hc
    · rintro rfl
      exact h.getLast?_ne (by decide) hc
  have hmap : (line.toList.map fun c => if c == '\n' then ' ' else c) = line.toList := by
    refine (List.map_congr_left fun c hc => ?_).trans (List.map_id _)
    rw [if_neg]
    · rfl
    · rw [beq_iff_eq]
      rintro rfl
      exact h.lineFeed hc
  simp only [hends, h.isEntry.notBlank, hmap, String.ofList_toList, entry?]
  rfl

end IsCommand

def bytesOf (ls : List String) : List UInt8 :=
  ls.flatMap fun line => Utf8.encode line ++ [10]

theorem bytesOf_concat (ls : List String) (line : String) :
    bytesOf (ls ++ [line]) = bytesOf ls ++ (Utf8.encode line ++ [10]) := by
  simp [bytesOf]

theorem bytesOf_eq (ls : List String) :
    bytesOf ls = ((ls.map String.toList).flatMap (· ++ ['\n'])).flatMap String.utf8EncodeChar := by
  rw [bytesOf, List.flatMap_map, List.flatMap_assoc]
  apply List.flatMap_congr
  intro line _
  rw [List.flatMap_append]
  rfl

theorem entries_of_read {h : History} {t : FileTree} {ls : List String}
    (hread : t.read h.path = .ok (bytesOf ls)) (hls : ∀ line ∈ ls, IsEntry line) :
    h.entries t = ls := by
  have hlines : Text.lines ((ls.map String.toList).flatMap (· ++ ['\n'])) = ls.map String.toList := by
    refine Text.lines_flatMap (fun cs hcs => ?_) fun cs hcs => ?_
    · obtain ⟨line, hline, rfl⟩ := List.mem_map.mp hcs
      exact (hls line hline).lineFeed
    · obtain ⟨line, hline, rfl⟩ := List.mem_map.mp hcs
      exact (hls line hline).last
  have hfilter : (ls.map String.toList).filter (fun cs => !Text.allBlank cs) = ls.map String.toList := by
    rw [List.filter_eq_self]
    intro cs hcs
    obtain ⟨line, hline, rfl⟩ := List.mem_map.mp hcs
    simp [(hls line hline).notBlank]
  simp only [entries, hread]
  rw [bytesOf_eq, Utf8.decodeLossy_flatMap, String.toList_ofList, hlines, hfilter, List.map_map]
  exact List.map_id'' (fun line => String.ofList_toList) ls

theorem entries_of_find {h : History} {t : FileTree} {fault : FileFault}
    (hfind : t.find h.path = .error fault) : h.entries t = [] := by
  simp [entries, FileTree.read, hfind, bind, Except.bind]

theorem append_of_entry? {h : History} {command entry : String} (hentry : entry? command = some entry)
    {t u : FileTree} (hparents : t.makeParents h.path = (.ok (), u)) (hwrite : u.CanWrite h.path) :
    ∃ l, u.locate h.path = .ok l ∧
      FileTree.Appended u (h.append command t) l (Utf8.encode entry ++ [10]) := by
  obtain ⟨v, hv⟩ := FileTree.append_of_canWrite hwrite (Utf8.encode entry ++ [10])
  obtain ⟨l, hl, happended⟩ := FileTree.appended_of_append hv
  refine ⟨l, hl, ?_⟩
  simp only [append, hentry, hparents, Utf8.encode_append, Utf8.encode_lineFeed, hv, FileTree.orKeep]
  exact happended

end History

/-- The history holds some commands: a file that can be read and written, or nothing before the first
command. -/
def HoldsCommands (t : FileTree) (p : Path) (ls : List String) : Prop :=
  ls = [] ∧ t.entry? (t.resolve p) = none ∨
    t.Writable p (t.resolve p) ∧ t.read p = .ok (History.bytesOf ls)

def HistoryCanStart (t : FileTree) (p : Path) : Prop :=
  ∃ u, t.makeParents p = (.ok (), u) ∧ u.CanWrite p

instance (t : FileTree) (p : Path) : Decidable (HistoryCanStart t p) :=
  match h : t.makeParents p with
  | (.ok (), u) => decidable_of_iff (u.CanWrite p) (by simp [HistoryCanStart, h])
  | (.error _, _) => isFalse fun ⟨_, hparents, _⟩ => by simp [h] at hparents

theorem HoldsCommands.exists_way {t : FileTree} {p : Path} {ls : List String}
    (h : HoldsCommands t p ls) (hstart : ls = [] → HistoryCanStart t p) :
    ∃ u, t.makeParents p = (.ok (), u) ∧ FileTree.AddsDirectories t u ∧ u.CanWrite p ∧
      HoldsCommands u p ls := by
  have hheld := h
  rcases h with ⟨hnil, hnone⟩ | ⟨hwritable, hread⟩
  · obtain ⟨u, hparents, hwrite⟩ := hstart hnil
    have hadds := FileTree.addsDirectories_makeParents t p
    rw [hparents] at hadds
    refine ⟨u, hparents, hadds, hwrite, Or.inl ⟨hnil, ?_⟩⟩
    obtain ⟨l, f, v, hcreate⟩ := hwrite
    obtain ⟨hlocate, ⟨-, hentry, -⟩ | ⟨hentry, -⟩⟩ := FileTree.of_create_eq_ok hcreate
    · rw [← FileTree.resolve_of_locate hlocate, hadds.keepsDirectories.resolve,
        hadds.entry?_eq_file_iff, hnone] at hentry
      simp at hentry
    · rwa [FileTree.resolve_of_locate hlocate]
  · exact ⟨t, FileTree.makeParents_of_locate hwritable.1, FileTree.AddsDirectories.refl t,
      hwritable.canWrite, hheld⟩

theorem HoldsCommands.append {t u : FileTree} {p : Path} {ls : List String}
    (h : HoldsCommands t p ls) (hwrite : t.CanWrite p) (hlocate : t.locate p = .ok (t.resolve p))
    {line : String} (hu : FileTree.Appended t u (t.resolve p) (Utf8.encode line ++ [10])) :
    HoldsCommands u p (ls ++ [line]) := by
  rw [HoldsCommands, hu.keepsDirectories.resolve, History.bytesOf_concat]
  refine Or.inr ⟨hwrite.writable hlocate hu, ?_⟩
  rcases h with ⟨rfl, hnone⟩ | ⟨-, hread⟩
  · exact hu.read_of_none hlocate (by simp [hnone])
  · exact hu.read hlocate hread

theorem HoldsCommands.of_appended {t u : FileTree} {p : Path} {ls : List String}
    (h : HoldsCommands t p ls) {l : Location} {bytes : List UInt8}
    (hu : FileTree.Appended t u l bytes) (hne : t.resolve p ≠ l) : HoldsCommands u p ls := by
  rw [HoldsCommands, hu.keepsDirectories.resolve, hu.elsewhere hne]
  rcases h with hnone | ⟨hwritable, hread⟩
  · exact Or.inl hnone
  · exact Or.inr ⟨hwritable.of_appended hu, hu.read_of_ne hread hne⟩

theorem HoldsCommands.of_find_eq {t u : FileTree} {p : Path} {ls : List String}
    (h : HoldsCommands t p ls) (hne : ls ≠ []) (hu : u.find p = t.find p) :
    HoldsCommands u p ls := by
  rcases h with ⟨hnil, -⟩ | ⟨⟨-, f, hentry, hwrite⟩, hread⟩
  · exact absurd hnil hne
  · obtain ⟨g, hg, hmode, hbytes⟩ := FileTree.read_eq_ok_iff.mp hread
    obtain rfl : f = g := by
      have hsame := hentry.symm.trans (FileTree.entry?_of_find hg)
      simpa using hsame
    rw [← hu] at hg
    refine Or.inr ⟨⟨?_, f, ?_, hwrite⟩, FileTree.read_eq_ok_iff.mpr ⟨f, hg, hmode, hbytes⟩⟩
    · exact FileTree.locate_of_find hg
    · exact FileTree.entry?_of_find hg

end Logbook
