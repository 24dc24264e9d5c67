import Mathlib.Data.List.DropRight
import Logbook.Proofs.Search.Sources
import Logbook.Proofs.Search.Tail
import Logbook.Proofs.SessionLog.Shelved

namespace Logbook

theorem SessionId.eq_singleton {ids : List SessionId} {id : SessionId}
    (h : ids.Pairwise fun i j => i.fileName < j.fileName) (hmem : ∀ other, other ∈ ids ↔ other ∈ [id]) :
    ids = [id] := by
  have hnodup : ids.Nodup := by
    apply h.imp
    rintro i j hlt rfl
    exact lt_irrefl _ hlt
  rw [← List.perm_singleton, List.perm_ext_iff_of_nodup hnodup (List.nodup_singleton id)]
  exact hmem

namespace Archive

def userTexts (es : List (String × String)) : List String :=
  es.filterMap fun e => if e.1 = Tag.user then some e.2 else none

theorem userTexts_append (es more : List (String × String)) :
    userTexts (es ++ more) = userTexts es ++ userTexts more :=
  List.filterMap_append

theorem userText?_render {r : Record} (h : r.IsReadable) :
    userText? r.render = if r.tag = Tag.user then some r.text else none := by
  simp [userText?, Record.parse?_render h.1 h.2]

theorem filterMap_userText?_render {rs : List Record} (h : ∀ r ∈ rs, r.IsReadable) :
    (rs.map Record.render).filterMap userText? = userTexts (rs.map Record.entry) := by
  rw [List.filterMap_map, userTexts, List.filterMap_map]
  apply List.filterMap_congr
  intro r hr
  rw [Function.comp_apply, userText?_render (h r hr)]
  rfl

variable {a : Archive} {t : FileTree} {mode : Nat} {id : SessionId} {es : List (String × String)}

theorem recentCommands_eq_rtake {lines : List String} (h : a.lines? t .logs = some lines)
    (limit : Nat) : a.recentCommands t limit = (lines.filterMap userText?).rtake limit := by
  rw [recentCommands, h]
  dsimp only
  rw [Tail.foldl_push_eq, List.rtake]

theorem recentCommands_of_lines {lines : List String} (h : a.lines? t .logs = some lines)
    {limit : Nat} (hlimit : (lines.filterMap userText?).length ≤ limit) :
    a.recentCommands t limit = lines.filterMap userText? := by
  rw [recentCommands_eq_rtake h, List.rtake, Nat.sub_eq_zero_of_le hlimit, List.drop_zero]

theorem exists_sorted_of_shelved {ids : List SessionId}
    {entries : SessionId → List (String × String)} (hfind : t.find a.logDir = .ok (.directory mode))
    (hread : Mode.canRead mode = true) (henter : Mode.canEnter mode = true)
    (h : SessionLog.Shelved t a.logDir (t.resolve a.logDir) ids entries)
    (htext : ∀ id ∈ ids, id.text ≠ "") :
    ∃ (lines : List String) (sorted : List SessionId), a.lines? t .logs = some lines ∧
      lines.filterMap userText? = sorted.flatMap (fun id => userTexts (entries id)) ∧
      (sorted.Pairwise fun i j => i.fileName < j.fileName) ∧ ∀ id, id ∈ sorted ↔ id ∈ ids := by
  obtain ⟨logs, hlisting, hlines⟩ := lines?_logs_of_find hfind hread
  have hid : ∀ log ∈ logs, ∃ id, id ∈ ids ∧ id.fileName = log.1 := by
    rintro ⟨name, f⟩ hlog
    obtain ⟨hname, -, hf⟩ := (hlisting.mem_iff name f).mp hlog
    exact h.others (SessionId.isLogName_iff.mpr hname) hf
  have : Nonempty SessionId := ⟨⟨""⟩⟩
  choose! session hsession using hid
  refine ⟨_, logs.map session, hlines, ?_, ?_, ?_⟩
  · rw [List.filterMap_flatMap, List.flatMap_map]
    apply List.flatMap_congr
    rintro ⟨name, f⟩ hlog
    obtain ⟨hmem, hname⟩ := hsession _ hlog
    obtain ⟨g, rs, hg, hmode, hbytes, hrs, hentries⟩ := h.held _ hmem
    obtain rfl : f = g := by
      have hf := ((hlisting.mem_iff name f).mp hlog).2.2
      rw [hname, hf] at hg
      exact Entry.file.inj (Option.some.inj hg)
    rw [File.readable, if_pos hmode, hbytes, fileLines_flatMap_lineBytes hrs,
      filterMap_userText?_render hrs, hentries]
  · rw [List.pairwise_map]
    refine hlisting.sorted.imp_of_mem fun hb hc hlt => ?_
    rw [(hsession _ hb).2, (hsession _ hc).2]
    exact Utf8.encode_lt_encode_iff.mp hlt
  · intro other
    rw [List.mem_map]
    constructor
    · rintro ⟨log, hlog, rfl⟩
      exact (hsession log hlog).1
    · intro hother
      obtain ⟨f, -, hf, -⟩ := h.held other hother
      have hlog : (other.fileName, f) ∈ logs := by
        rw [hlisting.mem_iff, ← SessionId.isLogName_iff]
        exact ⟨SessionId.isLogName_fileName (htext other hother), henter, hf⟩
      exact ⟨_, hlog, SessionId.fileName_injective (hsession _ hlog).2⟩

theorem exists_lines_of_shelved (hfind : t.find a.logDir = .ok (.directory mode))
    (hread : Mode.canRead mode = true) (henter : Mode.canEnter mode = true)
    (h : SessionLog.Shelved t a.logDir (t.resolve a.logDir) [id] fun _ => es) (htext : id.text ≠ "") :
    ∃ lines, a.lines? t .logs = some lines ∧ lines.filterMap userText? = userTexts es := by
  obtain ⟨lines, sorted, hlines, htexts, hsorted, hmem⟩ :=
    exists_sorted_of_shelved hfind hread henter h (by simpa using htext)
  obtain rfl := SessionId.eq_singleton hsorted hmem
  exact ⟨lines, hlines, by simpa using htexts⟩

theorem recentCommands_of_shelved (hfind : t.find a.logDir = .ok (.directory mode))
    (hread : Mode.canRead mode = true) (henter : Mode.canEnter mode = true)
    (h : SessionLog.Shelved t a.logDir (t.resolve a.logDir) [id] fun _ => es) (htext : id.text ≠ "")
    {limit : Nat} (hlimit : (userTexts es).length ≤ limit) :
    a.recentCommands t limit = userTexts es := by
  obtain ⟨lines, hlines, htexts⟩ := exists_lines_of_shelved hfind hread henter h htext
  rw [← htexts] at hlimit ⊢
  exact recentCommands_of_lines hlines hlimit

end Archive

end Logbook
