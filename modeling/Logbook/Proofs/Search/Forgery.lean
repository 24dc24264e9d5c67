import Logbook.Proofs.Files.Alike
import Logbook.Proofs.Search.Recent
import Logbook.Proofs.SessionLog.Growth
import Logbook.Proofs.SessionLog.Shelf

/-!
Texts that are logged under other tags than the user's forge no command. Two runs of session logs that
differ only in such texts leave the same commands in the logs, whatever the texts hold.
-/

namespace Logbook

open SessionLog (lineBytes)
open Archive (userTexts userText?)

/-- Two files of records hold the same commands. -/
def SameCommands (bytes more : List UInt8) : Prop :=
  ∃ rs ss : List Record, bytes = rs.flatMap lineBytes ∧ more = ss.flatMap lineBytes ∧
    (∀ r ∈ rs, r.IsReadable) ∧ (∀ r ∈ ss, r.IsReadable) ∧
    userTexts (rs.map Record.entry) = userTexts (ss.map Record.entry)

namespace SameCommands

theorem nil : SameCommands [] [] :=
  ⟨[], [], rfl, rfl, by simp, by simp, rfl⟩

theorem append {bytes more : List UInt8} (h : SameCommands bytes more) {r s : Record}
    (hr : r.IsReadable) (hs : s.IsReadable) (htexts : userTexts [r.entry] = userTexts [s.entry]) :
    SameCommands (bytes ++ lineBytes r) (more ++ lineBytes s) := by
  obtain ⟨rs, ss, rfl, rfl, hrs, hss, hsame⟩ := h
  refine ⟨rs ++ [r], ss ++ [s], by simp, by simp, ?_, ?_, ?_⟩
  · simpa [or_imp, forall_and, hr] using hrs
  · simpa [or_imp, forall_and, hs] using hss
  · rw [List.map_append, List.map_append, Archive.userTexts_append, Archive.userTexts_append, hsame]
    exact congrArg _ htexts

theorem filterMap_userText? {bytes more : List UInt8} (h : SameCommands bytes more) :
    (fileLines bytes).filterMap userText? = (fileLines more).filterMap userText? := by
  obtain ⟨rs, ss, rfl, rfl, hrs, hss, hsame⟩ := h
  rw [fileLines_flatMap_lineBytes hrs, fileLines_flatMap_lineBytes hss,
    Archive.filterMap_userText?_render hrs, Archive.filterMap_userText?_render hss, hsame]

end SameCommands

/-- Two files at a location hold the same commands, or they are the same and not among the logs of a
directory. -/
def SameAt (here l : Location) (bytes more : List UInt8) : Prop :=
  SameCommands bytes more ∨
    bytes = more ∧ ∀ name, SessionId.isLogName name = true → l ≠ here ++ [name]

theorem SameAt.filterMap_userText? {here l : Location} {bytes more : List UInt8}
    (h : SameAt here l bytes more) :
    (fileLines bytes).filterMap userText? = (fileLines more).filterMap userText? := by
  rcases h with h | ⟨rfl, -⟩
  · exact h.filterMap_userText?
  · rfl

theorem IsLogListing.exists_other {P : Location → List UInt8 → List UInt8 → Prop} {t u : FileTree}
    (h : FileTree.Alike P t u) {here : Location} {mode : Nat} {logs : List (String × File)}
    (hlogs : IsLogListing t here mode logs) :
    ∃ other : String × File → File,
      IsLogListing u here mode (logs.map fun log => (log.1, other log)) ∧
      ∀ log ∈ logs, log.2.mode = (other log).mode ∧
        P (here ++ [log.1]) log.2.bytes (other log).bytes := by
  have hfile : ∀ log ∈ logs, ∃ g, u.entry? (here ++ [log.1]) = some (.file g) ∧
      log.2.mode = g.mode ∧ P (here ++ [log.1]) log.2.bytes g.bytes := by
    rintro ⟨name, f⟩ hlog
    exact h.exists_file_right ((hlogs.mem_iff name f).mp hlog).2.2
  have : Nonempty File := ⟨t.newFile⟩
  choose! other hother using hfile
  refine ⟨other, ⟨?_, ?_⟩, fun log hlog => (hother log hlog).2⟩
  · rw [List.pairwise_map]
    exact hlogs.sorted
  · intro name g
    rw [List.mem_map]
    constructor
    · rintro ⟨log, hlog, heq⟩
      obtain ⟨rfl, rfl⟩ := Prod.mk.inj heq
      obtain ⟨hname, henter, -⟩ := (hlogs.mem_iff _ _).mp hlog
      exact ⟨hname, henter, (hother log hlog).1⟩
    · rintro ⟨hname, henter, hg⟩
      obtain ⟨f, hf⟩ := h.exists_file_left hg
      have hlog := (hlogs.mem_iff name f).mpr ⟨hname, henter, hf⟩
      have hsame : other (name, f) = g := by simpa [hg] using (hother _ hlog).1.symm
      exact ⟨(name, f), hlog, by rw [hsame]⟩

theorem Archive.recentCommands_of_alike {P : Location → List UInt8 → List UInt8 → Prop}
    {t u : FileTree} (h : FileTree.Alike P t u)
    (hP : ∀ l bytes more, P l bytes more →
      (fileLines bytes).filterMap userText? = (fileLines more).filterMap userText?)
    (a : Archive) (limit : Nat) : a.recentCommands t limit = a.recentCommands u limit := by
  by_cases hsource : a.HasSource t .logs
  · obtain ⟨mode, hfind, hread⟩ := hsource
    obtain ⟨logs, hlogs, hlines⟩ := lines?_logs_of_find hfind hread
    obtain ⟨others, hothers, hlines'⟩ :=
      lines?_logs_of_find (h.find_eq_directory_iff.mpr hfind) hread
    obtain ⟨other, hlisting, hsame⟩ := hlogs.exists_other h
    rw [h.resolve_eq] at hothers
    obtain rfl := hothers.unique hlisting
    rw [recentCommands_eq_rtake hlines, recentCommands_eq_rtake hlines', List.flatMap_map,
      List.filterMap_flatMap, List.filterMap_flatMap]
    congr 1
    apply List.flatMap_congr
    intro log hlog
    obtain ⟨hmode, hbytes⟩ := hsame log hlog
    dsimp only [File.readable]
    rw [hmode]
    split
    · exact hP _ _ _ hbytes
    · rfl
  · have hother : ¬a.HasSource u .logs := by
      rintro ⟨mode, hfind, hread⟩
      exact hsource ⟨mode, h.find_eq_directory_iff.mp hfind, hread⟩
    simp only [recentCommands, lines?_logs_eq_none hsource, lines?_logs_eq_none hother]

namespace LogAction

/-- An action at a plain time, with a tag that can be read back. -/
def IsPlain : LogAction → Prop
  | start _ now | close _ now | drop _ now => now.HasPlainYear
  | append _ now tag _ => now.HasPlainYear ∧ Record.validTag tag = true

instance : DecidablePred IsPlain
  | start _ now | close _ now | drop _ now => inferInstanceAs (Decidable now.HasPlainYear)
  | append _ now _ _ => inferInstanceAs (Decidable (now.HasPlainYear ∧ _ = true))

/-- Two actions are the same, or they add two texts under one tag that is not the user's. -/
inductive SameButAside : LogAction → LogAction → Prop where
  | refl (a : LogAction) : SameButAside a a
  | append (k : Nat) (now : Instant) {tag : String} (text other : String) :
      tag ≠ Tag.user → SameButAside (append k now tag text) (append k now tag other)

end LogAction

/-- Records are added to the same log in two trees: the same one, or two of which none is a command. -/
theorem SessionLog.alike_append {log : SessionLog} {t u : FileTree} {here : Location}
    (hplace : t.resolve log.dir = here) (hname : Path.IsFileName log.id.fileName)
    (hlog : SessionId.isLogName log.id.fileName = true) {now : Instant} {tag text other : String}
    (hr : Record.IsReadable ⟨now, tag, text⟩) (htexts : text = other ∨ tag ≠ Tag.user)
    (h : FileTree.Alike (SameAt here) t u) :
    FileTree.Alike (SameAt here) (log.append now tag text t) (log.append now tag other u) := by
  rw [append, append]
  apply h.orKeep
  apply h.append
  · exact fun l => Or.inl SameCommands.nil
  · intro l old old' hl hold
    obtain rfl : here ++ [log.id.fileName] = l := by
      rw [← FileTree.resolve_of_locate hl, path, SessionId.path, FileTree.resolve_join _ _ hname, hplace]
    rcases hold with hold | ⟨-, hnot⟩
    · refine Or.inl (hold.append hr ⟨hr.1, hr.2⟩ ?_)
      rcases htexts with rfl | htag
      · rfl
      · simp [userTexts, Record.entry, htag]
    · exact absurd rfl (hnot _ hlog)

namespace Shelf

open LogAction

/-- Two shelves with the same logs, whose files hold the same commands. -/
structure Alike (here : Location) (s r : Shelf) : Prop where
  dir : r.dir = s.dir
  logs : r.logs = s.logs
  place : s.tree.resolve s.dir = here
  named : ∀ log ∈ s.logs, log.dir = s.dir ∧ ∃ session, log.id = SessionId.ofInstant session
  tree : FileTree.Alike (SameAt here) s.tree r.tree

namespace Alike

variable {here : Location} {s r : Shelf}

theorem append_log (h : Alike here s r) {log : SessionLog} (hdir : log.dir = s.dir)
    {session : Instant} (hid : log.id = SessionId.ofInstant session) {now : Instant}
    {tag text other : String} (hr : Record.IsReadable ⟨now, tag, text⟩)
    (htexts : text = other ∨ tag ≠ Tag.user) :
    FileTree.Alike (SameAt here) (log.append now tag text s.tree) (log.append now tag other r.tree) := by
  apply SessionLog.alike_append _ _ _ hr htexts h.tree
  · rw [hdir, h.place]
  · rw [hid]
    exact SessionId.isFileName_ofInstant session
  · rw [hid]
    exact SessionId.isLogName_fileName (SessionId.text_ofInstant_ne_empty session)

theorem start (h : Alike here s r) (session : Instant) {now : Instant} (hnow : now.HasPlainYear) :
    Alike here (s.act (.start session now)) (r.act (.start session now)) := by
  have hdirs := FileTree.addsDirectories_makeDirectories s.tree s.dir
  rw [act_start, act_start]
  refine ⟨h.dir, ?_, ?_, ?_, ?_⟩
  · rw [h.logs, h.dir]
  · dsimp only
    rw [FileTree.resolve_of_workingDirectory (FileTree.workingDirectory_append _ _ _ _ _),
      hdirs.keepsDirectories.resolve, h.place]
  · intro log hlog
    rcases List.mem_append.mp hlog with hlog | hlog
    · exact h.named log hlog
    · obtain rfl := List.mem_singleton.mp hlog
      exact ⟨rfl, session, rfl⟩
  · dsimp only
    rw [h.dir]
    apply SessionLog.alike_append _ _ _ (Record.isReadable_session hnow "start") (Or.inl rfl)
    · exact h.tree.makeDirectories s.dir
    · rw [hdirs.keepsDirectories.resolve, h.place]
    · exact SessionId.isFileName_ofInstant session
    · exact SessionId.isLogName_fileName (SessionId.text_ofInstant_ne_empty session)

theorem append (h : Alike here s r) {k : Nat} {now : Instant} {tag text other : String}
    (hr : Record.IsReadable ⟨now, tag, text⟩) (htexts : text = other ∨ tag ≠ Tag.user) :
    Alike here (s.act (.append k now tag text)) (r.act (.append k now tag other)) := by
  rw [act, act, h.logs]
  cases hk : s.logs[k]? with
  | none => exact h
  | some log =>
      obtain ⟨hdir, session, hid⟩ := h.named log (List.mem_of_getElem? hk)
      refine ⟨h.dir, rfl, ?_, h.named, h.append_log hdir hid hr htexts⟩
      dsimp only
      rw [FileTree.resolve_of_workingDirectory (FileTree.workingDirectory_append _ _ _ _ _), h.place]

theorem finish (h : Alike here s r) (k : Nat) {now : Instant} (hnow : now.HasPlainYear) :
    Alike here (s.finish k now) (r.finish k now) := by
  cases hk : s.logs[k]? with
  | none =>
      rw [Shelf.finish, Shelf.finish, h.logs, hk]
      exact h
  | some log =>
      obtain ⟨hdir, session, hid⟩ := h.named log (List.mem_of_getElem? hk)
      have hk' : r.logs[k]? = some log := by rw [h.logs, hk]
      rw [finish_eq hk, finish_eq hk']
      have hnamed : ∀ other ∈ s.logs.set k { log with ended := true },
          other.dir = s.dir ∧ ∃ session, other.id = SessionId.ofInstant session := by
        intro other hother
        rcases List.mem_or_eq_of_mem_set hother with hother | rfl
        · exact h.named other hother
        · exact ⟨hdir, session, hid⟩
      cases hended : log.ended with
      | true =>
          rw [SessionLog.finish_of_ended hended, SessionLog.finish_of_ended hended]
          exact ⟨h.dir, by rw [h.logs], h.place, hnamed, h.tree⟩
      | false =>
          rw [SessionLog.finish_of_not_ended hended, SessionLog.finish_of_not_ended hended]
          refine ⟨h.dir, by rw [h.logs], ?_, hnamed, ?_⟩
          · dsimp only
            rw [FileTree.resolve_of_workingDirectory (FileTree.workingDirectory_append _ _ _ _ _),
              h.place]
          · exact h.append_log hdir hid (Record.isReadable_session hnow "end") (Or.inl rfl)

/-- One action, or two that differ in a text that is not the user's, leave the shelves alike. -/
theorem act (h : Alike here s r) {a b : LogAction} (ha : a.IsPlain) (hab : SameButAside a b) :
    Alike here (s.act a) (r.act b) := by
  cases hab with
  | append k now text other htag => exact h.append ha (Or.inr htag)
  | refl =>
      cases a with
      | start session now => exact h.start session ha
      | append k now tag text => exact h.append ha (Or.inl rfl)
      | close k now => exact (h.finish k ha).finish k ha
      | drop k now => exact h.finish k ha

theorem run {as bs : List LogAction} (h : Alike here s r) (has : ∀ a ∈ as, a.IsPlain)
    (hab : List.Forall₂ SameButAside as bs) : Alike here (s.run as) (r.run bs) := by
  induction hab generalizing s r with
  | nil => exact h
  | cons hab _ ih =>
      rw [List.forall_mem_cons] at has
      exact ih (h.act has.1 hab) has.2

end Alike

theorem IsFresh.alike {s : Shelf} (h : s.IsFresh) : Alike (s.tree.resolve s.dir) s s where
  dir := rfl
  logs := rfl
  place := rfl
  named := by simp [h.logs]
  tree := by
    refine ⟨rfl, fun l => ?_⟩
    by_cases hlog : ∃ name, SessionId.isLogName name = true ∧ l = s.tree.resolve s.dir ++ [name]
    · obtain ⟨name, hname, rfl⟩ := hlog
      cases hentry : s.tree.entry? (s.tree.resolve s.dir ++ [name]) with
      | none => exact FileTree.SameEntry.none
      | some e =>
          cases e with
          | file f => exact absurd hentry (h.files hname)
          | directory mode => exact FileTree.SameEntry.directory mode
    · apply FileTree.SameEntry.refl
      intro bytes
      exact Or.inr ⟨rfl, fun name hname hl => hlog ⟨name, hname, hl⟩⟩

/-- Texts under other tags than the user's add no command, hide none and change none: two runs that differ
only in such texts leave the same commands. These are what the user has typed, by the ledger of the
sessions in the order of their names, if all writes succeed and the directory can be listed. -/
theorem asides_forge_no_command (a : Archive) (s : Shelf) (as bs : List LogAction) (h : s.IsFresh)
    (has : ∀ b ∈ as, b.IsPlain) (hab : List.Forall₂ SameButAside as bs) :
    (∀ limit, a.recentCommands (s.run as).tree limit = a.recentCommands (s.run bs).tree limit) ∧
      a.lastCommand? (s.run as).tree = a.lastCommand? (s.run bs).tree ∧
      ∀ mode, (s.run as).tree.find a.logDir = .ok (.directory mode) → Mode.canRead mode = true →
        Mode.canEnter mode = true → a.logDir = s.dir → s.Admissible as →
        ∃ ids : List SessionId, (ids.Pairwise fun i j => i.fileName < j.fileName) ∧
          (∀ id, id ∈ ids ↔ id ∈ sessions as) ∧
          ∀ limit, a.recentCommands (s.run as).tree limit =
            (ids.flatMap fun id => userTexts (writtenTo id as)).rtake limit := by
  have hsame : ∀ limit,
      a.recentCommands (s.run as).tree limit = a.recentCommands (s.run bs).tree limit := by
    have halike := h.alike.run has hab
    exact Archive.recentCommands_of_alike halike.tree (fun _ _ _ => SameAt.filterMap_userText?) a
  refine ⟨hsame, ?_, ?_⟩
  · rw [Archive.lastCommand?, Archive.lastCommand?, hsame]
  · intro mode hfind hread henter hdir hadmissible
    obtain ⟨hkept, hagrees⟩ := agrees_run h hadmissible
    have hshelved := hagrees.shelved
    rw [← hshelved.place, hkept, ← hdir] at hshelved
    have htext : ∀ id ∈ sessions as, id.text ≠ "" := by
      intro id hid
      obtain ⟨session, -, -, rfl⟩ := exists_of_mem_sessions hid
      exact SessionId.text_ofInstant_ne_empty session
    obtain ⟨lines, ids, hlines, htexts, hsorted, hmem⟩ :=
      Archive.exists_sorted_of_shelved hfind hread henter hshelved htext
    refine ⟨ids, hsorted, hmem, fun limit => ?_⟩
    rw [Archive.recentCommands_eq_rtake hlines, htexts]

/-- Two sessions of one second with a question to a persona and an answer. -/
def talk (question answer : String) : List LogAction :=
  [.start Record.leapSecond Record.leapSecond, .append 0 Record.leapSecond Tag.user "/dive a",
    .append 0 Record.leapSecond "johny_user" question, .append 0 Record.leapSecond "johny" answer,
    .close 0 Record.leapSecond, .start Record.leapSecond Record.leapSecond,
    .append 1 Record.leapSecond Tag.user "b", .drop 1 Record.leapSecond]

theorem talk_sessions (question answer : String) :
    sessions (talk question answer) =
      [SessionId.ofInstant Record.leapSecond, SessionId.ofInstant Record.leapSecond] :=
  rfl

theorem talk_sameButAside (question answer other reply : String) :
    List.Forall₂ SameButAside (talk question answer) (talk other reply) := by
  have hquestion : "johny_user" ≠ Tag.user := by decide
  have hanswer : "johny" ≠ Tag.user := by decide
  exact .cons (.refl _) <| .cons (.refl _) <| .cons (.append _ _ _ _ hquestion) <|
    .cons (.append _ _ _ _ hanswer) <| List.forall₂_same.mpr fun a _ => .refl a

theorem talk_forges_no_command :
    let archive : Archive := { logDir := newShelf.dir, historyFile := ⟨"/history"⟩ }
    let forged := talk "2017-01-01T00:00:00Z user:c" "\r\n2017-01-01T00:00:00Z user:d\\n\n"
    newShelf.IsFresh ∧ (∀ b ∈ talk "" "", b.IsPlain) ∧
      List.Forall₂ SameButAside (talk "" "") forged ∧ newShelf.Admissible (talk "" "") ∧
      ∀ limit, archive.recentCommands (newShelf.run forged).tree limit = ["/dive a", "b"].rtake limit := by
  intro archive forged
  have hplain : ∀ b ∈ talk "" "", b.IsPlain := by decide +kernel
  have hsame := talk_sameButAside "" "" "2017-01-01T00:00:00Z user:c"
    "\r\n2017-01-01T00:00:00Z user:d\\n\n"
  have hadmissible : newShelf.Admissible (talk "" "") := by decide +kernel
  obtain ⟨hrecent, -, htyped⟩ := asides_forge_no_command archive newShelf (talk "" "") forged
    newShelf_isFresh hplain hsame
  obtain ⟨ids, hsorted, hmem, hcommands⟩ :=
    htyped Mode.newDirectory (by decide +kernel) rfl rfl rfl hadmissible
  obtain rfl : ids = [SessionId.ofInstant Record.leapSecond] := by
    apply SessionId.eq_singleton hsorted
    intro id
    rw [hmem, talk_sessions]
    simp
  have htexts : userTexts (writtenTo (SessionId.ofInstant Record.leapSecond) (talk "" "")) =
      ["/dive a", "b"] := by
    decide +kernel
  refine ⟨newShelf_isFresh, hplain, hsame, hadmissible, fun limit => ?_⟩
  rw [← hrecent, hcommands, List.flatMap_singleton, htexts]

end Shelf

end Logbook
