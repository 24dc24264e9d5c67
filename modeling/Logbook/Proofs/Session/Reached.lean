import Logbook.Proofs.Session.Turns

namespace Logbook.Program

open Session (SparesLog LeadsTo)

variable {S : Surroundings} {c : CommandLine} {s : Settings} {t u : FileTree} {session : Session}

def ownLog (S : Surroundings) (s : Settings) : SessionLog :=
  { id := SessionId.ofInstant (S.clock 0), dir := s.logDir }

/-- The sessions that a call leads to: the one that it opens, if the log can be written, and what becomes
of it line by line, as long as no shell command touches the log. -/
inductive Reached (S : Surroundings) (c : CommandLine) (s : Settings) (t : FileTree) :
    Session → Prop where
  | opened {session : Session} {u : FileTree} :
      openSession S c s t = (.ok session, u) → u.CanWrite session.log.path → Reached S c s t session
  | handled {session : Session} (raw : String) :
      Reached S c s t session →
      SparesLog S (ownLog S s).path (String.ofList (Text.trim raw.toList)) →
      Reached S c s t (session.handle Builtin.registry S c.persona raw).2
  | printed {session : Session} (lines : List String) :
      Reached S c s t session → Reached S c s t (session.print lines)

theorem Reached.showAnswer (h : Reached S c s t session) (a : Answer) :
    Reached S c s t (session.showAnswer a) := by
  rw [Session.showAnswer]
  split
  · exact h
  · exact h.printed _

theorem Reached.runLines (h : Reached S c s t session) {raws : List String}
    (hspares : ∀ raw ∈ raws, SparesLog S (ownLog S s).path (String.ofList (Text.trim raw.toList))) :
    Reached S c s t (session.runLines Builtin.registry S c.persona raws) := by
  induction raws generalizing session with
  | nil => exact h
  | cons raw raws ih =>
      rw [List.forall_mem_cons] at hspares
      have hnext := h.handled raw hspares.1
      rw [Session.runLines]
      split
      all_goals
        rename_i hhandle
        rw [hhandle] at hnext
      · exact ih hnext hspares.2
      · exact hnext
      · exact ih (hnext.showAnswer _) hspares.2

theorem Reached.runKeys (h : Reached S c s t session)
    (hspares : ∀ line, SparesLog S (ownLog S s).path line) (keys : List Key) (e : Editor)
    (interruptions : Nat) :
    Reached S c s t
      (session.runKeys Builtin.registry S c.persona keys e interruptions) := by
  induction keys generalizing session e interruptions with
  | nil => exact h
  | cons k keys ih =>
      rw [Session.runKeys]
      split
      · exact ih h _ _
      · exact h
      · split
        · exact h
        · exact ih (h.printed _) _ _
      · rename_i line _
        have hnext := h.handled line (hspares _)
        split
        all_goals
          rename_i hhandle
          rw [hhandle] at hnext
        · exact ih hnext _ _
        · exact hnext
        · exact ih (hnext.showAnswer _) _ _

theorem of_openSession_eq_ok (h : openSession S c s t = (.ok session, u)) :
    session = openedSession S s u ∧ ∃ v, v.workingDirectory = t.workingDirectory ∧
      u = (ownLog S s).append (S.clock 1) Tag.session "start" v := by
  simp only [openSession] at h
  split at h
  · simp at h
  · rename_i log v hstart
    obtain ⟨hsession, rfl⟩ := Prod.mk.inj h
    obtain ⟨rfl, w, hdir, happend⟩ := SessionLog.exists_append_of_start hstart
    exact ⟨(Except.ok.inj hsession).symm, w, hdir, happend⟩

theorem exists_logs_of_openSession (h : openSession S c s t = (.ok session, u))
    (hwrite : u.CanWrite session.log.path)
    (hapart : t.resolve (ownLog S s).path ≠ t.resolve s.historyFile) :
    ∃ bytes, session.Logs (ownLog S s) ⟨s.historyFile⟩ bytes [] := by
  obtain ⟨hsession, v, hdir, hu⟩ := of_openSession_eq_ok h
  clear h
  have hkept : u.workingDirectory = t.workingDirectory := by
    rw [hu, FileTree.workingDirectory_append, hdir]
  have hopen : ∃ bytes, SessionLog.IsOpen u (ownLog S s).path bytes [] := by
    subst hsession
    have hwritable : u.CanWrite (ownLog S s).path := hwrite
    rw [hu] at hwritable ⊢
    exact SessionLog.isOpen_append hwritable
  obtain ⟨bytes, hopen⟩ := hopen
  subst hsession
  refine ⟨bytes, rfl, rfl, ?_, hopen⟩
  simp only [openedSession, FileTree.resolve_of_workingDirectory hkept]
  exact hapart

theorem Reached.exists_logs (h : Reached S c s t session) (hclock : ∀ n, (S.clock n).HasPlainYear)
    (hapart : t.resolve (ownLog S s).path ≠ t.resolve s.historyFile) :
    ∃ bytes, session.Logs (ownLog S s) ⟨s.historyFile⟩ bytes [] := by
  induction h with
  | opened hopen hwrite => exact exists_logs_of_openSession hopen hwrite hapart
  | handled raw _ hspares ih =>
      obtain ⟨bytes, hlogs⟩ := ih
      obtain ⟨more, -, hnext⟩ := hlogs.handle c.persona hclock hspares
      -- The records of this line count as held from now on, so that the induction goes through.
      obtain ⟨held, hopen⟩ := hnext.isOpen.restart
      exact ⟨held, hnext.of_isOpen rfl rfl rfl hopen⟩
  | printed lines _ ih =>
      obtain ⟨bytes, hlogs⟩ := ih
      exact ⟨bytes, hlogs.of_isOpen rfl rfl rfl hlogs.isOpen⟩

theorem openSession_still {s : Settings} (h : IsFreshStart stillSurroundings s bareTree)
    (c : CommandLine) :
    openSession stillSurroundings c s bareTree =
      (.ok (openedSession stillSurroundings s (openSession stillSurroundings c s bareTree).2),
        (openSession stillSurroundings c s bareTree).2) := by
  obtain ⟨u, hopen, -⟩ := openSession_of_isFreshStart h c
  rw [hopen]

theorem sparesLog_still (log : Path) (line : String) : SparesLog stillSurroundings log line :=
  fun _ _ _ _ => ⟨rfl, rfl⟩

def sharedSettings : Settings :=
  { plainSettings with historyFile := ⟨"/logs/20161231-235960.log"⟩ }

end Logbook.Program
