import Logbook.Proofs.SessionLog.Ledger
import Logbook.Proofs.SessionLog.Shelved

namespace Logbook

structure Shelf where
  dir : Path
  maxFiles : Nat
  tree : FileTree
  logs : List SessionLog

namespace Shelf

open LogAction

def settings (s : Shelf) : LogSettings :=
  { dir := s.dir, mode := .lenient, maxFiles := s.maxFiles }

def finish (s : Shelf) (k : Nat) (now : Instant) : Shelf :=
  match s.logs[k]? with
  | none => s
  | some log =>
      let (log, t) := log.finish now s.tree
      { s with tree := t, logs := s.logs.set k log }

/-- Does one thing. A log that is closed is finished, and finished again when it goes out of use. -/
def act (s : Shelf) : LogAction → Shelf
  | .start session now =>
      match SessionLog.start s.settings (SessionId.ofInstant session) now s.tree with
      | (.ok log, t) => { s with tree := t, logs := s.logs ++ [log] }
      | (.error _, t) => { s with tree := t }
  | .append k now tag text =>
      match s.logs[k]? with
      | none => s
      | some log => { s with tree := log.append now tag text s.tree }
  | .close k now => (s.finish k now).finish k now
  | .drop k now => s.finish k now

def run (s : Shelf) (as : List LogAction) : Shelf :=
  as.foldl act s

def CanAppend (s : Shelf) (k : Nat) : Prop :=
  ∃ log ∈ s.logs[k]?, log.ended = false ∧ s.tree.CanWrite log.path

/-- Whether a log is there, and can be written unless it has ended. -/
def CanFinish (s : Shelf) (k : Nat) : Prop :=
  ∃ log ∈ s.logs[k]?, log.ended = false → s.tree.CanWrite log.path

/-- Whether an action is done with a log that is there, at a plain time and with a tag that can be read
back, and its write succeeds. -/
def Admits (s : Shelf) : LogAction → Prop
  | .start session now =>
      session.HasPlainYear ∧ now.HasPlainYear ∧
        (s.tree.makeDirectories s.dir).2.CanWrite
          ((SessionId.ofInstant session).path s.dir)
  | .append k now tag _ => now.HasPlainYear ∧ Record.validTag tag = true ∧ s.CanAppend k
  | .close k now | .drop k now => now.HasPlainYear ∧ s.CanFinish k

/-- Whether each of some actions is admitted when its turn comes. -/
def Admissible : Shelf → List LogAction → Prop
  | _, [] => True
  | s, a :: as => s.Admits a ∧ (s.act a).Admissible as

instance (s : Shelf) (k : Nat) : Decidable (s.CanAppend k) :=
  inferInstanceAs (Decidable (∃ _ ∈ _, _ ∧ _))

instance (s : Shelf) (k : Nat) : Decidable (s.CanFinish k) :=
  inferInstanceAs (Decidable (∃ _ ∈ _, _ → _))

instance (s : Shelf) : DecidablePred s.Admits
  | .start session _ =>
      inferInstanceAs (Decidable (session.HasPlainYear ∧ Instant.HasPlainYear _ ∧ FileTree.CanWrite _ _))
  | .append _ _ _ _ => inferInstanceAs (Decidable (Instant.HasPlainYear _ ∧ _ = true ∧ CanAppend _ _))
  | .close _ _ | .drop _ _ => inferInstanceAs (Decidable (Instant.HasPlainYear _ ∧ CanFinish _ _))

instance decidableAdmissible (s : Shelf) : DecidablePred s.Admissible
  | [] => isTrue trivial
  | a :: as =>
      have := decidableAdmissible (s.act a) as
      inferInstanceAs (Decidable (s.Admits a ∧ _))

theorem run_concat (s : Shelf) (as : List LogAction) (a : LogAction) :
    s.run (as ++ [a]) = (s.run as).act a := by
  simp [run]

theorem admissible_concat {s : Shelf} {as : List LogAction} {a : LogAction} :
    s.Admissible (as ++ [a]) ↔ s.Admissible as ∧ (s.run as).Admits a := by
  induction as generalizing s with
  | nil => simp [Admissible, run]
  | cons b as ih =>
      rw [List.cons_append, Admissible, ih, Admissible, and_assoc]
      rfl

theorem act_start (s : Shelf) (session now : Instant) :
    s.act (.start session now) =
      { s with
        tree := SessionLog.append { id := SessionId.ofInstant session, dir := s.dir } now Tag.session
          "start" (s.tree.makeDirectories s.dir).2
        logs := s.logs ++ [{ id := SessionId.ofInstant session, dir := s.dir }] } := by
  rw [act, SessionLog.start_of_lenient rfl]
  rfl

theorem finish_eq {s : Shelf} {k : Nat} {log : SessionLog} (h : s.logs[k]? = some log)
    (now : Instant) :
    s.finish k now =
      { s with
        tree := (log.finish now s.tree).2, logs := s.logs.set k { log with ended := true } } := by
  simp only [finish, h, SessionLog.fst_finish]

theorem finish_finish (s : Shelf) (k : Nat) (now later : Instant) :
    (s.finish k now).finish k later = s.finish k now := by
  cases h : s.logs[k]? with
  | none => simp [finish, h]
  | some log =>
      obtain ⟨hlt, -⟩ := List.getElem?_eq_some_iff.mp h
      have hnew : (s.finish k now).logs[k]? = some { log with ended := true } := by
        rw [finish_eq h]
        exact List.getElem?_set_self hlt
      rw [finish_eq hnew, SessionLog.finish_of_ended rfl, finish_eq h]
      simp only [List.set_set]

/-- The logs are those that actions have started, and the files hold what the actions have written. -/
structure Agrees (s : Shelf) (here : Location) (as : List LogAction) : Prop where
  numbered : Numbered as
  contributed : ∀ k < (sessions as).length, writtenBy k as = contribution k as
  ids : s.logs.map SessionLog.id = sessions as
  log : ∀ {k log}, s.logs[k]? = some log → log.dir = s.dir ∧ log.ended = as.any (ends k)
  shelved : SessionLog.Shelved s.tree s.dir here (sessions as) fun id => writtenTo id as

namespace Agrees

variable {s : Shelf} {here : Location} {as : List LogAction}

theorem length_sessions (h : s.Agrees here as) : (sessions as).length = s.logs.length := by
  rw [← h.ids, List.length_map]

theorem lt_length (h : s.Agrees here as) {k : Nat} {log : SessionLog} (hk : s.logs[k]? = some log) :
    k < (sessions as).length := by
  rw [h.length_sessions]
  exact (List.getElem?_eq_some_iff.mp hk).1

theorem sessions_getElem? (h : s.Agrees here as) {k : Nat} {log : SessionLog}
    (hk : s.logs[k]? = some log) : (sessions as)[k]? = some log.id := by
  rw [← h.ids, List.getElem?_map, hk]
  rfl

theorem ids_set (h : s.Agrees here as) {k : Nat} {log : SessionLog} (hk : s.logs[k]? = some log) :
    (s.logs.set k { log with ended := true }).map SessionLog.id = sessions as := by
  obtain ⟨hlt, rfl⟩ := List.getElem?_eq_some_iff.mp hk
  rw [← h.ids, List.map_set, ← List.getElem_map SessionLog.id, List.set_getElem_self]
  simpa using hlt

theorem log_set (h : s.Agrees here as) {k : Nat} {log : SessionLog} (hk : s.logs[k]? = some log)
    {a : LogAction} (hends : ∀ n, ends n a = (k == n)) {n : Nat} {other : SessionLog}
    (hn : (s.logs.set k { log with ended := true })[n]? = some other) :
    other.dir = s.dir ∧ other.ended = (as ++ [a]).any (ends n) := by
  rw [List.any_append, List.any_cons, hends, List.any_nil, Bool.or_false]
  rw [List.getElem?_set] at hn
  split at hn
  · rename_i heq
    obtain ⟨-, rfl⟩ : _ ∧ { log with ended := true } = other := by simpa using hn
    simp [heq, (h.log hk).1]
  · rename_i hne
    rw [beq_false_of_ne hne, Bool.or_false]
    exact h.log hn

theorem log_concat (h : s.Agrees here as) {id : SessionId} {session now : Instant} {k : Nat}
    {log : SessionLog} (hk : (s.logs ++ [{ id, dir := s.dir }])[k]? = some log) :
    log.dir = s.dir ∧ log.ended = (as ++ [LogAction.start session now]).any (ends k) := by
  rw [List.any_append]
  simp only [List.any_cons, ends, List.any_nil, Bool.or_false]
  rw [List.getElem?_append] at hk
  split at hk
  · exact h.log hk
  · rename_i hnot
    obtain rfl : log = { id, dir := s.dir } := by
      simpa using List.mem_of_getElem? hk
    refine ⟨rfl, (h.numbered.ends_eq_false ?_).symm⟩
    rw [h.length_sessions]
    exact Nat.le_of_not_lt hnot

theorem shelved_append (h : s.Agrees here as) {a : LogAction} {k : Nat} {log : SessionLog}
    (hk : s.logs[k]? = some log) (hwrite : s.tree.CanWrite log.path) {now : Instant}
    {tag text : String} (hr : Record.IsReadable ⟨now, tag, text⟩)
    (hwrites : writes? as a = some (k, tag, text)) (hstarts : a.starts? = none) :
    SessionLog.Shelved (log.append now tag text s.tree) s.dir here (sessions (as ++ [a]))
        (fun id => writtenTo id (as ++ [a])) ∧
      FileTree.Appended s.tree (log.append now tag text s.tree) (here ++ [log.id.fileName])
        (SessionLog.lineBytes ⟨now, tag, text⟩) := by
  have hsessions : sessions (as ++ [a]) = sessions as := by simp [sessions_concat, hstarts]
  have hid := h.sessions_getElem? hk
  have hmem : log.id ∈ sessions as := List.mem_of_getElem? hid
  obtain ⟨session, -, -, hsession⟩ := exists_of_mem_sessions hmem
  have hwritten := h.numbered.writtenTo_concat_of_writes? hwrites (hsessions.symm ▸ hid)
  refine h.shelved.append log _ _ (h.log hk).1 hwrite hr (h.shelved.name _ hmem) ?_ (absurd hmem) ?_ ?_ ?_
  · rw [← hsession]
    exact SessionId.text_ofInstant_ne_empty session
  · intro id
    rw [hsessions, or_iff_left_of_imp]
    rintro rfl
    exact hmem
  · rw [hwritten, if_pos rfl]
  · intro id _ hne
    rw [hwritten, if_neg hne, List.append_nil]

theorem start (h : s.Agrees here as) {session now : Instant}
    (ha : s.Admits (.start session now)) :
    (s.act (.start session now)).Agrees here (as ++ [.start session now]) ∧
      s.tree.Extends (s.act (.start session now)).tree
        (here ++ [(SessionId.ofInstant session).fileName]) := by
  obtain ⟨-, hnow, hwrite⟩ := ha
  have hdirs := FileTree.addsDirectories_makeDirectories s.tree s.dir
  have hsessions : sessions (as ++ [.start session now]) =
      sessions as ++ [SessionId.ofInstant session] := by
    simp [sessions_concat, starts?]
  have hnew : (sessions (as ++ [.start session now]))[(sessions as).length]? =
      some (SessionId.ofInstant session) := by
    simp [hsessions]
  have hwritten := h.numbered.writtenTo_concat_of_writes? rfl hnew
  obtain ⟨hshelved, happended⟩ := (h.shelved.of_addsDirectories hdirs).append
    { id := SessionId.ofInstant session, dir := s.dir } (sessions (as ++ [.start session now]))
    (fun id => writtenTo id (as ++ [.start session now])) rfl hwrite
    (Record.isReadable_session hnow "start") (SessionId.isFileName_ofInstant session)
    (SessionId.text_ofInstant_ne_empty session) writtenTo_eq_nil (by simp [hsessions])
    (by rw [hwritten, if_pos rfl]) (fun id _ hne => by rw [hwritten, if_neg hne, List.append_nil])
  rw [act_start]
  refine ⟨⟨h.numbered.concat (by simp [log?]), ?_, ?_, ?_, ?_⟩, ?_⟩
  · intro k hk
    exact writtenBy_concat_eq_contribution h.numbered h.contributed (by simp) hk
  · simp [h.ids, hsessions]
  · exact h.log_concat
  · dsimp only
    exact hshelved
  · dsimp only
    exact hdirs.extends_trans happended.extends

theorem append (h : s.Agrees here as) {k : Nat} {now : Instant} {tag text : String}
    (ha : s.Admits (.append k now tag text)) :
    (s.act (.append k now tag text)).Agrees here (as ++ [.append k now tag text]) ∧
      ∃ id, (sessions as)[k]? = some id ∧
        s.tree.Extends (s.act (.append k now tag text)).tree (here ++ [id.fileName]) := by
  obtain ⟨hnow, htag, log, hk, hopen, hwrite⟩ := ha
  rw [Option.mem_def] at hk
  obtain ⟨hshelved, happended⟩ := h.shelved_append (a := .append k now tag text) hk hwrite
    ⟨hnow, htag⟩ rfl rfl
  have hsessions : sessions (as ++ [.append k now tag text]) = sessions as := by
    simp [sessions_concat, starts?]
  have hlt : ∀ n, (LogAction.append k now tag text).log? = some n → n < (sessions as).length := by
    rintro n hn
    obtain rfl : k = n := by simpa [log?] using hn
    exact h.lt_length hk
  simp only [act, hk]
  refine ⟨⟨h.numbered.concat hlt, ?_, ?_, ?_, hshelved⟩, log.id, h.sessions_getElem? hk,
    happended.extends⟩
  · intro n hn
    refine writtenBy_concat_eq_contribution h.numbered h.contributed ?_ hn
    rintro m now' tag' text' heq
    obtain ⟨rfl, -⟩ := LogAction.append.inj heq
    rw [← (h.log hk).2, hopen]
  · rw [h.ids, hsessions]
  · intro n other hn
    simpa [ends] using h.log hn

theorem finish (h : s.Agrees here as) {a : LogAction} {k : Nat} {now : Instant}
    (ha : a = .close k now ∨ a = .drop k now) (hnow : now.HasPlainYear) (hk : s.CanFinish k) :
    (s.finish k now).Agrees here (as ++ [a]) ∧
      ∃ id, (sessions as)[k]? = some id ∧
        s.tree.Extends (s.finish k now).tree (here ++ [id.fileName]) := by
  obtain ⟨log, hk, hwrite⟩ := hk
  rw [Option.mem_def] at hk
  have hstarts : a.starts? = none := by rcases ha with rfl | rfl <;> rfl
  have hends : ∀ n, ends n a = (k == n) := by rcases ha with rfl | rfl <;> exact fun n => rfl
  have hwrites : writes? as a = if log.ended then none else some (k, Tag.session, "end") := by
    rw [(h.log hk).2]
    rcases ha with rfl | rfl <;> rfl
  have hsessions : sessions (as ++ [a]) = sessions as := by simp [sessions_concat, hstarts]
  have hnumbered : Numbered (as ++ [a]) := by
    apply h.numbered.concat
    intro n hn
    obtain rfl : k = n := by rcases ha with rfl | rfl <;> simpa [log?] using hn
    exact h.lt_length hk
  have hcontributed : ∀ n < (sessions (as ++ [a])).length,
      writtenBy n (as ++ [a]) = contribution n (as ++ [a]) := fun n hn =>
    writtenBy_concat_eq_contribution h.numbered h.contributed
      (by rcases ha with rfl | rfl <;> simp) hn
  have hids := (h.ids_set hk).trans hsessions.symm
  rw [finish_eq hk]
  cases hended : log.ended with
  | true =>
      rw [SessionLog.finish_of_ended hended]
      have hnone : writes? as a = none := by rw [hwrites, if_pos hended]
      refine ⟨⟨hnumbered, hcontributed, hids, h.log_set hk hends, ?_⟩, log.id, h.sessions_getElem? hk,
        FileTree.Extends.refl _ _⟩
      dsimp only
      rw [hsessions, funext fun id => h.numbered.writtenTo_concat_of_writes?_eq_none hnone id]
      exact h.shelved
  | false =>
      rw [SessionLog.finish_of_not_ended hended]
      obtain ⟨hshelved, happended⟩ := h.shelved_append (a := a) hk (hwrite hended)
        (Record.isReadable_session hnow "end") (by rw [hwrites, hended]; rfl) hstarts
      exact ⟨⟨hnumbered, hcontributed, hids, h.log_set hk hends, hshelved⟩, log.id,
        h.sessions_getElem? hk,
        happended.extends⟩

theorem act (h : s.Agrees here as) {a : LogAction} (ha : s.Admits a) :
    (s.act a).Agrees here (as ++ [a]) ∧
      ∃ id, session? as a = some id ∧ s.tree.Extends (s.act a).tree (here ++ [id.fileName]) := by
  cases a with
  | start session now =>
      obtain ⟨hagrees, hextends⟩ := h.start ha
      exact ⟨hagrees, _, rfl, hextends⟩
  | append k now tag text => exact h.append ha
  | close k now =>
      rw [Shelf.act, finish_finish]
      exact h.finish (Or.inl rfl) ha.1 ha.2
  | drop k now => exact h.finish (Or.inr rfl) ha.1 ha.2

end Agrees

/-- No log has been started, and no file of the directory is named like one. -/
structure IsFresh (s : Shelf) : Prop where
  logs : s.logs = []
  files : ∀ {name f}, SessionId.isLogName name = true →
    s.tree.entry? (s.tree.resolve s.dir ++ [name]) ≠ some (.file f)

theorem IsFresh.agrees {s : Shelf} (h : s.IsFresh) : s.Agrees (s.tree.resolve s.dir) [] where
  numbered := Numbered.nil
  contributed := by simp [sessions]
  ids := by simp [h.logs, sessions]
  log := by simp [h.logs]
  shelved :=
    { place := rfl
      name := by simp [sessions]
      locate := by simp [sessions]
      held := by simp [sessions]
      others := fun hname hf => absurd hf (h.files hname) }

theorem dir_act (s : Shelf) (a : LogAction) : (s.act a).dir = s.dir := by
  have hfinish : ∀ (s : Shelf) k now, (s.finish k now).dir = s.dir := by
    intro s k now
    rw [finish]
    split <;> rfl
  cases a with
  | start session now => rw [act_start]
  | append k now tag text =>
      rw [act]
      split <;> rfl
  | close k now => rw [act, hfinish, hfinish]
  | drop k now => rw [act, hfinish]

theorem agrees_run {s : Shelf} (h : s.IsFresh) {as : List LogAction} (has : s.Admissible as) :
    (s.run as).dir = s.dir ∧ (s.run as).Agrees (s.tree.resolve s.dir) as := by
  -- A run grows at its end, and so does the ledger: the induction takes off the last action.
  induction as using List.reverseRecOn with
  | nil => exact ⟨rfl, h.agrees⟩
  | append_singleton as a ih =>
      obtain ⟨hbefore, ha⟩ := admissible_concat.mp has
      obtain ⟨hdir, hagrees⟩ := ih hbefore
      rw [run_concat, dir_act]
      exact ⟨hdir, (hagrees.act ha).1⟩

/-- Logs of one directory in use at once. Each log's file holds, one record to a line, what has been
written to it, in order, and no other file of the directory is named like a log. A log contributes its
start, what is added to it, and one end once it has been closed or dropped. And each action only adds to
the file of its log. -/
theorem run_keeps_ledger (s : Shelf) (h : s.IsFresh) (as : List LogAction) (has : s.Admissible as) :
    (∀ id ∈ sessions as, ∃ bytes, (s.run as).tree.read (id.path s.dir) = .ok bytes ∧
      (fileLines bytes).map Record.readEntry? = (writtenTo id as).map some) ∧
    (∀ name f, SessionId.isLogName name = true →
      FileTree.entry? (s.run as).tree (s.tree.resolve s.dir ++ [name]) = some (.file f) →
        ∃ id ∈ sessions as, id.fileName = name) ∧
    (∀ k < (sessions as).length,
      writtenBy k as =
        (Tag.session, "start") :: as.filterMap (adds? k) ++
          if as.any (ends k) then [(Tag.session, "end")] else []) ∧
    (∀ a, (s.run as).Admits a → ∃ id, session? as a = some id ∧
      (s.run as).tree.Extends (s.run (as ++ [a])).tree (s.tree.resolve s.dir ++ [id.fileName])) := by
  obtain ⟨hdir, hagrees⟩ := agrees_run h has
  refine ⟨fun id hid => ?_, fun name f => hagrees.shelved.others, hagrees.contributed, fun a ha => ?_⟩
  · rw [← hdir]
    exact (hagrees.shelved.held id hid).read (hagrees.shelved.locate id hid)
  · rw [run_concat]
    exact (hagrees.act ha).2

def newShelf : Shelf :=
  { dir := ⟨"/var/logs"⟩
    maxFiles := 3
    tree := { entries := [], clock := Record.leapSecond, workingDirectory := [], nodup := List.nodup_nil }
    logs := [] }

/-- Two logs of one second. A text of the first one looks like a record, and the first one is closed. -/
def sameSecond : List LogAction :=
  [.start Record.leapSecond Record.leapSecond,
    .append 0 Record.leapSecond Tag.user "a\n2017-01-01T00:00:00Z user:b",
    .start Record.leapSecond Record.leapSecond, .append 1 Record.leapSecond Tag.assistant "c\\n",
    .close 0 Record.leapSecond, .drop 0 Record.leapSecond, .drop 1 Record.leapSecond]

theorem newShelf_isFresh : newShelf.IsFresh where
  logs := rfl
  files := by simp [newShelf, FileTree.entry?]

theorem same_second_keeps_ledger :
    newShelf.IsFresh ∧ newShelf.Admissible sameSecond ∧
      ∃ bytes, (newShelf.run sameSecond).tree.read ⟨"/var/logs/20161231-235960.log"⟩ = .ok bytes ∧
        (fileLines bytes).map Record.readEntry? =
          [some ("session", "start"), some ("user", "a\n2017-01-01T00:00:00Z user:b"),
            some ("session", "start"), some ("assistant", "c\\n"), some ("session", "end"),
            some ("session", "end")] := by
  have has : newShelf.Admissible sameSecond := by decide +kernel
  obtain ⟨bytes, hread, hlines⟩ := (run_keeps_ledger newShelf newShelf_isFresh sameSecond has).1
    (SessionId.ofInstant Record.leapSecond) (by decide +kernel)
  exact ⟨newShelf_isFresh, has, bytes, hread, hlines⟩

end Shelf

end Logbook
