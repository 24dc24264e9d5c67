import Logbook.Proofs.Session.Asking
import Logbook.Proofs.Session.Piped
import Logbook.Proofs.SessionLog.Growth

namespace Logbook

namespace Persona

theorem isPrefixOf_errorPrefix (p : Persona) (message : String) :
    p.profile.errorPrefix.toList.isPrefixOf (p.profile.errorPrefix ++ message).toList = true := by
  simp [String.toList_append]

theorem isPrefixOf_replyPrefix (p : Persona) (text : String) :
    p.profile.errorPrefix.toList.isPrefixOf (p.profile.replyPrefix ++ text).toList = false := by
  rw [String.toList_append]
  cases p <;> rfl

end Persona

namespace Session

/-- A shell command that a line calls does not touch the log. -/
def SparesLog (S : Surroundings) (log : Path) (line : String) : Prop :=
  ∀ args, Command.split line = ("run", args) → ∀ n t,
    (S.shell n args t).tree.workingDirectory = t.workingDirectory ∧
      (S.shell n args t).tree.find log = t.find log

structure Logs (own : SessionLog) (past : History) (bytes : List UInt8)
    (es : List (String × String)) (s : Session) : Prop where
  log : s.log = own
  history : s.history = past
  apart : s.tree.resolve own.path ≠ s.tree.resolve past.path
  isOpen : SessionLog.IsOpen s.tree own.path bytes es

variable {own : SessionLog} {past : History} {bytes held : List UInt8} {es more : List (String × String)}
  {S : Surroundings} {persona : Option Persona} {s s' : Session} {line : String} {p : Persona}

namespace Logs

theorem of_isOpen (h : s.Logs own past bytes es) (hlog : s'.log = s.log)
    (hhistory : s'.history = s.history)
    (hdir : s'.tree.workingDirectory = s.tree.workingDirectory)
    (hopen : SessionLog.IsOpen s'.tree own.path held more) : s'.Logs own past held more where
  log := hlog.trans h.log
  history := hhistory.trans h.history
  apart := by
    rw [FileTree.resolve_of_workingDirectory hdir, FileTree.resolve_of_workingDirectory hdir]
    exact h.apart
  isOpen := hopen

theorem of_sameFiles (h : s.Logs own past bytes es) (hs : SameFiles s s') :
    s'.Logs own past bytes es :=
  h.of_isOpen hs.log hs.history (by rw [hs.tree]) (by rw [hs.tree]; exact h.isOpen)

theorem record (h : s.Logs own past bytes es) (hclock : ∀ n, (S.clock n).HasPlainYear)
    {tag : String} (htag : Record.validTag tag = true) (text : String) :
    (s.record S tag text).Logs own past bytes (es ++ [(tag, text)]) := by
  refine h.of_isOpen rfl rfl (FileTree.workingDirectory_append _ _ _ _ _) ?_
  exact h.isOpen.append (by rw [h.log]) ⟨hclock s.readings, htag⟩

theorem append_history (h : s.Logs own past bytes es) (command : String) :
    Session.Logs own past bytes es { s with tree := s.history.append command s.tree } := by
  refine h.of_isOpen rfl rfl ?_ ?_
  · obtain ⟨u, hadds, heq | ⟨more, happended⟩⟩ := s.history.append_eq_or command s.tree
    · rw [heq, hadds.workingDirectory]
    · rw [happended.workingDirectory, hadds.workingDirectory]
  · rw [h.history]
    exact h.isOpen.append_history h.apart command

theorem shell {args : String} (hspares : SparesLog S own.path line)
    (hline : Command.split line = ("run", args)) (h : s.Logs own past bytes es) :
    (Builtin.shell.run S args s).2.Logs own past bytes es := by
  simp only [Builtin.shell]
  split
  · exact h
  · obtain ⟨hdir, hfind⟩ := hspares args hline s.runs s.tree
    exact h.of_isOpen rfl rfl hdir (h.isOpen.of_find_eq hdir hfind)

theorem ask (h : s.Logs own past bytes es) (hclock : ∀ n, (S.clock n).HasPlainYear) (p : Persona)
    (text : String) :
    (∃ raw, S.ask p (s.asked p) (Chat.request p text) = .ok raw ∧
      (s.ask S p text).1 =
        { text := p.profile.replyPrefix ++ p.profile.shape raw, role := .success, recorded := true } ∧
      (s.ask S p text).2.Logs own past bytes
        (es ++ [(Tag.askedOf p.profile.tag, text), (p.profile.tag, p.profile.shape raw)])) ∨
    ∃ fault, S.ask p (s.asked p) (Chat.request p text) = .error fault ∧
      (s.ask S p text).1 =
        { text := p.profile.errorPrefix ++ fault.message, role := .error, recorded := true } ∧
      (s.ask S p text).2.Logs own past bytes
        (es ++ [(Tag.askedOf p.profile.tag, text),
          (p.profile.tag, p.profile.errorPrefix ++ fault.message)]) := by
  have hasked := h.record hclock p.validTag_askedOf text
  have hcounted : ∀ asked, Session.Logs own past bytes (es ++ [(Tag.askedOf p.profile.tag, text)])
      { s.record S (Tag.askedOf p.profile.tag) text with asked } := fun asked =>
    hasked.of_isOpen rfl rfl rfl hasked.isOpen
  have hasks : (s.record S (Tag.askedOf p.profile.tag) text).asked = s.asked := rfl
  cases hresult : S.ask p (s.asked p) (Chat.request p text) with
  | ok raw =>
      refine Or.inl ⟨raw, rfl, ?_, ?_⟩
      · simp only [Session.ask, query, hasks, hresult, p.isPrefixOf_replyPrefix]
        rfl
      · simp only [Session.ask, query, hasks, hresult]
        rw [List.append_cons]
        exact (hcounted _).record hclock p.validTag_tag _
  | error fault =>
      refine Or.inr ⟨fault, rfl, ?_, ?_⟩
      · simp only [Session.ask, query, hasks, hresult, p.isPrefixOf_errorPrefix]
        rfl
      · simp only [Session.ask, query, hasks, hresult]
        rw [List.append_cons]
        exact (hcounted _).record hclock p.validTag_tag _

theorem run (h : s.Logs own past bytes es) {c : Command} (hc : c ∈ Builtin.registry.commands)
    {args : String} (hspares : SparesLog S own.path line) (hline : Command.split line = (c.name, args))
    (hargs : ∀ p : Persona, c.name = p.command → args = "") :
    (c.run S args s).1.recorded = false ∧ (c.run S args s).2.Logs own past bytes es := by
  rcases Builtin.mem_registry hc with hc | ⟨entries, rfl⟩
  · rcases Builtin.mem_commands hc with hquiet | rfl | rfl | rfl
    · exact ⟨Builtin.recorded_of_mem_quiet hquiet,
        h.of_sameFiles (Builtin.sameFiles_of_mem_quiet hquiet)⟩
    · exact ⟨Builtin.recorded_shell, h.shell hspares hline⟩
    · rw [hargs .johny rfl]
      exact ⟨rfl, h⟩
    · rw [hargs .tony rfl]
      exact ⟨rfl, h⟩
  · exact ⟨rfl, h⟩

theorem answerTo (h : s.Logs own past bytes es) (htrim : Text.trim line.toList = line.toList)
    (hspares : SparesLog S own.path line) (hasks : ∀ p text, ¬Asks persona line p text) :
    (answerTo Builtin.registry S persona line s).1.recorded = false ∧
      (Session.answerTo Builtin.registry S persona line s).2.Logs own past bytes es := by
  simp only [Session.answerTo]
  split
  · rename_i hslash
    simp only [Registry.dispatch]
    split
    · rename_i c hc
      obtain ⟨hmem, hname⟩ := Registry.of_get?_eq_some hc
      refine h.run hmem hspares (by rw [hname]) fun p hp => ?_
      exact args_eq_empty_of_not_asks htrim hslash (by rw [← hp, hname]) hasks
    · exact ⟨rfl, h⟩
  · rename_i hslash
    split
    · exact absurd (.listening rfl hslash) (hasks _ _)
    · exact ⟨rfl, h⟩

end Logs

/-- A word that ends a session, in any case. -/
def IsEnd (cs : List Char) : Prop :=
  cs.map Char.toLower = "exit".toList ∨ cs.map Char.toLower = "quit".toList

theorem endsSession_iff (cs : List Char) : endsSession cs = true ↔ IsEnd cs := by
  simp only [endsSession, IsEnd, Bool.or_eq_true, beq_iff_eq, ← String.toList_inj,
    String.toList_ofList]

/-- What has been typed with a line: a command, without the blanks around it. -/
structure Types (raw line : String) : Prop where
  toList_eq : line.toList = Text.trim raw.toList
  ne_nil : Text.trim raw.toList ≠ []
  not_isEnd : ¬IsEnd (Text.trim raw.toList)

/-- What a line leads to, and the tags and texts of the records that are made of it. A command is
recorded with its answer; a question to a persona is recorded too, under the persona's tags, and the
answer only there. -/
inductive LeadsTo (S : Surroundings) (persona : Option Persona) (s : Session) (raw : String) :
    Turn → List (String × String) → Prop where
  | blank : Text.trim raw.toList = [] → LeadsTo S persona s raw .skip []
  | ended : IsEnd (Text.trim raw.toList) → LeadsTo S persona s raw .exit []
  | plain {line : String} {a : Answer} :
      Types raw line → (∀ p text, ¬Asks persona line p text) → a.recorded = false →
      LeadsTo S persona s raw (.answered a) [(Tag.user, line), (Tag.assistant, a.text)]
  | replied {line text answer : String} {p : Persona} :
      Types raw line → Asks persona line p text →
      S.ask p (s.asked p) (Chat.request p text) = .ok answer →
      LeadsTo S persona s raw
        (.answered
          { text := p.profile.replyPrefix ++ p.profile.shape answer
            role := .success
            recorded := true })
        [(Tag.user, line), (Tag.askedOf p.profile.tag, text), (p.profile.tag, p.profile.shape answer)]
  | failed {line text : String} {fault : Chat.Fault} {p : Persona} :
      Types raw line → Asks persona line p text →
      S.ask p (s.asked p) (Chat.request p text) = .error fault →
      LeadsTo S persona s raw
        (.answered
          { text := p.profile.errorPrefix ++ fault.message, role := .error, recorded := true })
        [(Tag.user, line), (Tag.askedOf p.profile.tag, text),
          (p.profile.tag, p.profile.errorPrefix ++ fault.message)]

theorem LeadsTo.types {raw tag text : String} {turn : Turn}
    (h : LeadsTo S persona s raw turn ((tag, text) :: es)) : Types raw text := by
  cases h <;> assumption

theorem Logs.handle (h : s.Logs own past bytes es) (persona : Option Persona)
    (hclock : ∀ n, (S.clock n).HasPlainYear) {raw : String}
    (hspares : SparesLog S own.path (String.ofList (Text.trim raw.toList))) :
    ∃ more, LeadsTo S persona s raw (s.handle Builtin.registry S persona raw).1 more ∧
      (s.handle Builtin.registry S persona raw).2.Logs own past bytes (es ++ more) := by
  by_cases hblank : Text.trim raw.toList = []
  · rw [handle_of_blank persona _ hblank]
    exact ⟨[], .blank hblank, by simpa using h⟩
  cases hends : endsSession (Text.trim raw.toList) with
  | true =>
      rw [handle_of_ends persona _ hblank hends]
      exact ⟨[], .ended ((endsSession_iff _).mp hends), by simpa using h⟩
  | false =>
      have htypes : Types raw (String.ofList (Text.trim raw.toList)) :=
        ⟨String.toList_ofList, hblank, by rw [← endsSession_iff, hends]; exact Bool.false_ne_true⟩
      have htrim : Text.trim (String.ofList (Text.trim raw.toList)).toList =
          (String.ofList (Text.trim raw.toList)).toList := by
        rw [String.toList_ofList, Text.trim_trim]
      rw [handle_of_command persona _ hblank hends]
      generalize String.ofList (Text.trim raw.toList) = line at *
      have htyped := (h.append_history line).record hclock Record.validTag_user line
      dsimp only
      by_cases hasks : ∃ p text, Asks persona line p text
      · obtain ⟨p, text, hasks⟩ := hasks
        rw [answerTo_of_asks htrim hasks]
        rcases htyped.ask hclock p text with
          ⟨raw, hask, hanswer, hlogs⟩ | ⟨fault, hask, hanswer, hlogs⟩
        · rw [List.append_assoc] at hlogs
          rw [hanswer]
          exact ⟨_, .replied htypes hasks hask, hlogs⟩
        · rw [List.append_assoc] at hlogs
          rw [hanswer]
          exact ⟨_, .failed htypes hasks hask, hlogs⟩
      · push Not at hasks
        obtain ⟨hrecorded, hlogs⟩ := htyped.answerTo htrim hspares hasks
        refine ⟨_, .plain htypes hasks hrecorded, ?_⟩
        rw [if_neg (by simp [hrecorded]), List.append_cons]
        exact hlogs.record hclock Record.validTag_assistant _

end Session

end Logbook
