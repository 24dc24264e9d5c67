import Logbook.Command.Builtin
import Logbook.Proofs.Session.Kept

namespace Logbook

/-- Entries that are neither typed by the user nor marks of a session. -/
def AreAsides (es : List (String × String)) : Prop :=
  ∀ e ∈ es, e.1 ≠ Tag.user ∧ e.1 ≠ Tag.session

theorem areAsides_nil : AreAsides [] := by
  simp [AreAsides]

theorem areAsides_append {es more : List (String × String)} (h : AreAsides es)
    (k : AreAsides more) : AreAsides (es ++ more) := by
  intro e he
  exact (List.mem_append.mp he).elim (h e) (k e)

namespace Persona

theorem validTag_tag (p : Persona) : Record.validTag p.profile.tag = true := by
  cases p <;> decide

theorem validTag_askedOf (p : Persona) : Record.validTag (Tag.askedOf p.profile.tag) = true := by
  cases p <;> decide

theorem tag_ne (p : Persona) : p.profile.tag ≠ Tag.user ∧ p.profile.tag ≠ Tag.session := by
  cases p <;> decide

theorem askedOf_ne (p : Persona) :
    Tag.askedOf p.profile.tag ≠ Tag.user ∧ Tag.askedOf p.profile.tag ≠ Tag.session := by
  cases p <;> decide

theorem areAsides_of_tags (p : Persona) (text answer : String) :
    AreAsides [(Tag.askedOf p.profile.tag, text), (p.profile.tag, answer)] := by
  intro e he
  simp only [List.mem_cons, List.not_mem_nil, or_false] at he
  rcases he with rfl | rfl
  · exact p.askedOf_ne
  · exact p.tag_ne

end Persona

namespace Session

/-- A running session that keeps its files: it has been given some commands and has written some
entries. -/
structure Keeps (a : Archive) (id : SessionId) (ls : List String) (es : List (String × String))
    (s : Session) : Prop where
  log : s.log = { id, dir := a.logDir }
  history : s.history = ⟨a.historyFile⟩
  archive : s.archive = a
  kept : Kept a id s.tree ls es

/-- Nothing has changed in what a session keeps, nor in any file. -/
structure SameFiles (s s' : Session) : Prop where
  log : s'.log = s.log
  history : s'.history = s.history
  archive : s'.archive = s.archive
  tree : s'.tree = s.tree

theorem SameFiles.refl (s : Session) : SameFiles s s :=
  ⟨rfl, rfl, rfl, rfl⟩

variable {a : Archive} {id : SessionId} {ls : List String} {es : List (String × String)}
  {s s' : Session} {S : Surroundings}

theorem Keeps.of_sameFiles (h : s.Keeps a id ls es) (hs : SameFiles s s') : s'.Keeps a id ls es where
  log := hs.log.trans h.log
  history := hs.history.trans h.history
  archive := hs.archive.trans h.archive
  kept := hs.tree ▸ h.kept

theorem Keeps.record (h : s.Keeps a id ls es) (hclock : ∀ n, (S.clock n).HasPlainYear)
    {tag : String} (htag : Record.validTag tag = true) (text : String) :
    (s.record S tag text).Keeps a id ls (es ++ [(tag, text)]) where
  log := h.log
  history := h.history
  archive := h.archive
  kept := by
    simp only [Session.record, now, h.log]
    exact h.kept.append_log ⟨hclock s.readings, htag⟩

theorem Keeps.withAsked (h : s.Keeps a id ls es) (asked : Persona → Nat) :
    Session.Keeps a id ls es { s with asked } :=
  ⟨h.log, h.history, h.archive, h.kept⟩

theorem Keeps.query (h : s.Keeps a id ls es) (hclock : ∀ n, (S.clock n).HasPlainYear)
    (p : Persona) (text : String) :
    ∃ more, AreAsides more ∧ (s.query S p text).2.Keeps a id ls (es ++ more) := by
  have hasked := h.record hclock p.validTag_askedOf text
  simp only [Session.query]
  split
  · rename_i raw _
    refine ⟨_, p.areAsides_of_tags text (p.profile.shape raw), ?_⟩
    rw [List.append_cons]
    exact (hasked.withAsked _).record hclock p.validTag_tag _
  · rename_i fault _
    refine ⟨_, p.areAsides_of_tags text (p.profile.errorPrefix ++ fault.message), ?_⟩
    rw [List.append_cons]
    exact (hasked.withAsked _).record hclock p.validTag_tag _

theorem Keeps.ask (h : s.Keeps a id ls es) (hclock : ∀ n, (S.clock n).HasPlainYear)
    (p : Persona) (text : String) :
    ∃ more, AreAsides more ∧ (s.ask S p text).2.Keeps a id ls (es ++ more) :=
  h.query hclock p text

end Session

namespace Registry

theorem mem_register {r : Registry} {c d : Command} (h : c ∈ (r.register d).commands) :
    c ∈ r.commands ∨ c = d := by
  rw [register] at h
  split at h
  · exact Or.inl h
  · simpa using h

theorem mem_foldl_register {r : Registry} {cs : List Command} {c : Command}
    (h : c ∈ (cs.foldl register r).commands) : c ∈ r.commands ∨ c ∈ cs := by
  induction cs generalizing r with
  | nil => exact Or.inl h
  | cons d cs ih =>
      rcases ih h with h | h
      · rcases mem_register h with h | rfl
        · exact Or.inl h
        · exact Or.inr (by simp)
      · exact Or.inr (by simp [h])

theorem of_get?_eq_some {r : Registry} {name : String} {c : Command} (h : r.get? name = some c) :
    c ∈ r.commands ∧ c.name = name :=
  ⟨List.mem_of_find?_eq_some h, by simpa using List.find?_some h⟩

end Registry

namespace Builtin

theorem mem_registry {c : Command} (h : c ∈ registry.commands) :
    c ∈ commands ∨ ∃ entries, c = help entries := by
  rcases Registry.mem_register h with h | rfl
  · rcases Registry.mem_foldl_register h with h | h
    · exact absurd h List.not_mem_nil
    · exact Or.inl h
  · exact Or.inr ⟨_, rfl⟩

/-- The commands that change no file and record nothing themselves. -/
def quiet : List Command :=
  [status, time, bg, jobs, summarize, history, search, last, sessions, evaluate, ping]

theorem mem_commands {c : Command} (h : c ∈ commands) :
    c ∈ quiet ∨ c = shell ∨ c = dive ∨ c = deep := by
  simp only [commands, quiet, List.mem_cons, List.not_mem_nil, or_false] at h ⊢
  tauto

open Session (SameFiles)

variable {a : Archive} {id : SessionId} {ls : List String} {es : List (String × String)}
  {s : Session} {S : Surroundings} {args : String}

theorem sameFiles_of_mem_quiet {c : Command} (h : c ∈ quiet) : SameFiles s (c.run S args s).2 := by
  simp only [quiet, List.mem_cons, List.not_mem_nil, or_false] at h
  rcases h with rfl | rfl | rfl | rfl | rfl | rfl | rfl | rfl | rfl | rfl | rfl
  · exact SameFiles.refl s
  · exact ⟨rfl, rfl, rfl, rfl⟩
  · simp only [bg]
    split <;> exact ⟨rfl, rfl, rfl, rfl⟩
  · exact ⟨rfl, rfl, rfl, rfl⟩
  · exact SameFiles.refl s
  · simp only [history]
    split <;> exact SameFiles.refl s
  · simp only [search]
    split <;> exact SameFiles.refl s
  · simp only [last]
    split <;> exact SameFiles.refl s
  · simp only [sessions]
    split <;> exact SameFiles.refl s
  · simp only [evaluate]
    split <;> exact SameFiles.refl s
  · exact SameFiles.refl s

theorem keeps_shell (hshell : ∀ n t, LeavesAlone a t (S.shell n args t).tree) (hne : ls ≠ [])
    (h : s.Keeps a id ls es) : (shell.run S args s).2.Keeps a id ls es := by
  simp only [shell]
  split
  · exact h
  · exact
      { log := h.log
        history := h.history
        archive := h.archive
        kept := h.kept.of_leavesAlone hne (hshell s.runs s.tree) }

theorem keeps_ask (hclock : ∀ n, (S.clock n).HasPlainYear) (h : s.Keeps a id ls es)
    (name description : String) (p : Persona) :
    ∃ more, AreAsides more ∧
      ((ask name description p).run S args s).2.Keeps a id ls (es ++ more) := by
  simp only [ask]
  split
  · exact ⟨[], areAsides_nil, by simpa using h⟩
  · exact h.ask hclock p args

theorem keeps_run {c : Command} (hc : c ∈ registry.commands)
    (hclock : ∀ n, (S.clock n).HasPlainYear)
    (hshell : c.name = "run" → ∀ n t, LeavesAlone a t (S.shell n args t).tree) (hne : ls ≠ [])
    (h : s.Keeps a id ls es) :
    ∃ more, AreAsides more ∧ (c.run S args s).2.Keeps a id ls (es ++ more) := by
  have hsame : SameFiles s (c.run S args s).2 →
      ∃ more, AreAsides more ∧ (c.run S args s).2.Keeps a id ls (es ++ more) := fun hs =>
    ⟨[], areAsides_nil, by simpa using h.of_sameFiles hs⟩
  rcases mem_registry hc with hc | ⟨entries, rfl⟩
  · rcases mem_commands hc with hquiet | rfl | rfl | rfl
    · exact hsame (sameFiles_of_mem_quiet hquiet)
    · exact ⟨[], areAsides_nil, by simpa using keeps_shell (hshell rfl) hne h⟩
    · exact keeps_ask hclock h _ _ _
    · exact keeps_ask hclock h _ _ _
  · exact hsame (SameFiles.refl s)

end Builtin

end Logbook
