import Logbook.Proofs.Search.Recent
import Logbook.Proofs.Session.Asides
import Logbook.Proofs.Text.Decoding
import Logbook.Session.Turn

namespace Logbook.Session

/-- The commands among lines: they are trimmed, blank ones do not count, and the first one that ends the
session is not reached. -/
def typed (raws : List String) : List String :=
  (((raws.map fun raw => Text.trim raw.toList).filter fun cs => !cs.isEmpty).takeWhile fun cs =>
    !endsSession cs).map String.ofList

theorem typed_cons_of_blank {raw : String} (h : Text.trim raw.toList = []) (raws : List String) :
    typed (raw :: raws) = typed raws := by
  simp [typed, h]

theorem typed_cons_of_ends {raw : String} (hne : Text.trim raw.toList ≠ [])
    (h : endsSession (Text.trim raw.toList) = true) (raws : List String) :
    typed (raw :: raws) = [] := by
  simp [typed, hne, h]

theorem typed_cons {raw : String} (hne : Text.trim raw.toList ≠ [])
    (h : endsSession (Text.trim raw.toList) = false) (raws : List String) :
    typed (raw :: raws) = String.ofList (Text.trim raw.toList) :: typed raws := by
  simp [typed, hne, h]

theorem typed_concat_of_blank {raw : String} (h : Text.trim raw.toList = []) (raws : List String) :
    typed (raws ++ [raw]) = typed raws := by
  simp [typed, List.filter_append, h]

theorem isCommand_trim {raw : String} (hline : '\n' ∉ Text.trim raw.toList)
    (hne : Text.trim raw.toList ≠ []) :
    History.IsCommand (String.ofList (Text.trim raw.toList)) where
  ne_empty := by simpa using hne
  lineFeed := by
    rw [String.toList_ofList]
    exact hline
  last := by
    rw [String.toList_ofList]
    intro c
    exact Text.of_getLast?_trim

variable {a : Archive} {id : SessionId} {ls : List String} {es : List (String × String)}
  {s : Session} {S : Surroundings} (persona : Option Persona)

/-- A shell command that a line calls leaves the files of the session alone. -/
def IsHarmless (S : Surroundings) (a : Archive) (line : String) : Prop :=
  ∀ args, Command.split line = ("run", args) → ∀ n t, LeavesAlone a t (S.shell n args t).tree

theorem keeps_answerTo {line : String} (hclock : ∀ n, (S.clock n).HasPlainYear)
    (hshell : IsHarmless S a line) (hne : ls ≠ []) (h : s.Keeps a id ls es) :
    ∃ more, AreAsides more ∧
      (answerTo Builtin.registry S persona line s).2.Keeps a id ls (es ++ more) := by
  have hnothing : ∃ more, AreAsides more ∧ s.Keeps a id ls (es ++ more) :=
    ⟨[], areAsides_nil, by simpa using h⟩
  simp only [answerTo]
  split
  · simp only [Registry.dispatch]
    split
    · rename_i c hc
      obtain ⟨hmem, hname⟩ := Registry.of_get?_eq_some hc
      refine Builtin.keeps_run hmem hclock (fun hrun => hshell _ ?_) hne h
      rw [← hrun, hname]
    · exact hnothing
  · split
    · rename_i p
      exact h.ask hclock p line
    · exact hnothing

theorem userTexts_of_areAsides {es : List (String × String)} (h : AreAsides es) :
    Archive.userTexts es = [] := by
  rw [Archive.userTexts, List.filterMap_eq_nil_iff]
  intro e he
  exact if_neg (h e he).1

theorem userTexts_cons_user (text : String) (es : List (String × String)) :
    Archive.userTexts ((Tag.user, text) :: es) = text :: Archive.userTexts es := by
  simp [Archive.userTexts]

theorem handle_of_blank {raw : String} (r : Registry) (h : Text.trim raw.toList = []) :
    s.handle r S persona raw = (.skip, s) := by
  simp [handle, h]

theorem handle_of_ends {raw : String} (r : Registry) (hne : Text.trim raw.toList ≠ [])
    (h : endsSession (Text.trim raw.toList) = true) :
    s.handle r S persona raw = (.exit, s) := by
  simp [handle, hne, h]

theorem handle_of_command {raw : String} (r : Registry) (hne : Text.trim raw.toList ≠ [])
    (h : endsSession (Text.trim raw.toList) = false) :
    s.handle r S persona raw =
      let line := String.ofList (Text.trim raw.toList)
      let result := answerTo r S persona line
        (record S Tag.user line { s with tree := s.history.append line s.tree })
      (.answered result.1,
        if result.1.recorded then result.2 else result.2.record S Tag.assistant result.1.text) := by
  simp only [handle, List.isEmpty_iff, hne, h, if_false, Bool.false_eq_true]

theorem Keeps.append_history (h : s.Keeps a id ls es) {line : String} (hline : History.IsCommand line)
    (hstart : ls = [] → HistoryCanStart s.tree a.historyFile) :
    Keeps a id (ls ++ [line]) es { s with tree := s.history.append line s.tree } where
  log := h.log
  history := h.history
  archive := h.archive
  kept := by
    rw [h.history]
    exact h.kept.append_history hline hstart

theorem keeps_handle {raw : String} (hclock : ∀ n, (S.clock n).HasPlainYear)
    (hline : '\n' ∉ Text.trim raw.toList) (hne : Text.trim raw.toList ≠ [])
    (hends : endsSession (Text.trim raw.toList) = false)
    (hshell : IsHarmless S a (String.ofList (Text.trim raw.toList)))
    (hstart : ls = [] → HistoryCanStart s.tree a.historyFile) (h : s.Keeps a id ls es) :
    ∃ answer s' more, s.handle Builtin.registry S persona raw = (.answered answer, s') ∧
      AreAsides more ∧ s'.Keeps a id (ls ++ [String.ofList (Text.trim raw.toList)])
        (es ++ (Tag.user, String.ofList (Text.trim raw.toList)) :: more) := by
  rw [handle_of_command persona _ hne hends]
  have hcommand := isCommand_trim hline hne
  generalize String.ofList (Text.trim raw.toList) = line at *
  have htyped := (h.append_history hcommand hstart).record hclock Record.validTag_user line
  obtain ⟨more, hmore, hanswered⟩ := keeps_answerTo persona hclock hshell (by simp) htyped
  dsimp only
  generalize hresult : answerTo Builtin.registry S persona line
    (record S Tag.user line { s with tree := s.history.append line s.tree }) = result at *
  obtain ⟨answer, t⟩ := result
  rw [List.append_assoc, List.singleton_append] at hanswered
  cases hrecorded : answer.recorded with
  | true => exact ⟨answer, t, more, by simp, hmore, hanswered⟩
  | false =>
      refine ⟨answer, t.record S Tag.assistant answer.text,
        more ++ [(Tag.assistant, answer.text)], by simp, ?_, ?_⟩
      · apply areAsides_append hmore
        simp [AreAsides, Tag.assistant, Tag.user, Tag.session]
      · have hassistant := hanswered.record hclock Record.validTag_assistant answer.text
        rwa [List.append_assoc, List.cons_append] at hassistant

theorem keeps_runLines (hclock : ∀ n, (S.clock n).HasPlainYear) {raws : List String}
    (hlines : ∀ raw ∈ raws, '\n' ∉ raw.toList) (hshell : ∀ line ∈ typed raws, IsHarmless S a line)
    (hstart : ls = [] → typed raws ≠ [] → HistoryCanStart s.tree a.historyFile)
    (h : s.Keeps a id ls es) :
    ∃ more, Archive.userTexts more = typed raws ∧ (∀ e ∈ more, e.1 ≠ Tag.session) ∧
      (runLines Builtin.registry S persona raws s).Keeps a id (ls ++ typed raws) (es ++ more) := by
  induction raws generalizing s ls es with
  | nil => exact ⟨[], rfl, by simp, by simpa [typed, runLines] using h⟩
  | cons raw raws ih =>
      have hline : '\n' ∉ Text.trim raw.toList := by
        intro hmem
        exact hlines raw (by simp) (Text.mem_of_mem_trim hmem)
      have hrest : ∀ raw ∈ raws, '\n' ∉ raw.toList := fun raw hraw => hlines raw (by simp [hraw])
      rw [runLines]
      by_cases hblank : Text.trim raw.toList = []
      · rw [typed_cons_of_blank hblank] at hshell hstart ⊢
        rw [handle_of_blank persona _ hblank]
        exact ih hrest hshell hstart h
      cases hends : endsSession (Text.trim raw.toList) with
      | true =>
          rw [typed_cons_of_ends hblank hends, handle_of_ends persona _ hblank hends]
          exact ⟨[], rfl, by simp, by simpa using h⟩
      | false =>
          rw [typed_cons hblank hends] at hshell hstart ⊢
          obtain ⟨answer, t, more, hhandle, hmore, ht⟩ := keeps_handle persona hclock hline hblank
            hends (hshell _ (by simp)) (fun hls => hstart hls (by simp)) h
          rw [hhandle]
          have hshown : Keeps a id (ls ++ [String.ofList (Text.trim raw.toList)])
              (es ++ (Tag.user, String.ofList (Text.trim raw.toList)) :: more)
              (t.showAnswer answer) := by
            apply ht.of_sameFiles
            rw [showAnswer]
            split <;> exact ⟨rfl, rfl, rfl, rfl⟩
          obtain ⟨later, htexts, hlater, hkeeps⟩ := ih hrest
            (fun line hmem => hshell line (by simp [hmem])) (by simp) hshown
          refine ⟨(Tag.user, String.ofList (Text.trim raw.toList)) :: (more ++ later), ?_, ?_, ?_⟩
          · rw [userTexts_cons_user, Archive.userTexts_append, userTexts_of_areAsides hmore,
              List.nil_append, htexts]
          · intro e he
            rcases List.mem_cons.mp he with rfl | he
            · simp [Tag.user, Tag.session]
            · exact (List.mem_append.mp he).elim (fun hmem => (hmore e hmem).2) (hlater e)
          · rw [List.append_assoc, List.singleton_append, List.append_assoc, List.cons_append] at hkeeps
            exact hkeeps

end Logbook.Session
