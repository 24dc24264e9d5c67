import Logbook.Persona
import Logbook.Proofs.Reply.Alias
import Logbook.Proofs.Reply.Length

namespace Logbook.Persona

open Reply

/-- The text in which a persona puts its name in the place of the model's. -/
def cutAnswer (p : Persona) (raw : String) : List Char :=
  let cs := stripLinks raw.toList
  cut p.profile.maxLines p.profile.maxChars (if p.profile.cleansReasoning then stripReasoning cs else cs)

theorem toList_shape (p : Persona) (raw : String) : (p.profile.shape raw).toList =
    finish (replaceAlias p.profile.aliases p.profile.displayName.toList 0 (p.cutAnswer raw)) := by
  rw [Profile.shape, String.toList_ofList]
  rfl

theorem isPlain_aliases (p : Persona) : p.profile.aliases.IsPlain := by
  cases p with
  | johny =>
      exact List.forall_mem_cons.mpr ⟨.cons (by decide) (.last (by decide)),
        List.forall_mem_cons.mpr ⟨.last (by decide), List.forall_mem_singleton.mpr (.last (by decide))⟩⟩
  | tony =>
      exact List.forall_mem_cons.mpr
        ⟨.cons (by decide) (.cons (by decide) (.last (by decide))),
          List.forall_mem_cons.mpr ⟨.cons (by decide) (.last (by decide)),
            List.forall_mem_singleton.mpr (.cons (by decide) (.last (by decide)))⟩⟩

theorem setsApart_displayName (p : Persona) :
    p.profile.aliases.SetsApart p.profile.displayName.toList := by
  cases p with
  | johny => exact ⟨by decide, 'J', "ohny".toList, rfl, by decide⟩
  | tony => exact ⟨by decide, 'T', "ony".toList, rfl, by decide⟩

theorem not_lineFeed_mem_displayName (p : Persona) : '\n' ∉ p.profile.displayName.toList := by
  cases p <;> decide

theorem replaced_cutAnswer (p : Persona) (raw : String) :
    Replaced p.profile.aliases p.profile.displayName.toList (p.cutAnswer raw)
      (replaceAlias p.profile.aliases p.profile.displayName.toList 0 (p.cutAnswer raw)) :=
  replaced_replaceAlias p.isPlain_aliases _ _

theorem not_names_append_truncationNotice (p : Persona) {cs w : List Char}
    (hcs : ∀ v, v <:+: cs → ¬Names p.profile.aliases v) (hw : w <:+: cs ++ truncationNotice.toList) :
    ¬Names p.profile.aliases w := by
  have hnotice : containsAlias p.profile.aliases truncationNotice.toList = false := by
    cases p <;> decide
  have hbracket : mayHold p.profile.aliases '[' = false := by
    cases p <;> decide
  intro hnames
  rcases List.infix_append_iff_ne_nil.mp hw with hbefore | hinside | ⟨v, u, -, hu, rfl, -, hbegins⟩
  · exact hcs w hbefore hnames
  · exact not_names_of_containsAlias p.isPlain_aliases hnotice w hinside hnames
  · -- A name that goes on into the notice ends in a blank or holds a bracket.
    obtain ⟨rest, hnotice⟩ : ∃ rest, truncationNotice.toList = ' ' :: '[' :: rest := ⟨_, rfl⟩
    rw [hnotice] at hbegins
    obtain ⟨u, rfl, hbehind⟩ := (List.prefix_cons_iff.mp hbegins).resolve_left hu
    rcases List.prefix_cons_iff.mp hbehind with rfl | ⟨u, rfl, -⟩
    · obtain ⟨c, hc, hseparator⟩ := hnames.exists_last p.isPlain_aliases
      obtain rfl : ' ' = c := by simpa using hc
      exact absurd hseparator (by decide)
    · rw [hnames.mayHold (by simp)] at hbracket
      simp at hbracket

theorem not_names_finish (p : Persona) {cs w : List Char}
    (hcs : ∀ v, v <:+: cs → ¬Names p.profile.aliases v) (hw : w <:+: finish cs) :
    ¬Names p.profile.aliases w := by
  have htrim : ∀ v, v <:+: Text.trimEnd cs → ¬Names p.profile.aliases v := fun v hv =>
    hcs v (hv.trans (Text.isPrefix_dropEndWhile Text.isBlank cs).isInfix)
  rcases finish_cases cs with ⟨heq, -⟩ | ⟨heq, -⟩
  · exact htrim w (heq ▸ hw)
  · exact p.not_names_append_truncationNotice htrim (heq ▸ hw)

/-- A shaped answer holds no name of the model, not in any case of its letters, has no more lines than
the persona gives it and no blank at either end, and unless it is empty, it ends a sentence or ends in the
notice. -/
theorem shape_guarantees (p : Persona) (raw : String) :
    let reply := (p.profile.shape raw).toList
    (∀ w, w <:+: reply → ¬Names p.profile.aliases w) ∧
    (Text.lines reply).length ≤ p.profile.maxLines ∧
    (∀ c, reply.head? = some c ∨ reply.getLast? = some c → Text.isBlank c = false) ∧
    (reply = [] ∨
      (∃ front c closers, reply = front ++ c :: closers ∧ (c = '.' ∨ c = '!' ∨ c = '?' ∨ c = '…') ∧
        ∀ d ∈ closers, isCloser d = true) ∨
      " [truncated]".toList <:+ reply) := by
  intro reply
  have hreplaced := p.replaced_cutAnswer raw
  have hreply : reply = finish _ := p.toList_shape raw
  generalize replaceAlias p.profile.aliases p.profile.displayName.toList 0 (p.cutAnswer raw) = ds
    at hreplaced hreply
  have hcount : reply.count '\n' ≤ (p.cutAnswer raw).count '\n' := by
    rw [hreply]
    exact (count_finish_le ds).trans (hreplaced.count_le p.not_lineFeed_mem_displayName)
  have hmost : (p.cutAnswer raw).count '\n' + 1 ≤ p.profile.maxLines := by
    rcases cut_eq_nil_or p.profile.maxLines p.profile.maxChars _ with hnil | hle
    · have hpos : 1 ≤ p.profile.maxLines := by cases p <;> decide
      rw [cutAnswer, hnil]
      exact hpos
    · exact hle
  refine ⟨fun w hw => ?_, ?_, fun c hc => ?_, hreply ▸ finish_ends ds⟩
  · exact p.not_names_finish
      (fun v hv => hreplaced.not_names p.isPlain_aliases p.setsApart_displayName hv) (hreply ▸ hw)
  · exact ((Text.length_lines_le reply).trans (Nat.succ_le_succ hcount)).trans hmost
  · rcases hc with hhead | hlast
    · refine not_isBlank_head?_finish (fun d hd => ?_) (hreply ▸ hhead)
      exact hreplaced.not_isBlank_head? p.setsApart_displayName (fun e he => not_isBlank_head?_cut he) hd
    · exact not_isBlank_getLast?_finish (hreply ▸ hlast)

end Logbook.Persona
