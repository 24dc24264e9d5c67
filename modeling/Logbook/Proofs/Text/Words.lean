import Mathlib.Data.List.TakeWhile
import Mathlib.Tactic
import Logbook.Text.Basic

namespace Logbook.Text

/-- A text that is not empty and has no blank in it. -/
def IsWord (w : List Char) : Prop :=
  w ≠ [] ∧ ∀ c ∈ w, isBlank c = false

/-- A text with the words in order. Any number of blanks stands between neighbours, and there may be more at
both ends. -/
inductive Spaced : List (List Char) → List Char → Prop where
  | nil : Spaced [] []
  | blank {ws : List (List Char)} {cs : List Char} {c : Char} :
      isBlank c = true → Spaced ws cs → Spaced ws (c :: cs)
  | word {ws : List (List Char)} {w cs : List Char} :
      IsWord w → (∀ c ∈ cs.head?, isBlank c = true) → Spaced ws cs → Spaced (w :: ws) (w ++ cs)

theorem words_cons_of_isBlank {c : Char} (h : isBlank c = true) (cs : List Char) :
    words (c :: cs) = words cs := by
  simp [words, List.splitOnP_cons_eq_if_modifyHead, h]

theorem words_append {w cs : List Char} (hw : IsWord w) (hcs : ∀ c ∈ cs.head?, isBlank c = true) :
    words (w ++ cs) = w :: words cs := by
  cases cs with
  | nil =>
      rw [List.append_nil, words, List.splitOnP_eq_singleton hw.2]
      simp [hw.1, words]
  | cons c cs =>
      have hc : isBlank c = true := hcs c rfl
      rw [words_cons_of_isBlank hc, words, List.splitOnP_append_cons_of_forall_mem hw.2 _ hc,
        List.filter_cons_of_pos (by simpa using hw.1), words]

theorem spaced_words (cs : List Char) : Spaced (words cs) cs := by
  induction hlength : cs.length using Nat.strongRecOn generalizing cs with
  | ind n ih =>
      cases cs with
      | nil => exact Spaced.nil
      | cons c cs =>
          rw [List.length_cons] at hlength
          by_cases hc : isBlank c = true
          · rw [words_cons_of_isBlank hc]
            exact Spaced.blank hc (ih cs.length (by omega) cs rfl)
          · -- The word that starts here ends in front of the next blank.
            have hsplit := cs.takeWhile_append_dropWhile (p := fun c => !isBlank c)
            generalize hw : cs.takeWhile (fun c => !isBlank c) = w at hsplit
            generalize hrest : cs.dropWhile (fun c => !isBlank c) = rest at hsplit
            have hword : IsWord (c :: w) := by
              refine ⟨List.cons_ne_nil c w, fun d hd => ?_⟩
              rcases List.mem_cons.mp hd with rfl | hd
              · simpa using hc
              · rw [← hw] at hd
                simpa using List.mem_takeWhile_imp hd
            have hnext : ∀ d ∈ rest.head?, isBlank d = true := by
              intro d hd
              have := List.head?_dropWhile_not (fun c => !isBlank c) cs
              rw [hrest, hd] at this
              simpa using this
            rw [← hsplit, ← List.cons_append, words_append hword hnext]
            refine Spaced.word hword hnext (ih rest.length ?_ rest rfl)
            rw [← hsplit, List.length_append] at hlength
            omega

theorem words_eq_iff {ws : List (List Char)} {cs : List Char} : words cs = ws ↔ Spaced ws cs := by
  constructor
  · rintro rfl
    exact spaced_words cs
  · intro h
    induction h with
    | nil => rfl
    | blank hc _ ih => rw [words_cons_of_isBlank hc, ih]
    | word hw hcs _ ih => rw [words_append hw hcs, ih]

end Logbook.Text
