import Mathlib.Data.List.TakeWhile
import Logbook.Text.Basic

namespace Logbook.Text

variable {α : Type} [DecidableEq α]

theorem bne_of_not_mem {x : α} {xs : List α} (h : x ∉ xs) : ∀ y ∈ xs, (y != x) = true := by
  intro y hy
  rw [bne_iff_ne]
  rintro rfl
  exact h hy

theorem splitFirst_append_cons {x : α} {before : List α} (h : x ∉ before) (rest : List α) :
    splitFirst x (before ++ x :: rest) = some (before, rest) := by
  have hne := bne_of_not_mem h
  simp only [splitFirst]
  rw [List.dropWhile_append_of_pos hne, List.takeWhile_append_of_pos hne]
  simp

theorem of_splitFirst_eq_some {x : α} {xs before rest : List α}
    (h : splitFirst x xs = some (before, rest)) : xs = before ++ x :: rest ∧ x ∉ before := by
  simp only [splitFirst] at h
  split at h
  · simp at h
  · rename_i y tail hdrop
    obtain ⟨rfl, rfl⟩ : xs.takeWhile (· != x) = before ∧ tail = rest := by simpa using h
    have hy : y = x := by
      have hhead := List.head?_dropWhile_not (· != x) xs
      rw [hdrop] at hhead
      simpa using hhead
    subst hy
    refine ⟨?_, fun hmem => ?_⟩
    · rw [← hdrop, List.takeWhile_append_dropWhile]
    · have hne := List.mem_takeWhile_imp hmem
      simp at hne

theorem splitBlank_append_cons {word : List Char} (hword : ∀ c ∈ word, isBlank c = false) {blank : Char}
    (hblank : isBlank blank = true) (rest : List Char) :
    splitBlank (word ++ blank :: rest) = some (word, rest) := by
  have hnot : ∀ c ∈ word, (!isBlank c) = true := fun c hc => by simp [hword c hc]
  simp only [splitBlank]
  rw [List.dropWhile_append_of_pos hnot, List.takeWhile_append_of_pos hnot]
  simp [hblank]

theorem splitBlank_of_not_isBlank {cs : List Char} (h : ∀ c ∈ cs, isBlank c = false) :
    splitBlank cs = none := by
  have hdrop : cs.dropWhile (fun c => !isBlank c) = [] := by
    rw [List.dropWhile_eq_nil_iff]
    intro c hc
    simp [h c hc]
  rw [splitBlank, hdrop]

theorem of_splitBlank_eq_some {cs word rest : List Char} (h : splitBlank cs = some (word, rest)) :
    ∃ blank, cs = word ++ blank :: rest ∧ isBlank blank = true := by
  simp only [splitBlank] at h
  split at h
  · simp at h
  · rename_i blank tail hdrop
    obtain ⟨rfl, rfl⟩ : cs.takeWhile (fun c => !isBlank c) = word ∧ tail = rest := by simpa using h
    refine ⟨blank, ?_, ?_⟩
    · rw [← hdrop, List.takeWhile_append_dropWhile]
    · have hhead := List.head?_dropWhile_not (fun c => !isBlank c) cs
      rw [hdrop] at hhead
      simpa using hhead

theorem cutLines_append_cons {x : α} {line : List α} (h : x ∉ line) (rest : List α) :
    cutLines x (line ++ x :: rest) = (line :: (cutLines x rest).1, (cutLines x rest).2) := by
  have hne : rest.splitOn x ≠ [] := List.splitOn_ne_nil x rest
  simp only [cutLines, List.splitOn_append_cons_self_of_not_mem h,
    List.dropLast_cons_of_ne_nil hne]
  cases hrest : rest.splitOn x with
  | nil => exact absurd hrest hne
  | cons piece pieces => rfl

theorem cutLines_of_not_mem {x : α} {line : List α} (h : x ∉ line) : cutLines x line = ([], line) := by
  simp [cutLines, List.splitOn_eq_singleton h]

theorem linesBy_nil (x : α) : linesBy x [] = [] := by
  simp [linesBy, cutLines_of_not_mem]

theorem linesBy_append_cons {x : α} {line : List α} (h : x ∉ line) (rest : List α) :
    linesBy x (line ++ x :: rest) = line :: linesBy x rest := by
  simp only [linesBy, cutLines_append_cons h]
  split <;> rfl

theorem linesBy_flatMap {x : α} {lines : List (List α)} (h : ∀ line ∈ lines, x ∉ line) :
    linesBy x (lines.flatMap (· ++ [x])) = lines := by
  induction lines with
  | nil => exact linesBy_nil x
  | cons line lines ih =>
      rw [List.flatMap_cons, List.append_assoc, List.singleton_append,
        linesBy_append_cons (h line (by simp)), ih fun l hl => h l (by simp [hl])]

theorem lines_append_cons {line : List Char} (h : '\n' ∉ line) (rest : List Char) :
    lines (line ++ '\n' :: rest) = dropCarriageReturn line :: lines rest := by
  simp only [lines, cutLines_append_cons h, List.map_cons]
  split <;> rfl

theorem lines_flatMap {ls : List (List Char)} (hline : ∀ line ∈ ls, '\n' ∉ line)
    (hreturn : ∀ line ∈ ls, line.getLast? ≠ some '\r') : lines (ls.flatMap (· ++ ['\n'])) = ls := by
  induction ls with
  | nil => rfl
  | cons line ls ih =>
      rw [List.flatMap_cons, List.append_assoc, List.singleton_append,
        lines_append_cons (hline line (by simp)), dropCarriageReturn,
        if_neg (hreturn line (by simp))]
      exact congrArg (line :: ·)
        (ih (fun l hl => hline l (by simp [hl])) fun l hl => hreturn l (by simp [hl]))

theorem linesBy_of_not_mem {x : α} {line : List α} (hne : line ≠ []) (h : x ∉ line) :
    linesBy x line = [line] := by
  rw [linesBy, cutLines_of_not_mem h]
  simp [hne]

theorem lines_of_not_mem {line : List Char} (hne : line ≠ []) (h : '\n' ∉ line) :
    lines line = [line] := by
  rw [lines, cutLines_of_not_mem h]
  simp [hne]

/-- The lines of a sequence: its pieces between the ends of lines, where a last piece without an end is a
line unless it is empty. -/
inductive HasLines (x : α) : List α → List (List α) → Prop where
  | nil : HasLines x [] []
  | last {line : List α} : line ≠ [] → x ∉ line → HasLines x line [line]
  | cons {line rest : List α} {lines : List (List α)} :
      x ∉ line → HasLines x rest lines → HasLines x (line ++ x :: rest) (line :: lines)

theorem hasLines_linesBy (x : α) (xs : List α) : HasLines x xs (linesBy x xs) := by
  cases h : splitFirst x xs with
  | none =>
      have hnot : x ∉ xs := by
        intro hmem
        obtain ⟨before, rest, rfl, hbefore⟩ := List.eq_append_cons_of_mem hmem
        simp [splitFirst_append_cons hbefore] at h
      by_cases hne : xs = []
      · rw [hne, linesBy_nil]
        exact HasLines.nil
      · rw [linesBy_of_not_mem hne hnot]
        exact HasLines.last hne hnot
  | some cut =>
      obtain ⟨hxs, hnot⟩ := of_splitFirst_eq_some h
      have hlt : cut.2.length < xs.length := by
        rw [hxs, List.length_append, List.length_cons]
        omega
      rw [hxs, linesBy_append_cons hnot]
      exact HasLines.cons hnot (hasLines_linesBy x cut.2)
termination_by xs.length

omit [DecidableEq α] in
theorem HasLines.not_mem {x : α} {xs : List α} {lines : List (List α)} (h : HasLines x xs lines) :
    ∀ line ∈ lines, x ∉ line := by
  induction h with
  | nil => simp
  | last _ hnot => simpa using hnot
  | cons hnot _ ih => simpa [hnot] using ih

theorem linesBy_append {x : α} {xs : List α} (h : xs = [] ∨ xs.getLast? = some x) (ys : List α) :
    linesBy x (xs ++ ys) = linesBy x xs ++ linesBy x ys := by
  have hlines := hasLines_linesBy x xs
  generalize linesBy x xs = lines at hlines
  induction hlines with
  | nil => rfl
  | last hne hnot =>
      rcases h with hnil | hlast
      · exact absurd hnil hne
      · exact absurd (List.mem_of_getLast? hlast) hnot
  | cons hnot _ ih =>
      rename_i line rest lines _
      have hrest : rest = [] ∨ rest.getLast? = some x := by
        rcases h with hnil | hlast
        · simp at hnil
        · cases rest with
          | nil => exact Or.inl rfl
          | cons first rest =>
              rw [List.getLast?_append, List.getLast?_cons_cons] at hlast
              exact Or.inr (by simpa using hlast)
      rw [List.append_assoc, List.cons_append, linesBy_append_cons hnot, ih hrest, List.cons_append]

theorem splitOn_eq_linesBy (x : α) (xs : List α) :
    xs.splitOn x = linesBy x xs ∨ xs.splitOn x = linesBy x xs ++ [[]] := by
  have hne : xs.splitOn x ≠ [] := List.splitOn_ne_nil x xs
  have hpieces : xs.splitOn x = (cutLines x xs).1 ++ [(cutLines x xs).2] := by
    rw [cutLines, List.getLastD_eq_getLast?, List.getLast?_eq_some_getLast hne]
    exact (List.dropLast_concat_getLast hne).symm
  rw [hpieces, linesBy]
  dsimp only
  split
  · rename_i hempty
    rw [List.isEmpty_iff.mp hempty]
    exact Or.inr rfl
  · exact Or.inl rfl

theorem linesBy_eq_iff {x : α} {xs : List α} {lines : List (List α)} :
    linesBy x xs = lines ↔ HasLines x xs lines := by
  constructor
  · rintro rfl
    exact hasLines_linesBy x xs
  · intro h
    induction h with
    | nil => exact linesBy_nil x
    | last hne hnot => exact linesBy_of_not_mem hne hnot
    | cons hnot _ ih => rw [linesBy_append_cons hnot, ih]

end Logbook.Text
