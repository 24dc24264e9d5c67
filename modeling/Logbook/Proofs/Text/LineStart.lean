import Mathlib.Tactic
import Logbook.Proofs.Text.Cut

namespace Logbook.Text

/-- Whether a line starts behind a text: nothing, or the end of a line. -/
def StartsLine (before : List Char) : Prop :=
  before = [] ∨ before.getLast? = some '\n'

theorem startsLine_nil : StartsLine [] :=
  Or.inl rfl

theorem startsLine_append_lineFeed {line before : List Char} (h : StartsLine before) :
    StartsLine (line ++ '\n' :: before) := by
  rcases h with rfl | hlast
  · exact Or.inr (by simp)
  · exact Or.inr (by simp [List.getLast?_append, List.getLast?_cons, hlast])

theorem StartsLine.eq_nil_or {line before after rest : List Char} (hline : '\n' ∉ line)
    (h : StartsLine before) (heq : line ++ '\n' :: after = before ++ rest) :
    before = [] ∨ ∃ before', before = line ++ '\n' :: before' ∧ StartsLine before' ∧
      after = before' ++ rest := by
  rcases h with rfl | hlast
  · exact Or.inl rfl
  have hmem : '\n' ∈ before := List.mem_of_getLast? hlast
  rcases List.append_eq_append_iff.mp heq with ⟨behind, rfl, hbehind⟩ | ⟨behind, rfl, -⟩
  · rcases List.cons_eq_append_iff.mp hbehind with ⟨rfl, -⟩ | ⟨before', rfl, rfl⟩
    · exact absurd (by simpa using hmem) hline
    · refine Or.inr ⟨before', rfl, ?_, rfl⟩
      cases before' with
      | nil => exact startsLine_nil
      | cons c before' => exact Or.inr (by simpa [List.getLast?_append] using hlast)
  · exact absurd (List.mem_append_left behind hmem) hline

theorem StartsLine.eq_nil {before rest : List Char} (h : StartsLine before)
    (hline : '\n' ∉ before ++ rest) : before = [] := by
  rcases h with rfl | hlast
  · rfl
  · exact absurd (List.mem_append_left rest (List.mem_of_getLast? hlast)) hline

theorem StartsLine.exists_eq_append {cs us before rest : List Char} (h : StartsLine before)
    (hus : '\n' ∉ us) (heq : cs ++ us = before ++ rest) :
    ∃ between, cs = before ++ between ∧ rest = between ++ us := by
  rcases List.append_eq_append_iff.mp heq with ⟨behind, rfl, rfl⟩ | ⟨between, rfl, rfl⟩
  · cases behind with
    | nil => exact ⟨[], by simp, by simp⟩
    | cons c behind =>
        have hlast := h.resolve_left (by simp)
        have hmem : '\n' ∈ c :: behind := by
          rw [List.getLast?_append_of_ne_nil _ (List.cons_ne_nil c behind)] at hlast
          exact List.mem_of_getLast? hlast
        exact absurd (List.mem_append_left rest hmem) hus
  · exact ⟨between, rfl, rfl⟩

theorem exists_of_joinWith_eq {ls : List (List Char)} (hline : ∀ line ∈ ls, '\n' ∉ line)
    {before rest : List Char} (hstart : StartsLine before)
    (heq : joinWith ['\n'] ls = before ++ rest) :
    rest = [] ∨ ∃ line ∈ ls, rest = line ∨ ∃ more, rest = line ++ '\n' :: more := by
  induction ls generalizing before with
  | nil => exact Or.inl (List.append_eq_nil_iff.mp heq.symm).2
  | cons line ls ih =>
      rw [List.forall_mem_cons] at hline
      cases ls with
      | nil =>
          rw [joinWith, List.intercalate_singleton] at heq
          obtain rfl := hstart.eq_nil (heq ▸ hline.1)
          exact Or.inr ⟨line, List.mem_cons_self, Or.inl heq.symm⟩
      | cons line' ls =>
          rw [joinWith, List.intercalate_cons_cons, List.append_assoc, List.singleton_append] at heq
          rcases hstart.eq_nil_or hline.1 heq with rfl | ⟨before', rfl, hstart', heq'⟩
          · exact Or.inr ⟨line, List.mem_cons_self, Or.inr ⟨_, heq.symm⟩⟩
          · refine (ih hline.2 hstart' heq').imp_right ?_
            rintro ⟨l, hl, hrest⟩
            exact ⟨l, List.mem_cons_of_mem _ hl, hrest⟩

theorem count_joinWith {ls : List (List Char)} (hline : ∀ line ∈ ls, '\n' ∉ line) (hne : ls ≠ []) :
    (joinWith ['\n'] ls).count '\n' + 1 = ls.length := by
  induction ls with
  | nil => exact absurd rfl hne
  | cons line ls ih =>
      rw [List.forall_mem_cons] at hline
      have hzero : line.count '\n' = 0 := List.count_eq_zero.mpr hline.1
      cases ls with
      | nil => simp [joinWith, hzero]
      | cons line' ls =>
          have hrest := ih hline.2 (List.cons_ne_nil _ _)
          rw [joinWith] at hrest ⊢
          rw [List.intercalate_cons_cons, List.count_append, List.count_append, List.count_singleton_self,
            List.length_cons, ← hrest, hzero]
          omega

theorem exists_startsLine_of_hasLines {cs : List Char} {ls : List (List Char)} (h : HasLines '\n' cs ls)
    {line : List Char} (hline : line ∈ ls) : ∃ before rest, cs = before ++ (line ++ rest) ∧
      StartsLine before ∧ (rest = [] ∨ ∃ more, rest = '\n' :: more) := by
  induction h with
  | nil => simp at hline
  | last _ _ =>
      obtain rfl := List.mem_singleton.mp hline
      exact ⟨[], [], by simp, startsLine_nil, Or.inl rfl⟩
  | @cons line' rest ls _ _ ih =>
      rcases List.mem_cons.mp hline with rfl | hline
      · exact ⟨[], '\n' :: rest, rfl, startsLine_nil, Or.inr ⟨rest, rfl⟩⟩
      · obtain ⟨before, rest', rfl, hstart, hrest'⟩ := ih hline
        exact ⟨line' ++ '\n' :: before, rest', by simp, startsLine_append_lineFeed hstart, hrest'⟩

theorem length_le_of_hasLines {cs : List Char} {ls : List (List Char)} (h : HasLines '\n' cs ls) :
    ls.length ≤ cs.count '\n' + 1 := by
  induction h with
  | nil => simp
  | last _ _ => simp
  | cons _ _ ih =>
      rw [List.count_append, List.count_cons_self, List.length_cons]
      omega

theorem eq_dropCarriageReturn_or (line : List Char) :
    line = dropCarriageReturn line ∨ line = dropCarriageReturn line ++ ['\r'] := by
  rw [dropCarriageReturn]
  split
  · rename_i hlast
    exact Or.inr (List.dropLast_append_getLast? '\r' hlast).symm
  · exact Or.inl rfl

theorem exists_linesBy_of_mem_lines {cs line : List Char} (h : line ∈ lines cs) :
    ∃ l ∈ linesBy '\n' cs, l = line ∨ l = line ++ ['\r'] := by
  simp only [lines] at h
  simp only [linesBy]
  split at h
  · obtain ⟨l, hl, rfl⟩ := List.mem_map.mp h
    rename_i hempty
    exact ⟨l, by simpa [hempty] using hl, eq_dropCarriageReturn_or l⟩
  · rename_i hempty
    rw [if_neg hempty]
    rcases List.mem_append.mp h with hmap | hlast
    · obtain ⟨l, hl, rfl⟩ := List.mem_map.mp hmap
      exact ⟨l, List.mem_append_left _ hl, eq_dropCarriageReturn_or l⟩
    · exact ⟨line, List.mem_append_right _ hlast, Or.inl rfl⟩

theorem length_lines (cs : List Char) : (lines cs).length = (linesBy '\n' cs).length := by
  simp only [lines, linesBy]
  split <;> simp

theorem length_lines_le (cs : List Char) : (lines cs).length ≤ cs.count '\n' + 1 := by
  rw [length_lines]
  exact length_le_of_hasLines (hasLines_linesBy '\n' cs)

theorem not_mem_of_mem_lines {cs line : List Char} (h : line ∈ lines cs) : '\n' ∉ line := by
  obtain ⟨l, hl, heq⟩ := exists_linesBy_of_mem_lines h
  have hnot := (hasLines_linesBy '\n' cs).not_mem l hl
  rcases heq with rfl | rfl
  · exact hnot
  · exact fun hmem => hnot (List.mem_append_left _ hmem)

theorem isPrefix_of_append_cons {α : Type} {w xs ys : List α} {y : α} (hy : y ∉ w)
    (h : w <+: xs ++ y :: ys) : w <+: xs := by
  rcases List.prefix_or_prefix_of_prefix h (List.prefix_append xs (y :: ys)) with hxs | ⟨rest, rfl⟩
  · exact hxs
  · cases rest with
    | nil => simp
    | cons z rest =>
        obtain ⟨rfl, -⟩ := List.cons_prefix_cons.mp ((List.prefix_append_right_inj xs).mp h)
        exact absurd (by simp) hy

theorem exists_startsLine_of_mem_lines {cs line : List Char} (h : line ∈ lines cs) :
    ∃ before rest, cs = before ++ (line ++ rest) ∧ StartsLine before ∧
      ∀ w, '\n' ∉ w → '\r' ∉ w → w <+: line ++ rest → w <+: line := by
  obtain ⟨l, hl, heq⟩ := exists_linesBy_of_mem_lines h
  obtain ⟨before, rest, hcs, hstart, hrest⟩ :=
    exists_startsLine_of_hasLines (hasLines_linesBy '\n' cs) hl
  have hline : ∀ w, '\n' ∉ w → w <+: l ++ rest → w <+: l := by
    intro w hw hbegins
    rcases hrest with rfl | ⟨more, rfl⟩
    · rwa [List.append_nil] at hbegins
    · exact isPrefix_of_append_cons hw hbegins
  rcases heq with rfl | rfl
  · exact ⟨before, rest, hcs, hstart, fun w hw _ hbegins => hline w hw hbegins⟩
  · refine ⟨before, '\r' :: rest, by simpa using hcs, hstart, fun w _ hw hbegins => ?_⟩
    exact isPrefix_of_append_cons hw hbegins

theorem exists_lines_eq_cons {c : Char} (hc : isBlank c = false) (cs : List Char) :
    ∃ line ls, lines (c :: cs) = (c :: line) :: ls := by
  have hfeed : '\n' ≠ c := by
    rintro rfl
    exact absurd hc (by decide)
  have hreturn : c ≠ '\r' := by
    rintro rfl
    exact absurd hc (by decide)
  by_cases hmem : '\n' ∈ cs
  · obtain ⟨before, rest, rfl, hbefore⟩ := List.eq_append_cons_of_mem hmem
    have hlines := lines_append_cons (List.not_mem_cons_of_ne_of_not_mem hfeed hbefore) rest
    have hcut := eq_dropCarriageReturn_or (c :: before)
    rw [List.cons_append] at hlines
    cases hdrop : dropCarriageReturn (c :: before) with
    | nil =>
        rw [hdrop] at hcut
        simp [hreturn] at hcut
    | cons d line =>
        obtain rfl : c = d := by
          rw [hdrop] at hcut
          simpa using hcut.imp (fun h => (List.cons.inj h).1) fun h => (List.cons.inj h).1
        exact ⟨line, lines rest, by rw [hlines, hdrop]⟩
  · exact ⟨cs, [], by simp [lines, cutLines_of_not_mem (List.not_mem_cons_of_ne_of_not_mem hfeed hmem)]⟩

theorem head?_joinWith_cons (c : Char) (line : List Char) (ls : List (List Char)) :
    (joinWith ['\n'] ((c :: line) :: ls)).head? = some c := by
  cases ls with
  | nil => rfl
  | cons line' ls => rw [joinWith, List.intercalate_cons_cons]; rfl

theorem not_isBlank_head?_joinWith {ls : List (List Char)} (hne : ∀ line ∈ ls, line ≠ [])
    (hhead : ∀ line ∈ ls, ∀ c, line.head? = some c → isBlank c = false) {c : Char}
    (hc : (joinWith ['\n'] ls).head? = some c) : isBlank c = false := by
  cases ls with
  | nil => simp [joinWith] at hc
  | cons line ls =>
      obtain ⟨d, line, rfl⟩ := List.exists_cons_of_ne_nil (hne line List.mem_cons_self)
      rw [head?_joinWith_cons] at hc
      exact hhead (d :: line) List.mem_cons_self c hc

theorem not_isBlank_head?_joinWith_take {cs : List Char} {n : Nat}
    (hhead : ∀ c, cs.head? = some c → isBlank c = false) {c : Char}
    (hc : (joinWith ['\n'] ((lines cs).take n)).head? = some c) : isBlank c = false := by
  cases cs with
  | nil => simp [joinWith, lines, cutLines] at hc
  | cons d cs =>
      have hd : isBlank d = false := hhead d rfl
      obtain ⟨line, ls, hlines⟩ := exists_lines_eq_cons hd cs
      cases n with
      | zero => simp [joinWith] at hc
      | succ n =>
          rw [hlines, List.take_succ_cons, head?_joinWith_cons] at hc
          exact Option.some.inj hc ▸ hd

end Logbook.Text
