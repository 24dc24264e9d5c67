import Logbook.Proofs.Text.LineStart
import Logbook.Proofs.Text.Trim
import Logbook.Reply.Length

namespace Logbook.Reply

theorem isPrefix_beforeLastSpace (cs : List Char) : beforeLastSpace cs <+: cs := by
  rw [beforeLastSpace]
  split
  · rename_i behind before hsplit
    obtain ⟨hreverse, -⟩ := Text.of_splitFirst_eq_some hsplit
    refine ⟨' ' :: behind.reverse, ?_⟩
    rw [← List.reverse_reverse cs, hreverse]
    simp
  · exact List.prefix_rfl

theorem exists_cut_eq (maxLines maxChars : Nat) (cs : List Char) :
    ∃ front points, front <+: Text.joinWith ['\n'] ((Text.lines (Text.trim cs)).take maxLines) ∧
      (points = [] ∨ points = ['.', '.', '.']) ∧
        cut maxLines maxChars cs = Text.trim (front ++ points) := by
  rw [cut]
  split
  · exact ⟨_, [], List.prefix_rfl, Or.inl rfl, by rw [List.append_nil]⟩
  · exact ⟨_, _, (isPrefix_beforeLastSpace _).trans (List.take_prefix _ _), Or.inr rfl, rfl⟩

theorem cut_eq_nil_or (maxLines maxChars : Nat) (cs : List Char) :
    cut maxLines maxChars cs = [] ∨ (cut maxLines maxChars cs).count '\n' + 1 ≤ maxLines := by
  by_cases hnone : (Text.lines (Text.trim cs)).take maxLines = []
  · refine Or.inl ?_
    rw [cut, hnone]
    exact if_pos (Nat.zero_le maxChars)
  · obtain ⟨front, points, hfront, hpoints, hcut⟩ := exists_cut_eq maxLines maxChars cs
    refine Or.inr (hcut ▸ ?_)
    have hline : ∀ line ∈ (Text.lines (Text.trim cs)).take maxLines, '\n' ∉ line :=
      fun line hmem => Text.not_mem_of_mem_lines (List.mem_of_mem_take hmem)
    have hpointless : points.count '\n' = 0 := by
      rcases hpoints with rfl | rfl <;> decide
    calc (Text.trim (front ++ points)).count '\n' + 1
        ≤ (front ++ points).count '\n' + 1 :=
          Nat.succ_le_succ ((Text.isInfix_trim _).sublist.count_le _)
      _ = front.count '\n' + 1 := by rw [List.count_append, hpointless, Nat.add_zero]
      _ ≤ (Text.joinWith ['\n'] ((Text.lines (Text.trim cs)).take maxLines)).count '\n' + 1 :=
          Nat.succ_le_succ (hfront.sublist.count_le _)
      _ = ((Text.lines (Text.trim cs)).take maxLines).length := Text.count_joinWith hline hnone
      _ ≤ maxLines := List.length_take_le _ _

theorem finish_cases (cs : List Char) :
    (finish cs = Text.trimEnd cs ∧ (Text.trimEnd cs = [] ∨ isComplete (Text.trimEnd cs) = true)) ∨
      (finish cs = Text.trimEnd cs ++ truncationNotice.toList ∧ Text.trimEnd cs ≠ []) := by
  rw [finish]
  split
  · rename_i h
    exact Or.inl ⟨rfl, by simpa using h⟩
  · rename_i h
    refine Or.inr ⟨rfl, fun hnil => h ?_⟩
    simp [hnil]

theorem exists_of_isComplete {cs : List Char} (h : isComplete cs = true) :
    ∃ front c closers, cs = front ++ c :: closers ∧ (c = '.' ∨ c = '!' ∨ c = '?' ∨ c = '…') ∧
      ∀ d ∈ closers, isCloser d = true := by
  rw [isComplete] at h
  split at h
  · rename_i c before hdrop
    refine ⟨before.reverse, c, (cs.reverse.takeWhile isCloser).reverse, ?_, ?_, ?_⟩
    · have hsplit := List.takeWhile_append_dropWhile (p := isCloser) (l := cs.reverse)
      rw [hdrop] at hsplit
      simpa using congrArg List.reverse hsplit.symm
    · simpa [endsSentence, or_assoc] using h
    · intro d hd
      exact List.mem_takeWhile_imp (List.mem_reverse.mp hd)
  · simp at h

theorem count_finish_le (cs : List Char) : (finish cs).count '\n' ≤ cs.count '\n' := by
  have hcount : (Text.trimEnd cs).count '\n' ≤ cs.count '\n' :=
    (Text.isPrefix_dropEndWhile Text.isBlank cs).sublist.count_le _
  rcases finish_cases cs with ⟨heq, -⟩ | ⟨heq, -⟩
  · rwa [heq]
  · have hnotice : truncationNotice.toList.count '\n' = 0 := by decide
    rwa [heq, List.count_append, hnotice, Nat.add_zero]

theorem not_isBlank_head?_cut {maxLines maxChars : Nat} {cs : List Char} {c : Char}
    (hc : (cut maxLines maxChars cs).head? = some c) : Text.isBlank c = false := by
  obtain ⟨front, points, -, -, hcut⟩ := exists_cut_eq maxLines maxChars cs
  exact Text.of_head?_trim (hcut ▸ hc)

theorem not_isBlank_head?_finish {cs : List Char}
    (hcs : ∀ c, cs.head? = some c → Text.isBlank c = false) {c : Char}
    (hc : (finish cs).head? = some c) : Text.isBlank c = false := by
  have htrim : ∀ d, (Text.trimEnd cs).head? = some d → Text.isBlank d = false := by
    intro d hd
    obtain ⟨rest, hrest⟩ := List.head?_eq_some_iff.mp hd
    obtain ⟨more, hmore⟩ := Text.isPrefix_dropEndWhile Text.isBlank cs
    rw [← Text.trimEnd, hrest] at hmore
    exact hcs d (by rw [← hmore]; rfl)
  rcases finish_cases cs with ⟨heq, -⟩ | ⟨heq, hne⟩
  · exact htrim c (heq ▸ hc)
  · rw [heq, List.head?_append_of_ne_nil _ hne] at hc
    exact htrim c hc

theorem not_isBlank_getLast?_finish {cs : List Char} {c : Char}
    (hc : (finish cs).getLast? = some c) : Text.isBlank c = false := by
  rcases finish_cases cs with ⟨heq, -⟩ | ⟨heq, -⟩
  · exact Text.of_getLast?_dropEndWhile (heq ▸ hc)
  · have hnotice : truncationNotice.toList.getLast? = some ']' := by decide
    rw [heq, List.getLast?_append, hnotice] at hc
    obtain rfl : ']' = c := Option.some.inj hc
    decide

theorem finish_ends (cs : List Char) : finish cs = [] ∨
    (∃ front c closers, finish cs = front ++ c :: closers ∧ (c = '.' ∨ c = '!' ∨ c = '?' ∨ c = '…') ∧
      ∀ d ∈ closers, isCloser d = true) ∨
    truncationNotice.toList <:+ finish cs := by
  rcases finish_cases cs with ⟨heq, hnil | hcomplete⟩ | ⟨heq, -⟩
  · exact Or.inl (heq.trans hnil)
  · rw [heq]
    exact Or.inr (Or.inl (exists_of_isComplete hcomplete))
  · exact Or.inr (Or.inr ⟨_, heq.symm⟩)

end Logbook.Reply
