import Mathlib.Data.List.DropRight
import Mathlib.Tactic
import Logbook.Text.Basic

namespace Logbook.Text

theorem isPrefix_dropEndWhile {α : Type} (p : α → Bool) (xs : List α) :
    dropEndWhile p xs <+: xs := by
  rw [dropEndWhile, ← List.reverse_suffix, List.reverse_reverse]
  exact List.dropWhile_suffix p

theorem of_getLast?_dropEndWhile {α : Type} {p : α → Bool} {xs : List α} {x : α}
    (h : (dropEndWhile p xs).getLast? = some x) : p x = false := by
  rw [dropEndWhile, List.getLast?_reverse] at h
  have hhead := List.head?_dropWhile_not p xs.reverse
  rw [h] at hhead
  simpa using hhead

theorem dropEndWhile_of_getLast? {α : Type} {p : α → Bool} {xs : List α}
    (h : ∀ x, xs.getLast? = some x → p x = false) : dropEndWhile p xs = xs := by
  rw [dropEndWhile]
  cases hxs : xs.reverse with
  | nil => simpa using hxs.symm
  | cons x rest =>
      have hlast : xs.getLast? = some x := by rw [← List.head?_reverse, hxs, List.head?_cons]
      rw [List.dropWhile_cons_of_neg (by simp [h x hlast]), ← hxs, List.reverse_reverse]

theorem of_getLast?_trim {cs : List Char} {c : Char} (h : (trim cs).getLast? = some c) :
    isBlank c = false := by
  obtain ⟨before, hbefore⟩ := List.dropWhile_suffix isBlank (l := trimEnd cs)
  have hlast : (dropEndWhile isBlank cs).getLast? = some c := by
    rw [trim, trimStart] at h
    rw [← trimEnd, ← hbefore, List.getLast?_append, h]
    rfl
  exact of_getLast?_dropEndWhile hlast

theorem of_head?_trim {cs : List Char} {c : Char} (h : (trim cs).head? = some c) :
    isBlank c = false := by
  have hhead := List.head?_dropWhile_not isBlank (trimEnd cs)
  rw [← trimStart, ← trim, h] at hhead
  exact hhead

theorem isInfix_trim (cs : List Char) : trim cs <:+: cs :=
  (List.dropWhile_suffix isBlank).isInfix.trans (isPrefix_dropEndWhile isBlank cs).isInfix

theorem trim_eq_trimEnd {cs : List Char} (h : ∀ c, cs.head? = some c → isBlank c = false) :
    trim cs = trimEnd cs := by
  rw [trim, trimStart]
  cases hcs : trimEnd cs with
  | nil => rfl
  | cons c rest =>
      obtain ⟨more, hmore⟩ := isPrefix_dropEndWhile isBlank cs
      rw [← trimEnd, hcs] at hmore
      have hc := h c (by rw [← hmore]; rfl)
      rw [List.dropWhile_cons_of_neg (by simp [hc])]

theorem exists_eq_dropEndWhile_append {α : Type} (p : α → Bool) (xs : List α) :
    ∃ ends, xs = dropEndWhile p xs ++ ends ∧ ∀ x ∈ ends, p x = true := by
  refine ⟨(xs.reverse.takeWhile p).reverse, ?_, fun x hx => ?_⟩
  · rw [dropEndWhile, ← List.reverse_append, List.takeWhile_append_dropWhile, List.reverse_reverse]
  · exact List.mem_takeWhile_imp (List.mem_reverse.mp hx)

theorem isPrefix_trimEnd {cs w : List Char} {c : Char} (hlast : w.getLast? = some c)
    (hc : isBlank c = false) (h : w <+: cs) : w <+: trimEnd cs := by
  obtain ⟨blanks, hcs, hblanks⟩ := exists_eq_dropEndWhile_append isBlank cs
  rw [trimEnd]
  generalize dropEndWhile isBlank cs = front at hcs ⊢
  subst hcs
  rcases List.prefix_or_prefix_of_prefix h (List.prefix_append front blanks) with hfront | ⟨more, rfl⟩
  · exact hfront
  · cases more with
    | nil => simp
    | cons d more =>
        have hmore : d :: more <+: blanks := (List.prefix_append_right_inj front).mp h
        have hmem : c ∈ d :: more := by
          rw [List.getLast?_append_of_ne_nil _ (List.cons_ne_nil d more)] at hlast
          exact List.mem_of_getLast? hlast
        simp [hblanks c (hmore.subset hmem)] at hc

theorem mem_of_mem_trim {cs : List Char} {c : Char} (h : c ∈ trim cs) : c ∈ cs :=
  (isPrefix_dropEndWhile isBlank cs).subset ((List.dropWhile_suffix isBlank).subset h)

theorem trim_trim (cs : List Char) : trim (trim cs) = trim cs := by
  have hend : trimEnd (trim cs) = trim cs := dropEndWhile_of_getLast? fun _ => of_getLast?_trim
  rw [trim, hend, trim, trimStart, trimStart, List.dropWhile_idempotent]

end Logbook.Text
