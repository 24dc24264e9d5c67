import Mathlib.Tactic
import Logbook.Tail

namespace Logbook.Tail

variable {α : Type}

theorem push_of_not_full {t : Tail α} (h : t.size < t.capacity) (x : α) :
    t.push x = { t with items := t.items ++ [x] } := by
  rw [push, if_neg (by omega), if_neg (by omega)]

theorem push_of_full {t : Tail α} (hpos : t.capacity ≠ 0) (h : t.size = t.capacity) (x : α) :
    t.push x = { t with items := t.items.tail ++ [x] } := by
  rw [push, if_neg hpos, if_pos h]

theorem foldl_push_eq (capacity : Nat) (xs : List α) :
    xs.foldl push (empty capacity) = ⟨capacity, xs.drop (xs.length - capacity)⟩ := by
  induction xs using List.reverseRecOn with
  | nil => simp [empty]
  | append_singleton xs x ih =>
      rw [List.foldl_append, ih, List.foldl_cons, List.foldl_nil, List.length_append,
        List.length_singleton]
      by_cases hzero : capacity = 0
      · subst hzero
        simp [push]
      by_cases hfull : capacity ≤ xs.length
      · have hsize : (⟨capacity, xs.drop (xs.length - capacity)⟩ : Tail α).size = capacity := by
          simp only [size, List.length_drop]
          omega
        rw [push_of_full hzero hsize, List.tail_drop, List.drop_append_of_le_length (by omega)]
        congr 3
        omega
      · have hsize : (⟨capacity, xs.drop (xs.length - capacity)⟩ : Tail α).size < capacity := by
          simp only [size, List.length_drop]
          omega
        rw [push_of_not_full hsize, show xs.length - capacity = 0 by omega,
          show xs.length + 1 - capacity = 0 by omega]
        rfl

end Logbook.Tail
