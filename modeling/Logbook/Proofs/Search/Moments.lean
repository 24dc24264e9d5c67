import Mathlib.Data.List.DropRight
import Mathlib.Data.List.Infix
import Logbook.Proofs.Search.Matching

namespace Logbook

namespace Tail

variable {α : Type}

/-- The tail without its oldest item if it is full. -/
def makeRoom (t : Tail α) : Tail α :=
  if t.size = t.capacity then { t with items := t.items.tail } else t

/-- The states that a tail passes through while items are pushed: for each item the tail as it was, then
the tail that has made room for it, and in the end the tail with all of them. A tail of capacity zero makes
no room, but it is empty, and so stays as it was. -/
def moments : Tail α → List α → List (Tail α)
  | t, [] => [t]
  | t, x :: xs => t :: t.makeRoom :: moments (t.push x) xs

theorem push_eq_makeRoom {t : Tail α} (h : t.capacity ≠ 0) (x : α) :
    t.push x = { t.makeRoom with items := t.makeRoom.items ++ [x] } := by
  rw [push, if_neg h, makeRoom]
  split <;> rfl

theorem capacity_makeRoom (t : Tail α) : t.makeRoom.capacity = t.capacity := by
  rw [makeRoom]
  split <;> rfl

theorem size_makeRoom_le {t : Tail α} (h : t.size ≤ t.capacity) :
    t.makeRoom.size ≤ t.capacity - 1 := by
  rw [makeRoom]
  split
  · simp only [size, List.length_tail] at h ⊢
    omega
  · omega

theorem capacity_push (t : Tail α) (x : α) : (t.push x).capacity = t.capacity := by
  by_cases hzero : t.capacity = 0
  · rw [push, if_pos hzero]
  · rw [push_eq_makeRoom hzero]
    exact capacity_makeRoom t

theorem size_push_le {t : Tail α} (h : t.size ≤ t.capacity) (x : α) :
    (t.push x).size ≤ t.capacity := by
  by_cases hzero : t.capacity = 0
  · rwa [push, if_pos hzero]
  · have hroom := size_makeRoom_le h
    rw [push_eq_makeRoom hzero, size, List.length_append, List.length_singleton]
    rw [size] at hroom
    omega

theorem size_le_of_mem_moments {t s : Tail α} {xs : List α} (ht : t.size ≤ t.capacity)
    (hs : s ∈ moments t xs) : s.size ≤ t.capacity ∧ s.capacity = t.capacity := by
  induction xs generalizing t with
  | nil =>
      obtain rfl := List.mem_singleton.mp hs
      exact ⟨ht, rfl⟩
  | cons x xs ih =>
      rcases List.mem_cons.mp hs with rfl | hs
      · exact ⟨ht, rfl⟩
      rcases List.mem_cons.mp hs with rfl | hs
      · exact ⟨(size_makeRoom_le ht).trans (Nat.sub_le _ _), capacity_makeRoom t⟩
      · have hpushed := ih ((size_push_le ht x).trans_eq (capacity_push t x).symm) hs
        rwa [capacity_push] at hpushed

theorem foldl_push_eq_rtake (capacity : Nat) (xs : List α) :
    xs.foldl push (empty capacity) = ⟨capacity, xs.rtake (min capacity xs.length)⟩ := by
  rw [foldl_push_eq, List.rtake]
  congr 2
  omega

theorem scanl_push_eq (capacity : Nat) (xs : List α) :
    xs.scanl push (empty capacity) =
      xs.inits.map fun pushed => ⟨capacity, pushed.rtake (min capacity pushed.length)⟩ := by
  apply List.ext_getElem
  · simp
  · intro k _ _
    rw [List.getElem_scanl, foldl_push_eq_rtake, List.getElem_map, List.getElem_inits]

end Tail

theorem seen_scanLines (m : Matcher) (limit : Nat) (lines : List String) :
    (scanLines m limit lines).seen = lines.length := by
  rw [scanLines_eq]

theorem items_scanLines (m : Matcher) (limit : Nat) (lines : List String) :
    (scanLines m limit lines).kept.items =
      (lines.filter m.isMatch).rtake (min limit (lines.filter m.isMatch).length) := by
  rw [scanLines_eq, Tail.foldl_push_eq_rtake]

/-- After each push a tail holds the last of the items pushed so far, oldest first, as many as its capacity
allows; it never holds more, and its capacity stays what it was. A scan sees all lines and keeps in this way
the last ones that match. -/
theorem tail_holds_last_at_every_moment :
    (∀ {α : Type} (capacity : Nat) (xs : List α),
      xs.scanl Tail.push (Tail.empty capacity) =
          xs.inits.map (fun pushed => ⟨capacity, pushed.rtake (min capacity pushed.length)⟩) ∧
        ∀ t ∈ Tail.moments (Tail.empty capacity) xs, t.size ≤ capacity ∧ t.capacity = capacity) ∧
      ∀ (m : Matcher) (limit : Nat) (lines : List String),
        (scanLines m limit lines).seen = lines.length ∧
          (scanLines m limit lines).kept.items =
            (lines.filter m.isMatch).rtake (min limit (lines.filter m.isMatch).length) := by
  refine ⟨fun capacity xs => ⟨Tail.scanl_push_eq capacity xs, fun t ht => ?_⟩,
    fun m limit lines => ⟨seen_scanLines m limit lines, items_scanLines m limit lines⟩⟩
  exact Tail.size_le_of_mem_moments (Nat.zero_le _) ht

theorem third_push_makes_room :
    ⟨2, ["b"]⟩ ∈ Tail.moments (Tail.empty 2) ["a", "b", "c"] ∧
      (⟨2, ["b"]⟩ : Tail String).size ≤ 2 ∧
      ["a", "b", "c"].scanl Tail.push (Tail.empty 2) =
        [⟨2, []⟩, ⟨2, ["a"]⟩, ⟨2, ["a", "b"]⟩, ⟨2, ["b", "c"]⟩] ∧
      (scanLines (.substring "a") 1 ["a", "b", "ab"]).kept.items = ["ab"] := by
  have hmem : (⟨2, ["b"]⟩ : Tail String) ∈ Tail.moments (Tail.empty 2) ["a", "b", "c"] := by
    simp [Tail.moments, Tail.makeRoom, Tail.push, Tail.empty, Tail.size]
  obtain ⟨htail, hscan⟩ := tail_holds_last_at_every_moment
  exact ⟨hmem, ((htail 2 _).2 _ hmem).1, (htail 2 _).1, (hscan _ 1 _).2⟩

end Logbook
