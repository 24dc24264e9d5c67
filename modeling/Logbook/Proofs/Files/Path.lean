import Mathlib.Tactic
import Logbook.Files.Path

namespace Logbook.Path

/-- A name that a path can end in: it is one name, and not the directory itself or the one above. -/
def IsFileName (name : String) : Prop :=
  name ≠ "" ∧ name ≠ "." ∧ name ≠ ".." ∧ '/' ∉ name.toList

theorem isAbsolute_of_isFileName {name : String} (h : IsFileName name) :
    isAbsolute ⟨name⟩ = false := by
  obtain ⟨hne, -, -, hslash⟩ := h
  cases hcs : name.toList with
  | nil => simp [isAbsolute, hcs]
  | cons c cs =>
      have hc : c ≠ '/' := by
        rintro rfl
        simp [hcs] at hslash
      simp [isAbsolute, hcs, hc]

theorem names_append_slash (cs : List Char) {name : String} (h : IsFileName name) :
    names ⟨String.ofList (cs ++ '/' :: name.toList)⟩ = names ⟨String.ofList cs⟩ ++ [name] := by
  obtain ⟨hne, hdot, -, hslash⟩ := h
  simp [names, List.splitOn_append_cons_self, List.splitOn_eq_singleton hslash, hne, hdot]

theorem names_append_singleton_slash (cs : List Char) :
    names ⟨String.ofList (cs ++ ['/'])⟩ = names ⟨String.ofList cs⟩ := by
  simp [names, List.splitOn_append_cons_self]

theorem join_cases (dir : Path) {name : String} (h : IsFileName name) :
    dir.text = "" ∧ dir.join name = ⟨name⟩ ∨
      (∃ cs, dir.text = String.ofList (cs ++ ['/']) ∧
        dir.join name = ⟨String.ofList (cs ++ '/' :: name.toList)⟩) ∨
      dir.text ≠ "" ∧ dir.join name = ⟨String.ofList (dir.text.toList ++ '/' :: name.toList)⟩ := by
  simp only [join, isAbsolute_of_isFileName h, Bool.false_eq_true, if_false]
  by_cases hempty : dir.text = ""
  · left
    simp [hempty]
  · right
    by_cases hslash : dir.text.toList.getLast? = some '/'
    · left
      obtain ⟨cs, hcs⟩ := List.getLast?_eq_some_iff.mp hslash
      have htext : dir.text = String.ofList (cs ++ ['/']) := by
        rw [← hcs, String.ofList_toList]
      refine ⟨cs, htext, congrArg Path.mk (String.toList_inj.mp ?_)⟩
      simp [hcs]
    · right
      refine ⟨hempty, congrArg Path.mk (String.toList_inj.mp ?_)⟩
      simp [hslash, hempty]

theorem names_join (dir : Path) {name : String} (h : IsFileName name) :
    (dir.join name).names = dir.names ++ [name] := by
  rcases join_cases dir h with ⟨htext, hjoin⟩ | ⟨cs, htext, hjoin⟩ | ⟨-, hjoin⟩
  · obtain ⟨hne, hdot, -, hslash⟩ := h
    simp [hjoin, names, htext, List.splitOn_eq_singleton hslash, hne, hdot]
  · obtain ⟨text⟩ := dir
    obtain rfl : text = _ := htext
    rw [hjoin, names_append_slash cs h, names_append_singleton_slash]
  · rw [hjoin, names_append_slash _ h, String.ofList_toList]

theorem isAbsolute_join (dir : Path) {name : String} (h : IsFileName name) :
    (dir.join name).isAbsolute = dir.isAbsolute := by
  rcases join_cases dir h with ⟨htext, hjoin⟩ | ⟨cs, htext, hjoin⟩ | ⟨htext, hjoin⟩
  · rw [hjoin, isAbsolute_of_isFileName h]
    simp [isAbsolute, htext]
  · cases cs <;> simp [hjoin, isAbsolute, htext]
  · have hcs : dir.text.toList ≠ [] := by simpa using htext
    obtain ⟨c, cs, hcons⟩ := List.exists_cons_of_ne_nil hcs
    simp [hjoin, isAbsolute, hcons]

theorem text_join_ne_empty (dir : Path) {name : String} (h : IsFileName name) :
    (dir.join name).text.isEmpty = false := by
  rcases join_cases dir h with ⟨-, hjoin⟩ | ⟨cs, -, hjoin⟩ | ⟨-, hjoin⟩
  · simp [hjoin, h.1]
  · simp [hjoin]
  · simp [hjoin]

end Logbook.Path
