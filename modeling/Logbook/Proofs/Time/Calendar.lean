import Mathlib.Tactic
import Logbook.Time.Date

namespace Logbook.Date

theorem isLeap_iff (year : Int) :
    isLeap year = true ↔ year % 4 = 0 ∧ (year % 100 ≠ 0 ∨ year % 400 = 0) := by
  simp [isLeap]

theorem daysBeforeYear_succ (year : Int) :
    daysBeforeYear (year + 1) = daysBeforeYear year + if isLeap year then 366 else 365 := by
  have hleap := isLeap_iff year
  simp only [daysBeforeYear]
  split
  · rename_i h
    rw [hleap] at h
    omega
  · rename_i h
    rw [hleap] at h
    omega

theorem yearOfDay_bounds (n : Int) :
    daysBeforeYear (yearOfDay n) ≤ n ∧ n < daysBeforeYear (yearOfDay n + 1) := by
  have hbefore : daysBeforeYear (n * 400 / 146097 - 1) ≤ n := by
    simp only [daysBeforeYear]
    omega
  have hafter : n < daysBeforeYear (n * 400 / 146097 + 1 + 1) := by
    simp only [daysBeforeYear]
    omega
  simp only [yearOfDay]
  split
  · rename_i h
    rw [Int.sub_add_cancel]
    exact ⟨hbefore, h⟩
  · split
    · rename_i h
      exact ⟨h, hafter⟩
    · omega

/-- The days in months of the given lengths. -/
def totalDays : List Nat → Nat
  | [] => 0
  | length :: rest => length + totalDays rest

theorem totalDays_monthLengths (leap : Bool) :
    totalDays (monthLengths leap) = if leap then 366 else 365 := by
  cases leap <;> rfl

theorem daysBeforeMonth_add_monthAndDay {lengths : List Nat} {n : Nat} (h : n < totalDays lengths) :
    daysBeforeMonth lengths (monthAndDay lengths n).1 + (monthAndDay lengths n).2 = n := by
  induction lengths generalizing n with
  | nil => simp [totalDays] at h
  | cons length rest ih =>
      simp only [monthAndDay]
      split
      · simp [daysBeforeMonth]
      · have hrest : n - length < totalDays rest := by
          simp only [totalDays] at h
          omega
        have hsum := ih hrest
        simp only [daysBeforeMonth]
        omega

theorem exists_length_of_monthAndDay {lengths : List Nat} {n : Nat} (h : n < totalDays lengths) :
    ∃ length, lengths[(monthAndDay lengths n).1]? = some length ∧
      (monthAndDay lengths n).2 < length := by
  induction lengths generalizing n with
  | nil => simp [totalDays] at h
  | cons length rest ih =>
      simp only [monthAndDay]
      split
      · rename_i hn
        exact ⟨length, rfl, hn⟩
      · have hrest : n - length < totalDays rest := by
          simp only [totalDays] at h
          omega
        simpa using ih hrest

theorem dayOfYear_lt (n : Int) :
    (n - daysBeforeYear (yearOfDay n)).toNat < totalDays (monthLengths (isLeap (yearOfDay n))) := by
  have hbounds := yearOfDay_bounds n
  rw [daysBeforeYear_succ] at hbounds
  rw [totalDays_monthLengths]
  split at hbounds <;> rename_i h <;> simp only [h, if_true, if_false, Bool.false_eq_true] <;> omega

theorem toEpochDay_ofEpochDay (n : Int) : (ofEpochDay n).toEpochDay = n := by
  have hsum := daysBeforeMonth_add_monthAndDay (dayOfYear_lt (n + epochDay))
  have hbounds := yearOfDay_bounds (n + epochDay)
  simp only [ofEpochDay, toEpochDay, Nat.add_sub_cancel]
  omega

theorem isValid_iff (d : Date) :
    d.isValid = true ↔ 1 ≤ d.month ∧ 1 ≤ d.day ∧
      ∃ length, (monthLengths (isLeap d.year))[d.month - 1]? = some length ∧ d.day ≤ length := by
  simp only [isValid, Bool.and_eq_true, decide_eq_true_eq, and_assoc]
  cases (monthLengths (isLeap d.year))[d.month - 1]? <;> simp

theorem isValid_ofEpochDay (n : Int) : (ofEpochDay n).isValid = true := by
  obtain ⟨length, hlength, hday⟩ := exists_length_of_monthAndDay (dayOfYear_lt (n + epochDay))
  rw [isValid_iff]
  exact ⟨Nat.le_add_left _ _, Nat.le_add_left _ _, length, hlength, hday⟩

theorem month_le_of_isValid {d : Date} (h : d.isValid = true) : d.month ≤ 12 := by
  obtain ⟨-, -, length, hlength, -⟩ := (isValid_iff d).mp h
  have hlt : d.month - 1 < (monthLengths (isLeap d.year)).length :=
    (List.getElem?_eq_some_iff.mp hlength).1
  simp only [monthLengths, List.length_cons, List.length_nil] at hlt
  omega

theorem day_le_of_isValid {d : Date} (h : d.isValid = true) : d.day ≤ 31 := by
  obtain ⟨-, -, length, hlength, hday⟩ := (isValid_iff d).mp h
  have hmem : length ∈ monthLengths (isLeap d.year) := List.mem_of_getElem? hlength
  have hlength : length ≤ 31 := by
    revert hmem
    cases isLeap d.year <;> simp [monthLengths] <;> omega
  exact le_trans hday hlength

end Logbook.Date
