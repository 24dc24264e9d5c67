import Mathlib.Tactic
import Logbook.Proofs.Time.Stamp

namespace Logbook

namespace Date

theorem daysBeforeYear_le {year other : Int} (h : year ≤ other) :
    daysBeforeYear year ≤ daysBeforeYear other := by
  simp only [daysBeforeYear]
  omega

theorem yearOfDay_le {n m : Int} (h : n < m) : yearOfDay n ≤ yearOfDay m := by
  by_contra hlt
  have hn := yearOfDay_bounds n
  have hm := yearOfDay_bounds m
  have hle := daysBeforeYear_le (show yearOfDay m + 1 ≤ yearOfDay n by omega)
  omega

theorem monthAndDay_lt {lengths : List Nat} {n m : Nat} (h : n < m) (hm : m < totalDays lengths) :
    (monthAndDay lengths n).1 < (monthAndDay lengths m).1 ∨
      (monthAndDay lengths n).1 = (monthAndDay lengths m).1 ∧
        (monthAndDay lengths n).2 < (monthAndDay lengths m).2 := by
  induction lengths generalizing n m with
  | nil => simp [totalDays] at hm
  | cons length rest ih =>
      simp only [totalDays] at hm
      simp only [monthAndDay]
      by_cases hnlt : n < length
      · by_cases hmlt : m < length
        · simp [hnlt, hmlt, h]
        · simp [hnlt, hmlt]
      · have hrest := ih (n := n - length) (m := m - length) (by omega) (by omega)
        simp only [if_neg hnlt, if_neg (show ¬m < length by omega)]
        omega

theorem ofEpochDay_lt {n m : Int} (h : n < m) :
    (ofEpochDay n).year < (ofEpochDay m).year ∨ (ofEpochDay n).year = (ofEpochDay m).year ∧
      ((ofEpochDay n).month < (ofEpochDay m).month ∨ (ofEpochDay n).month = (ofEpochDay m).month ∧
        (ofEpochDay n).day < (ofEpochDay m).day) := by
  have hyear := yearOfDay_le (show n + epochDay < m + epochDay by omega)
  have hn := yearOfDay_bounds (n + epochDay)
  have hlater := dayOfYear_lt (m + epochDay)
  simp only [ofEpochDay]
  rcases hyear.lt_or_eq with hlt | heq
  · exact Or.inl hlt
  · right
    rw [← heq] at hlater ⊢
    refine ⟨rfl, ?_⟩
    have hday := monthAndDay_lt (n := (n + epochDay - daysBeforeYear (yearOfDay (n + epochDay))).toNat)
      (by omega) hlater
    simpa using hday

end Date

namespace Instant

variable {t u v : Instant}

theorem isBefore_iff :
    t.isBefore u = true ↔ t.seconds < u.seconds ∨ t.seconds = u.seconds ∧ t.nanos < u.nanos := by
  simp [isBefore]

theorem not_isBefore_self (t : Instant) : ¬t.isBefore t = true := by
  simp [isBefore_iff]

theorem isBefore_trans (h : t.isBefore u = true) (k : u.isBefore v = true) :
    t.isBefore v = true := by
  rw [isBefore_iff] at *
  omega

theorem isBefore_or_eq (t u : Instant) :
    t.isBefore u = true ∨ t = u ∨ u.isBefore t = true := by
  simp only [isBefore_iff]
  by_cases hseconds : t.seconds = u.seconds
  · by_cases hnanos : t.nanos = u.nanos
    · exact Or.inr (Or.inl (ext hseconds hnanos))
    · omega
  · omega

/-- Whether two instants lie in the same second. A leap second is one of its own. -/
def SameSecond (t u : Instant) : Prop :=
  t.seconds = u.seconds ∧ t.nanos / nanosPerSecond = u.nanos / nanosPerSecond

/-- Year, month, day, hour, minute and second. -/
def fields (t : Instant) : List Nat :=
  [t.date.year.toNat, t.date.month, t.date.day, t.hour, t.minute, t.second]

theorem fields_lt (ht : t.HasPlainYear) (h : ¬u.isBefore t = true) (hsecond : ¬SameSecond t u) :
    t.fields < u.fields := by
  rw [isBefore_iff] at h
  have hti := t.isInstant
  have hui := u.isInstant
  simp only [SameSecond, IsInstant, nanosPerSecond] at hsecond hti hui
  simp only [fields, List.cons_lt_cons_iff]
  by_cases hday : t.seconds / secondsPerDay = u.seconds / secondsPerDay
  · have hdate : t.date = u.date := by rw [date, date, hday]
    simp only [hdate, lt_self_iff_false, false_or, true_and, hour, minute, second, secondOfDay,
      secondsPerDay, nanosPerSecond] at hday ⊢
    omega
  · have hlt : t.seconds / secondsPerDay < u.seconds / secondsPerDay := by
      simp only [secondsPerDay] at hday ⊢
      omega
    have hdate := Date.ofEpochDay_lt hlt
    have hyear := ht.1
    simp only [date] at hyear ⊢
    omega

end Instant

end Logbook
