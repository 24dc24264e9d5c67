import Mathlib.Tactic
import Logbook.Proofs.Text.Digits
import Logbook.Proofs.Time.Calendar
import Logbook.Text.Basic
import Logbook.Time.Timestamp

namespace Logbook

namespace Instant

/-- The year of the instant has four digits at most and no sign. -/
def HasPlainYear (t : Instant) : Prop :=
  0 ≤ t.date.year ∧ t.date.year ≤ 9999

instance (t : Instant) : Decidable t.HasPlainYear :=
  inferInstanceAs (Decidable (_ ∧ _))

theorem isValid_date (t : Instant) : t.date.isValid = true :=
  Date.isValid_ofEpochDay _

theorem seconds_eq (t : Instant) :
    t.seconds = secondsPerDay * t.date.toEpochDay + (t.secondOfDay : Int) := by
  rw [date, Date.toEpochDay_ofEpochDay]
  simp only [secondOfDay, secondsPerDay]
  omega

theorem hour_le (t : Instant) : t.hour ≤ 23 := by
  simp only [hour, secondOfDay, secondsPerDay]
  omega

theorem minute_le (t : Instant) : t.minute ≤ 59 := by
  simp only [minute]
  omega

theorem second_le (t : Instant) : t.second ≤ 60 := by
  have h := t.isInstant
  simp only [IsInstant, nanosPerSecond] at h
  simp only [second, nanosPerSecond]
  omega

theorem second_eq_sixty_iff (t : Instant) : t.second = 60 ↔ nanosPerSecond ≤ t.nanos := by
  have h := t.isInstant
  simp only [IsInstant, nanosPerSecond] at h
  simp only [second, secondOfDay, secondsPerDay, nanosPerSecond]
  omega

theorem secondOfDay_eq (t : Instant) :
    t.secondOfDay = 3600 * t.hour + 60 * t.minute + min t.second 59 := by
  have h := t.isInstant
  simp only [IsInstant, nanosPerSecond] at h
  simp only [hour, minute, second, secondOfDay, secondsPerDay, nanosPerSecond]
  omega

theorem truncateToMicros_nanos (t : Instant) :
    t.truncateToMicros.nanos =
      t.subsecond / 1000 * 1000 + if t.second = 60 then nanosPerSecond else 0 := by
  have h := t.isInstant
  simp only [IsInstant, nanosPerSecond] at h
  simp only [truncateToMicros, second_eq_sixty_iff, subsecond, nanosPerSecond]
  split <;> omega

end Instant

namespace Timestamp

open Decimal

theorem instant?_fields (t : Instant) :
    Fields.instant?
      { date := t.date, hour := t.hour, minute := t.minute, second := t.second
        nanos := t.subsecond / 1000 * 1000 } 0 = some t.truncateToMicros := by
  have hseconds : secondsPerDay * t.date.toEpochDay
      + (3600 * t.hour + 60 * t.minute + min t.second 59 : Nat) = t.seconds := by
    rw [← t.secondOfDay_eq, ← t.seconds_eq]
  have hof : Instant.of? t.seconds t.truncateToMicros.nanos = some t.truncateToMicros :=
    dif_pos t.truncateToMicros.isInstant
  simp only [Fields.instant?, t.isValid_date, t.hour_le, t.minute_le, t.second_le, decide_true,
    Bool.and_self, if_true, hseconds, ← t.truncateToMicros_nanos, hof, Option.bind_some,
    Int.sub_zero]

theorem renderYear_eq_fixed {year : Int} (h : 0 ≤ year ∧ year ≤ 9999) :
    renderYear year = fixed 4 year.toNat :=
  if_pos h

theorem readFraction_fixed {micros : Nat} (h : micros < 10 ^ 6) :
    readFraction ('.' :: (fixed 6 micros ++ ['Z'])) = some (micros * 1000, ['Z']) := by
  have hdigits : readDigits 1 9 (fixed 6 micros ++ ['Z']) = some (fixed 6 micros, ['Z']) :=
    readDigits_fixed _ (by omega) (by omega) (Or.inr (by simp))
  simp only [readFraction, hdigits, Option.bind_eq_bind, Option.bind_some, value_fixed,
    length_fixed, Nat.mod_eq_of_lt h]
  rfl

theorem readChar_cons (c : Char) (rest : List Char) : readChar c (c :: rest) = some rest :=
  if_pos rfl

theorem readZone_utc : readZone ['Z'] = some (0, []) := by
  simp [readZone]

theorem parseZoned?_renderMicros {t : Instant} (h : t.HasPlainYear) :
    parseZoned? (renderMicros t) = some t.truncateToMicros := by
  have hyear : t.date.year.toNat < 10 ^ 4 := by
    have := h.2
    omega
  have hcast : ((t.date.year.toNat : Nat) : Int) = t.date.year := Int.toNat_of_nonneg h.1
  have hmonth : t.date.month < 10 ^ 2 :=
    lt_of_le_of_lt (Date.month_le_of_isValid t.isValid_date) (by decide)
  have hday : t.date.day < 10 ^ 2 :=
    lt_of_le_of_lt (Date.day_le_of_isValid t.isValid_date) (by decide)
  have hhour : t.hour < 10 ^ 2 := lt_of_le_of_lt t.hour_le (by decide)
  have hminute : t.minute < 10 ^ 2 := lt_of_le_of_lt t.minute_le (by decide)
  have hsecond : t.second < 10 ^ 2 := lt_of_le_of_lt t.second_le (by decide)
  have hmicros : t.subsecond / 1000 < 10 ^ 6 := by
    simp only [Instant.subsecond, nanosPerSecond]
    omega
  simp only [renderMicros, renderSeconds, renderYear_eq_fixed h, List.cons_append,
    List.append_assoc]
  refine Option.bind_eq_some_iff.mpr ⟨_, readNumber_fixed _ hyear, ?_⟩
  refine Option.bind_eq_some_iff.mpr ⟨_, readChar_cons _ _, ?_⟩
  refine Option.bind_eq_some_iff.mpr ⟨_, readNumber_fixed _ hmonth, ?_⟩
  refine Option.bind_eq_some_iff.mpr ⟨_, readChar_cons _ _, ?_⟩
  refine Option.bind_eq_some_iff.mpr ⟨_, readNumber_fixed _ hday, ?_⟩
  refine Option.bind_eq_some_iff.mpr ⟨_, rfl, ?_⟩
  refine Option.bind_eq_some_iff.mpr ⟨_, readNumber_fixed _ hhour, ?_⟩
  refine Option.bind_eq_some_iff.mpr ⟨_, readChar_cons _ _, ?_⟩
  refine Option.bind_eq_some_iff.mpr ⟨_, readNumber_fixed _ hminute, ?_⟩
  refine Option.bind_eq_some_iff.mpr ⟨_, readChar_cons _ _, ?_⟩
  refine Option.bind_eq_some_iff.mpr ⟨_, readNumber_fixed _ hsecond, ?_⟩
  refine Option.bind_eq_some_iff.mpr ⟨_, readFraction_fixed hmicros, ?_⟩
  refine Option.bind_eq_some_iff.mpr ⟨_, readZone_utc, ?_⟩
  simp only [List.isEmpty_nil, if_true, hcast]
  exact instant?_fields t

theorem parse?_renderMicros {t : Instant} (h : t.HasPlainYear) :
    parse? (renderMicros t) = some t.truncateToMicros := by
  simp [parse?, parseZoned?_renderMicros h]

theorem mem_renderMicros {t : Instant} (h : t.HasPlainYear) {c : Char}
    (hc : c ∈ renderMicros t) : c.isDigit = true ∨ c ∈ ['-', 'T', ':', '.', 'Z'] := by
  by_contra hnot
  rw [not_or] at hnot
  have hfixed : ∀ width n, c ∉ fixed width n := fun width n hmem =>
    hnot.1 (isDigit_of_mem_fixed hmem)
  simp only [renderMicros, renderSeconds, renderYear_eq_fixed h, List.mem_append, List.mem_cons,
    hfixed, List.not_mem_nil, false_or, or_false] at hc
  simp only [List.mem_cons, List.not_mem_nil, or_false] at hnot
  tauto

theorem isBlank_of_mem_renderMicros {t : Instant} (h : t.HasPlainYear) {c : Char}
    (hc : c ∈ renderMicros t) : Text.isBlank c = false := by
  rcases mem_renderMicros h hc with hdigit | hmark
  · rw [isDigit_iff] at hdigit
    simp only [Text.isBlank, Bool.or_eq_false_iff, Bool.and_eq_false_iff, decide_eq_false_iff_not,
      beq_eq_false_iff_ne]
    omega
  · simp only [List.mem_cons, List.not_mem_nil, or_false] at hmark
    rcases hmark with rfl | rfl | rfl | rfl | rfl <;> rfl

end Timestamp

end Logbook
