import Mathlib.Data.String.Basic
import Logbook.Proofs.SessionLog.Name
import Logbook.Proofs.Time.Order

namespace Logbook.SessionId

theorem toList_text_ofInstant {t : Instant} (h : t.HasPlainYear) :
    (ofInstant t).text.toList =
      Decimal.fixed 4 t.date.year.toNat ++ (Decimal.fixed 2 t.date.month ++
        (Decimal.fixed 2 t.date.day ++ ('-' :: (Decimal.fixed 2 t.hour ++
          (Decimal.fixed 2 t.minute ++ Decimal.fixed 2 t.second))))) := by
  simp [ofInstant, Timestamp.renderYear_eq_fixed h]

theorem ofInstant_eq_of_sameSecond {t u : Instant} (h : t.SameSecond u) :
    ofInstant t = ofInstant u := by
  have hdate : t.date = u.date := by rw [Instant.date, Instant.date, h.1]
  have hsecond : t.secondOfDay = u.secondOfDay := by
    rw [Instant.secondOfDay, Instant.secondOfDay, h.1]
  simp only [ofInstant, Instant.hour, Instant.minute, Instant.second, hdate, hsecond, h.2]

theorem text_append_lt {t u : Instant} (ht : t.HasPlainYear) (hu : u.HasPlainYear)
    (h : t.fields < u.fields) (xs ys : List Char) :
    (ofInstant t).text.toList ++ xs < (ofInstant u).text.toList ++ ys := by
  have hbounds : ∀ {v : Instant}, v.HasPlainYear → v.date.year.toNat < 10 ^ 4 ∧ v.date.month < 10 ^ 2 ∧
      v.date.day < 10 ^ 2 ∧ v.hour < 10 ^ 2 ∧ v.minute < 10 ^ 2 ∧ v.second < 10 ^ 2 := by
    intro v hv
    have hyear := hv.2
    have hmonth := Date.month_le_of_isValid v.isValid_date
    have hday := Date.day_le_of_isValid v.isValid_date
    have hhour := v.hour_le
    have hminute := v.minute_le
    have hsecond := v.second_le
    omega
  have hfixed : ∀ {width m n : Nat} {xs ys : List Char}, m < 10 ^ width → n < 10 ^ width →
      m < n ∨ m = n ∧ xs < ys → Decimal.fixed width m ++ xs < Decimal.fixed width n ++ ys := by
    rintro width m n xs ys hm hn (hlt | ⟨rfl, hlt⟩)
    · exact Decimal.fixed_append_lt (by rwa [Nat.mod_eq_of_lt hm, Nat.mod_eq_of_lt hn]) xs ys
    · exact List.append_left_lt hlt
  obtain ⟨htyear, htmonth, htday, hthour, htminute, htsecond⟩ := hbounds ht
  obtain ⟨huyear, humonth, huday, huhour, huminute, husecond⟩ := hbounds hu
  simp only [Instant.fields, List.cons_lt_cons_iff, List.not_lt_nil, and_false, or_false] at h
  simp only [toList_text_ofInstant ht, toList_text_ofInstant hu, List.append_assoc, List.cons_append]
  refine hfixed htyear huyear (h.imp_right (And.imp_right fun h => ?_))
  refine hfixed htmonth humonth (h.imp_right (And.imp_right fun h => ?_))
  refine hfixed htday huday (h.imp_right (And.imp_right fun h => ?_))
  refine List.cons_lt_cons_iff.mpr (Or.inr ⟨rfl, ?_⟩)
  refine hfixed hthour huhour (h.imp_right (And.imp_right fun h => ?_))
  refine hfixed htminute huminute (h.imp_right (And.imp_right fun h => ?_))
  exact hfixed htsecond husecond (Or.inl h)

theorem ofInstant_eq_or_fileName_lt {t u : Instant} (ht : t.HasPlainYear) (hu : u.HasPlainYear)
    (h : ¬u.isBefore t = true) :
    ofInstant t = ofInstant u ∨ (ofInstant t).fileName < (ofInstant u).fileName := by
  by_cases hsecond : t.SameSecond u
  · exact Or.inl (ofInstant_eq_of_sameSecond hsecond)
  · right
    rw [String.lt_iff_toList_lt, toList_fileName, toList_fileName]
    exact text_append_lt ht hu (Instant.fields_lt ht h hsecond) _ _

end Logbook.SessionId
