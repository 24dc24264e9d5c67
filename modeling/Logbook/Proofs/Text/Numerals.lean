import Mathlib.Tactic
import Logbook.Text.Decimal

namespace Logbook.Decimal

def AreDigits (ds : List Char) : Prop :=
  ds ≠ [] ∧ ∀ d ∈ ds, d.isDigit = true

instance (ds : List Char) : Decidable (AreDigits ds) :=
  decidable_of_iff (ds ≠ [] ∧ ds.all Char.isDigit = true) (by simp [AreDigits])

theorem areDigits_digits (n : Nat) : AreDigits (digits n) :=
  ⟨Nat.toDigits_ne_nil, fun _ => Nat.isDigit_of_mem_toDigits (by decide) (by decide)⟩

theorem value_digits (n : Nat) : value (digits n) = n :=
  Nat.ofDigitChars_ten_toDigits

theorem eq_zero_of_head?_digits {n : Nat} (h : (digits n).head? = some '0') : n = 0 := by
  induction n using Nat.strongRecOn with
  | ind n ih =>
      rcases Nat.lt_or_ge n 10 with hlt | hge
      · rw [digits, Nat.toDigits_of_lt_base hlt] at h
        revert h
        interval_cases n <;> decide
      · rw [digits, Nat.toDigits_of_base_le (by decide) hge,
          List.head?_append_of_ne_nil _ Nat.toDigits_ne_nil] at h
        have hzero := ih (n / 10) (by omega) h
        omega

/-- A text spells a count, where a plus sign may stand before the digits. -/
inductive SpellsCount : List Char → Nat → Prop where
  | plain {ds : List Char} : AreDigits ds → SpellsCount ds (value ds)
  | plus {ds : List Char} : AreDigits ds → SpellsCount ('+' :: ds) (value ds)

/-- A text spells a number, where a sign may stand before the digits. -/
inductive SpellsInteger : List Char → Int → Prop where
  | plain {ds : List Char} : AreDigits ds → SpellsInteger ds (value ds)
  | plus {ds : List Char} : AreDigits ds → SpellsInteger ('+' :: ds) (value ds)
  | minus {ds : List Char} : AreDigits ds → SpellsInteger ('-' :: ds) (-value ds)

theorem AreDigits.head?_ne {ds : List Char} (h : AreDigits ds) {c : Char} (hc : c.isDigit = false) :
    ds.head? ≠ some c := by
  intro hhead
  have hdigit := h.2 c (List.mem_of_head? hhead)
  rw [hc] at hdigit
  exact Bool.false_ne_true hdigit

theorem ite_areDigits_eq_some_iff {α : Type} {ds : List Char} {x : Option α} {a : α} :
    (if ds.isEmpty || !ds.all Char.isDigit then none else x) = some a ↔ AreDigits ds ∧ x = some a := by
  rw [Option.ite_none_left_eq_some]
  simp [AreDigits]

theorem parseCount?_eq_some_iff {cs : List Char} {n : Nat} :
    parseCount? cs = some n ↔ SpellsCount cs n ∧ n < countLimit := by
  simp only [parseCount?, ite_areDigits_eq_some_iff, Option.ite_none_right_eq_some, Option.some.injEq]
  constructor
  · rintro ⟨hds, hlt, rfl⟩
    refine ⟨?_, hlt⟩
    split
    · rename_i hplus
      obtain ⟨ds, rfl⟩ := List.head?_eq_some_iff.mp hplus
      rw [if_pos hplus] at hds
      exact SpellsCount.plus hds
    · rename_i hplus
      rw [if_neg hplus] at hds
      exact SpellsCount.plain hds
  · rintro ⟨hspells, hlt⟩
    cases hspells with
    | plain hds =>
        have hplus := hds.head?_ne (c := '+') (by decide)
        rw [if_neg hplus]
        exact ⟨hds, hlt, rfl⟩
    | plus hds =>
        rw [List.head?_cons, if_pos rfl, List.tail_cons]
        exact ⟨hds, hlt, rfl⟩

theorem parseInteger?_eq_some_iff {cs : List Char} {n : Int} :
    parseInteger? cs = some n ↔ SpellsInteger cs n ∧ fitsInteger n = true := by
  simp only [parseInteger?, ite_areDigits_eq_some_iff, Option.ite_none_right_eq_some,
    Option.some.injEq]
  constructor
  · rintro ⟨hds, hfits, rfl⟩
    refine ⟨?_, hfits⟩
    split at hds
    · exact SpellsInteger.minus hds
    · exact SpellsInteger.plus hds
    · exact SpellsInteger.plain hds
  · rintro ⟨hspells, hfits⟩
    cases hspells with
    | @plain ds hds =>
        have hminus := hds.head?_ne (c := '-') (by decide)
        have hplus := hds.head?_ne (c := '+') (by decide)
        split
        · simp at hminus
        · simp at hplus
        · exact ⟨hds, hfits, rfl⟩
    | plus hds => exact ⟨hds, hfits, rfl⟩
    | minus hds => exact ⟨hds, hfits, rfl⟩

end Logbook.Decimal
