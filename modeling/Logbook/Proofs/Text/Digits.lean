import Mathlib.Tactic
import Logbook.Text.Decimal

namespace Logbook.Decimal

theorem toNat_digit {d : Nat} (h : d < 10) : (digit d).toNat = 48 + d := by
  have hvalid : Nat.isValidChar (48 + d) := by
    left
    omega
  rw [digit, Char.ofNat]
  exact (congrArg Char.toNat (dif_pos hvalid)).trans rfl

theorem isDigit_iff (c : Char) : c.isDigit = true ↔ 48 ≤ c.toNat ∧ c.toNat ≤ 57 := by
  simp only [Char.isDigit, Bool.and_eq_true, decide_eq_true_eq, ge_iff_le, UInt32.le_iff_toNat_le]
  rfl

theorem isDigit_digit {d : Nat} (h : d < 10) : (digit d).isDigit = true := by
  rw [isDigit_iff, toNat_digit h]
  omega

theorem digitValue_digit {d : Nat} (h : d < 10) : digitValue (digit d) = d := by
  simp [digitValue, toNat_digit h]

theorem isDigit_of_mem_fixed {width n : Nat} {c : Char} (h : c ∈ fixed width n) :
    c.isDigit = true := by
  induction width with
  | zero => simp [fixed] at h
  | succ width ih =>
      rcases List.mem_cons.mp h with rfl | h
      · exact isDigit_digit (Nat.mod_lt _ (by decide))
      · exact ih h

theorem foldl_value (ds : List Char) (start : Nat) :
    ds.foldl (fun n d => 10 * n + digitValue d) start = start * 10 ^ ds.length + value ds := by
  induction ds generalizing start with
  | nil => simp [value]
  | cons d ds ih =>
      simp only [value, List.foldl_cons, List.length_cons]
      rw [ih, ih (10 * 0 + digitValue d)]
      ring

theorem value_cons (d : Char) (ds : List Char) :
    value (d :: ds) = digitValue d * 10 ^ ds.length + value ds := by
  rw [value, List.foldl_cons, foldl_value]
  simp

theorem value_fixed (width n : Nat) : value (fixed width n) = n % 10 ^ width := by
  induction width with
  | zero => simp [fixed, value, Nat.mod_one]
  | succ width ih =>
      rw [fixed, value_cons, digitValue_digit (Nat.mod_lt _ (by decide)), length_fixed, ih,
        Nat.pow_eq, pow_succ, Nat.mod_mul]
      ring

theorem readDigits_fixed {least most width : Nat} (n : Nat) {rest : List Char}
    (hleast : least ≤ width) (hmost : width ≤ most)
    (hrest : most ≤ width ∨ ∀ c ∈ rest.head?, c.isDigit = false) :
    readDigits least most (fixed width n ++ rest) = some (fixed width n, rest) := by
  have htaken : ((fixed width n ++ rest).take most).takeWhile Char.isDigit = fixed width n := by
    rw [List.take_append, length_fixed,
      List.take_of_length_le (by rw [length_fixed]; exact hmost),
      List.takeWhile_append_of_pos (fun c hc => isDigit_of_mem_fixed hc)]
    rcases hrest with hle | hhead
    · simp [Nat.sub_eq_zero_of_le hle]
    · cases rest with
      | nil => simp
      | cons c rest =>
          have hc : c.isDigit = false := hhead c rfl
          cases most - width <;> simp [hc]
  simp only [readDigits, htaken, length_fixed]
  rw [if_neg (by omega)]
  simp [length_fixed]

theorem readNumber_fixed {width n : Nat} (rest : List Char) (h : n < 10 ^ width) :
    readNumber width width (fixed width n ++ rest) = some (n, rest) := by
  rw [readNumber, readDigits_fixed n (le_refl width) (le_refl width) (Or.inl (le_refl width))]
  simp [value_fixed, Nat.mod_eq_of_lt h]

theorem fixed_append_lt {width m n : Nat} (h : m % 10 ^ width < n % 10 ^ width)
    (xs ys : List Char) : fixed width m ++ xs < fixed width n ++ ys := by
  induction width with
  | zero => simp [Nat.mod_one] at h
  | succ width ih =>
      have hpos : 0 < 10 ^ width := Nat.pow_pos (by decide)
      rw [pow_succ, Nat.mod_mul, Nat.mod_mul] at h
      simp only [fixed, List.cons_append, List.cons_lt_cons_iff, Nat.pow_eq]
      have hm : m / 10 ^ width % 10 < 10 := Nat.mod_lt _ (by decide)
      have hn : n / 10 ^ width % 10 < 10 := Nat.mod_lt _ (by decide)
      rcases Nat.lt_trichotomy (m / 10 ^ width % 10) (n / 10 ^ width % 10) with hlt | heq | hgt
      · left
        have hchar : (digit (m / 10 ^ width % 10)).toNat < (digit (n / 10 ^ width % 10)).toNat := by
          rw [toNat_digit hm, toNat_digit hn]
          omega
        exact hchar
      · right
        rw [heq] at h ⊢
        exact ⟨rfl, ih (by omega)⟩
      · -- The first digit outweighs all that follow it.
        have hle : 10 ^ width * (n / 10 ^ width % 10 + 1) ≤ 10 ^ width * (m / 10 ^ width % 10) :=
          Nat.mul_le_mul_left _ hgt
        have hrest : n % 10 ^ width < 10 ^ width := Nat.mod_lt _ hpos
        rw [Nat.mul_add] at hle
        omega

end Logbook.Decimal
