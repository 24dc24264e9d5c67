import Mathlib.Tactic
import Logbook.Json.Printer
import Logbook.Json.Reader
import Logbook.Proofs.Text.Numerals

namespace Logbook.Json

theorem hexValue?_hexDigit {n : Nat} (h : n < 16) : hexValue? (hexDigit n) = some n := by
  interval_cases n <;> decide

theorem readHex4_control {n : Nat} (h : n < 0x20) (rest : List Char) :
    readHex4 ('0' :: '0' :: hexDigit (n / 16) :: hexDigit (n % 16) :: rest) = some (n, rest) := by
  have hzero : hexValue? '0' = some 0 := by decide
  have hvalue : 16 * (n / 16) + n % 16 = n := Nat.div_add_mod n 16
  simp [readHex4, hzero, hexValue?_hexDigit (Nat.mod_lt n (by decide : 16 > 0)),
    hexValue?_hexDigit (by omega : n / 16 < 16), hvalue]

theorem readCodeUnits_control {c : Char} (h : c.toNat < 0x20) (rest : List Char) :
    readCodeUnits ('0' :: '0' :: hexDigit (c.toNat / 16) :: hexDigit (c.toNat % 16) :: rest) =
      some (c, rest) := by
  have hlow : ¬(0xDC00 ≤ c.toNat ∧ c.toNat ≤ 0xDFFF) := by omega
  have hhigh : ¬(0xD800 ≤ c.toNat ∧ c.toNat ≤ 0xDBFF) := by omega
  simp [readCodeUnits, readHex4_control h, hlow, hhigh]

theorem readString_escapeChar (fuel : Nat) (c : Char) (rest : List Char) :
    readString (fuel + 1) (escapeChar c ++ rest) =
      (readString fuel rest).map fun p => (c :: p.1, p.2) := by
  have hbind : ∀ x : Option (List Char × List Char),
      (x.bind fun p => some (c :: p.1, p.2)) = x.map fun p => (c :: p.1, p.2) := by
    rintro (_ | _) <;> rfl
  unfold escapeChar
  split_ifs with hquote hslash hb hf hn hr ht hcontrol
  case pos | pos | pos | pos | pos | pos | pos =>
    subst c
    simp [readString, readEscape, ← hbind]
  case pos =>
    simp [readString, readEscape, readCodeUnits_control hcontrol, ← hbind]
  case neg =>
    simp [readString, hquote, hslash, hcontrol, ← hbind]

theorem readString_flatMap {cs : List Char} {fuel : Nat} (h : cs.length < fuel) (rest : List Char) :
    readString fuel (cs.flatMap escapeChar ++ '"' :: rest) = some (cs, rest) := by
  induction cs generalizing fuel with
  | nil =>
      obtain ⟨fuel, rfl⟩ := Nat.exists_eq_succ_of_ne_zero (Nat.ne_zero_of_lt h)
      simp [readString]
  | cons c cs ih =>
      obtain ⟨fuel, rfl⟩ := Nat.exists_eq_succ_of_ne_zero (Nat.ne_zero_of_lt h)
      rw [List.flatMap_cons, List.append_assoc, readString_escapeChar,
        ih (by simpa using h)]
      rfl

theorem length_le_length_flatMap (cs : List Char) : cs.length ≤ (cs.flatMap escapeChar).length := by
  induction cs with
  | nil => simp
  | cons c cs ih =>
      have hpos : 0 < (escapeChar c).length := by
        unfold escapeChar
        split_ifs <;> simp
      rw [List.flatMap_cons, List.length_append, List.length_cons]
      omega

theorem readString_text (s : String) (rest : List Char) :
    readString ((s.toList.flatMap escapeChar ++ '"' :: rest).length + 1)
      (s.toList.flatMap escapeChar ++ '"' :: rest) = some (s.toList, rest) := by
  refine readString_flatMap ?_ rest
  have hle := length_le_length_flatMap s.toList
  simp only [List.length_append, List.length_cons]
  omega

/-- The digits of a whole number, where a zero stands only alone in front. -/
structure IsWhole (ds : List Char) : Prop where
  digits : Decimal.AreDigits ds
  zero : ds.head? = some '0' → ds = ['0']

theorem isWhole_digits (n : Nat) : IsWhole (Decimal.digits n) where
  digits := Decimal.areDigits_digits n
  zero := by
    intro h
    rw [Decimal.eq_zero_of_head?_digits h]
    rfl

/-- The part of a number behind its point, with the point, if there is one. -/
inductive IsFraction : List Char → Prop where
  | absent : IsFraction []
  | places {ds : List Char} : Decimal.AreDigits ds → IsFraction ('.' :: ds)

/-- A number as JSON has it, written without an exponent. -/
inductive IsDecimal : List Char → Prop where
  | positive {ds places : List Char} : IsWhole ds → IsFraction places → IsDecimal (ds ++ places)
  | negative {ds places : List Char} : IsWhole ds → IsFraction places →
      IsDecimal ('-' :: (ds ++ places))

/-- A text goes on with a character that may belong to a number. -/
def ContinuesNumber (cs : List Char) : Prop :=
  ∃ c ∈ cs.head?, c.isDigit = true ∨ c = '.' ∨ c = 'e' ∨ c = 'E'

theorem takeDigits_append {ds rest : List Char} (h : Decimal.AreDigits ds)
    (hrest : ∀ c ∈ rest.head?, c.isDigit = false) : takeDigits (ds ++ rest) = (ds, rest) := by
  rw [takeDigits, List.takeWhile_append_of_pos h.2, List.dropWhile_append_of_pos h.2]
  cases rest with
  | nil => simp
  | cons c rest => simp [hrest c rfl]

theorem isDigit_of_not_continuesNumber {rest : List Char} (h : ¬ContinuesNumber rest) :
    ∀ c ∈ rest.head?, c.isDigit = false := by
  intro c hc
  by_contra hdigit
  exact h ⟨c, hc, Or.inl (by simpa using hdigit)⟩

theorem readFraction_append {places rest : List Char} (h : IsFraction places)
    (hrest : ¬ContinuesNumber rest) : readFraction (places ++ rest) = some (places, rest) := by
  cases h with
  | absent =>
      cases rest with
      | nil => rfl
      | cons c rest =>
          have hpoint : c ≠ '.' := fun heq => hrest ⟨c, rfl, Or.inr (Or.inl heq)⟩
          simp [readFraction, hpoint]
  | places hds =>
      simp [readFraction, takeDigits_append hds (isDigit_of_not_continuesNumber hrest), hds.1]

theorem readExponent_of_not_continuesNumber {rest : List Char} (h : ¬ContinuesNumber rest) :
    readExponent rest = some ([], rest) := by
  cases rest with
  | nil => rfl
  | cons c rest =>
      have hexponent : ¬(c = 'e' ∨ c = 'E') := fun heq => h ⟨c, rfl, Or.inr (Or.inr heq)⟩
      simp [readExponent, hexponent]

theorem IsWhole.takeDigits_append {ds places rest : List Char} (h : IsWhole ds)
    (hplaces : IsFraction places) (hrest : ¬ContinuesNumber rest) :
    takeDigits (ds ++ (places ++ rest)) = (ds, places ++ rest) := by
  refine Json.takeDigits_append h.digits ?_
  cases hplaces with
  | absent => exact isDigit_of_not_continuesNumber hrest
  | places => simp

theorem IsWhole.not_padded {ds : List Char} (h : IsWhole ds) :
    (ds.isEmpty || (ds.head? == some '0' && 1 < ds.length)) = false := by
  by_cases hzero : ds.head? = some '0'
  · simp [h.zero hzero]
  · simp [hzero, h.digits.1]

theorem readNumber_append {cs rest : List Char} (h : IsDecimal cs) (hrest : ¬ContinuesNumber rest) :
    readNumber (cs ++ rest) = some (cs, rest) := by
  cases h with
  | @positive ds places hds hplaces =>
      rw [List.append_assoc, readNumber]
      · simp [hds.takeDigits_append hplaces hrest, hds.not_padded, readFraction_append hplaces hrest,
          readExponent_of_not_continuesNumber hrest]
      · intro cs hsign
        obtain ⟨d, ds, rfl⟩ := List.exists_cons_of_ne_nil hds.digits.1
        obtain rfl : d = '-' := List.head_eq_of_cons_eq hsign
        exact absurd (hds.digits.2 '-' (by simp)) (by decide)
  | @negative ds places hds hplaces =>
      simp only [List.cons_append, List.append_assoc, readNumber]
      simp [hds.takeDigits_append hplaces hrest, hds.not_padded, readFraction_append hplaces hrest,
        readExponent_of_not_continuesNumber hrest]

end Logbook.Json
