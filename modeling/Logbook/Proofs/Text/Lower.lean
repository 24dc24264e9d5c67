import Mathlib.Tactic
import Logbook.Text.Basic
import Logbook.Unicode.Case

/-!
Lower case of words that are to be ASCII letters. Only the letters of the word in capitals or in lower
case become such a word, unless it holds a k: the sign for kelvin becomes one too.
-/

namespace Logbook

namespace Unicode

/-- Nothing but an ASCII character has this character in its lower case. -/
def IsPlain (c : Char) : Prop :=
  c.toNat < 0x80 ∧ c ≠ 'k'

instance (c : Char) : Decidable (IsPlain c) :=
  inferInstanceAs (Decidable (_ ∧ _))

/-- A word of such characters. -/
def IsPlainWord (word : List Char) : Prop :=
  ∀ c ∈ word, IsPlain c

instance (word : List Char) : Decidable (IsPlainWord word) :=
  decidable_of_iff ((word.all fun c => decide (IsPlain c)) = true) (by simp [IsPlainWord])

theorem readNumbers_map_ofList (rows : List (List Char)) :
    readNumbers (rows.map String.ofList) =
      rows.flatMap fun cs =>
        (cs.splitOn ' ').map fun ds => ds.foldl (fun n d => 36 * n + digitValue d) 0 := by
  simp [readNumbers, List.flatMap_map]

theorem lowerPairs_isPlain : ∀ p ∈ lowerPairs, IsPlain (Char.ofNat p.2) → p.1 < 0x80 := by
  -- The characters of the table are found by unification. The kernel takes long to decode its texts.
  have hrows : ∃ rows : List (List Char), lowerRows = rows.map String.ofList ∧
      ∀ p ∈ pairsOfRows (rows.flatMap fun cs =>
        (cs.splitOn ' ').map fun ds => ds.foldl (fun n d => 36 * n + digitValue d) 0),
        IsPlain (Char.ofNat p.2) → p.1 < 0x80 := by
    refine ⟨[_, _, _, _, _, _, _, _, _, _, _, _, _, _, _, _, _, _, _, _, _, _], rfl, ?_⟩
    decide +kernel
  obtain ⟨rows, hrows, hplain⟩ := hrows
  rw [lowerPairs, hrows, readNumbers_map_ofList]
  exact hplain

theorem lowerChar_of_lt {c : Char} (h : c.toNat < 0x80) : lowerChar c = [c.toLower] :=
  if_pos h

theorem lowerChar_cases {c : Char} (h : 0x80 ≤ c.toNat) :
    lowerChar c = ['i', '\u0307'] ∨ ∃ d, lowerChar c = [d] ∧ ¬IsPlain d := by
  rw [lowerChar, if_neg (by omega)]
  split
  · exact Or.inl rfl
  · split
    · rename_i source image hfind
      have hsource : source = c.toNat := by simpa using List.find?_some hfind
      refine Or.inr ⟨Char.ofNat image, rfl, fun hplain => ?_⟩
      have hlt := lowerPairs_isPlain _ (List.mem_of_find?_eq_some hfind) hplain
      omega
    · exact Or.inr ⟨c, rfl, fun hplain => by have hlt := hplain.1; omega⟩

theorem exists_not_isPlain_mem_lowerChar {c : Char} (h : 0x80 ≤ c.toNat) :
    ∃ d ∈ lowerChar c, ¬IsPlain d := by
  rcases lowerChar_cases h with heq | ⟨d, heq, hplain⟩
  · exact ⟨'\u0307', by simp [heq], by decide⟩
  · exact ⟨d, by simp [heq], hplain⟩

theorem lowerFrom_of_lt (before : List Char) {cs : List Char} (h : ∀ c ∈ cs, c.toNat < 0x80) :
    lowerFrom before cs = cs.map Char.toLower := by
  induction cs generalizing before with
  | nil => rfl
  | cons c cs ih =>
      rw [List.forall_mem_cons] at h
      have hsigma : c ≠ '\u03A3' := by
        rintro rfl
        exact absurd h.1 (by decide)
      simp only [lowerFrom, if_neg hsigma, lowerChar_of_lt h.1, ih _ h.2]
      rfl

theorem exists_not_isPlain_mem_lowerFrom (before : List Char) {cs : List Char} {c : Char} (hc : c ∈ cs)
    (h : 0x80 ≤ c.toNat) : ∃ d ∈ lowerFrom before cs, ¬IsPlain d := by
  induction cs generalizing before with
  | nil => simp at hc
  | cons head cs ih =>
      simp only [lowerFrom]
      rcases List.mem_cons.mp hc with rfl | hc
      · split
        · split
          · exact ⟨'\u03C2', by simp, by decide⟩
          · exact ⟨'\u03C3', by simp, by decide⟩
        · obtain ⟨d, hd, hplain⟩ := exists_not_isPlain_mem_lowerChar h
          exact ⟨d, List.mem_append_left _ hd, hplain⟩
      · obtain ⟨d, hd, hplain⟩ := ih (head :: before) hc
        exact ⟨d, List.mem_append_right _ hd, hplain⟩

theorem toLower_of_not_isUpper {c : Char} (h : c.isUpper = false) : c.toLower = c :=
  dif_neg (of_decide_eq_false h)

theorem isUpper_eq_false_of_le {c : Char} (h : 0x80 ≤ c.toNat) : c.isUpper = false := by
  refine decide_eq_false ?_
  rintro ⟨-, hle⟩
  have hz : c.toNat ≤ 'Z'.toNat := hle
  exact absurd (h.trans hz) (by decide)

theorem lower_eq_iff {cs word : List Char} (hword : ∀ c ∈ word, IsPlain c) :
    lower cs = word ↔ cs.map Char.toLower = word := by
  by_cases hascii : ∀ c ∈ cs, c.toNat < 0x80
  · rw [lower, lowerFrom_of_lt [] hascii]
  push Not at hascii
  obtain ⟨c, hc, hle⟩ := hascii
  constructor
  · rintro rfl
    obtain ⟨d, hd, hplain⟩ := exists_not_isPlain_mem_lowerFrom [] hc hle
    exact absurd (hword d hd) hplain
  · rintro rfl
    have hlt := (hword c.toLower (List.mem_map_of_mem hc)).1
    rw [toLower_of_not_isUpper (isUpper_eq_false_of_le hle)] at hlt
    omega

/-- A character outside ASCII starts no such word in lower case, except that the i with a dot starts with
an i. -/
theorem not_isPrefix_lowerFrom {before cs : List Char} {c : Char} (h : 0x80 ≤ c.toNat) {d : Char}
    {word : List Char} (hword : IsPlainWord (d :: word)) (hlast : (d :: word).getLast? ≠ some 'i') :
    ¬(d :: word) <+: lowerFrom before (c :: cs) := by
  have himage : ∀ e, ¬IsPlain e → ¬(d :: word) <+: [e] ++ lowerFrom (c :: before) cs := by
    intro e hplain hbegins
    obtain ⟨rfl, -⟩ := List.cons_prefix_cons.mp hbegins
    exact hplain (hword d List.mem_cons_self)
  rw [lowerFrom]
  split
  · split
    · exact himage _ (by decide)
    · exact himage _ (by decide)
  · rcases lowerChar_cases h with heq | ⟨e, heq, hplain⟩
    · rw [heq]
      intro hbegins
      obtain ⟨rfl, hbehind⟩ := List.cons_prefix_cons.mp hbegins
      rcases List.prefix_cons_iff.mp hbehind with rfl | ⟨rest, rfl, -⟩
      · exact hlast rfl
      · exact absurd (hword '\u0307' (by simp)) (by decide)
    · rw [heq]
      exact himage e hplain

/-- A text starts in lower case with a word of such letters if it does so up to the case of ASCII letters,
unless the word ends in an i. -/
theorem isPrefix_lower_iff {cs word : List Char} (hword : IsPlainWord word)
    (hlast : word.getLast? ≠ some 'i') : word <+: lower cs ↔ word <+: cs.map Char.toLower := by
  rw [lower]
  generalize ([] : List Char) = before
  induction cs generalizing word before with
  | nil => rfl
  | cons c cs ih =>
      cases word with
      | nil => simp
      | cons d word =>
          by_cases hascii : c.toNat < 0x80
          · have hsigma : c ≠ '\u03A3' := by
              rintro rfl
              exact absurd hascii (by decide)
            have hrest : word.getLast? ≠ some 'i' := by
              intro hi
              exact hlast (by simp [List.getLast?_cons, hi])
            have hih := ih (fun e he => hword e (List.mem_cons_of_mem _ he)) hrest (c :: before)
            simp only [lowerFrom, if_neg hsigma, lowerChar_of_lt hascii, List.map_cons,
              List.cons_append, List.nil_append, List.cons_prefix_cons, hih]
          · have hle : 0x80 ≤ c.toNat := by omega
            refine iff_of_false (not_isPrefix_lowerFrom hle hword hlast) fun hbegins => ?_
            have hd : d = c := by
              have heq := (List.cons_prefix_cons.mp hbegins).1
              rwa [toLower_of_not_isUpper (isUpper_eq_false_of_le hle)] at heq
            have hlt := (hword d List.mem_cons_self).1
            rw [hd] at hlt
            omega

end Unicode

namespace Text

theorem isUpper_eq_false_of_isBlank {c : Char} (h : isBlank c = true) : c.isUpper = false := by
  refine decide_eq_false ?_
  rintro ⟨hle, hge⟩
  have ha : 65 ≤ c.toNat := hle
  have hz : c.toNat ≤ 90 := hge
  simp only [isBlank, Bool.or_eq_true, Bool.and_eq_true, decide_eq_true_eq, beq_iff_eq] at h
  omega

theorem isBlank_of_map_toLower {cs word : List Char} (h : cs.map Char.toLower = word)
    (hword : ∀ c ∈ word, isBlank c = false) : ∀ c ∈ cs, isBlank c = false := by
  intro c hc
  by_contra hblank
  have htrue : isBlank c = true := by simpa using hblank
  have hlower : c ∈ word := by
    rw [← h, ← Unicode.toLower_of_not_isUpper (isUpper_eq_false_of_isBlank htrue)]
    exact List.mem_map_of_mem hc
  exact hblank (hword c hlower)

end Text

end Logbook
