import Mathlib.Data.List.TakeWhile
import Mathlib.Tactic
import Logbook.Calc.Token

namespace Logbook.Calc

variable {α : Type}

def InNumber (c : Char) : Prop :=
  c.isDigit = true ∨ c = '.' ∨ c = '_'

/-- A number as it is written: digits, of which those behind the point are places, and underscores. -/
structure IsNumber (A : Arithmetic α) (literal : List Char) (x : α) : Prop where
  starts : ∃ c rest, literal = c :: rest ∧ (c.isDigit = true ∨ c = '.')
  inNumber : ∀ c ∈ literal, InNumber c
  digit : ∃ c ∈ literal, c.isDigit = true
  point : literal.count '.' ≤ 1
  value : x = A.ofDecimal (Decimal.value (literal.filter Char.isDigit))
    ((literal.dropWhile (· != '.')).countP Char.isDigit)

inductive IsSymbol : Char → Token α → Prop where
  | plus : IsSymbol '+' .plus
  | minus : IsSymbol '-' .minus
  | times : IsSymbol '*' .times
  | divide : IsSymbol '/' .divide
  | modulo : IsSymbol '%' .modulo
  | opening : IsSymbol '(' .opening
  | closing : IsSymbol ')' .closing

/-- A text that spells tokens. Numbers are as long as can be, and two stars are one token. -/
inductive Spells (A : Arithmetic α) : List Char → List (Token α) → Prop where
  | nil : Spells A [] []
  | blank {c : Char} {cs : List Char} {ts : List (Token α)} :
      c = ' ' ∨ c = '\t' → Spells A cs ts → Spells A (c :: cs) ts
  | number {literal cs : List Char} {x : α} {ts : List (Token α)} :
      IsNumber A literal x → (∀ c, cs.head? = some c → ¬InNumber c) → Spells A cs ts →
        Spells A (literal ++ cs) (.number x :: ts)
  | power {cs : List Char} {ts : List (Token α)} :
      Spells A cs ts → Spells A ('*' :: '*' :: cs) (.power :: ts)
  | symbol {c : Char} {t : Token α} {cs : List Char} {ts : List (Token α)} :
      IsSymbol c t → (c = '*' → cs.head? ≠ some '*') → Spells A cs ts → Spells A (c :: cs) (t :: ts)

theorem isLiteral_iff {c : Char} : isLiteral c = true ↔ InNumber c := by
  simp [isLiteral, InNumber, or_assoc]

theorem symbol?_eq_some_iff {c : Char} {t : Token α} : symbol? c = some t ↔ IsSymbol c t := by
  constructor
  · intro h
    unfold symbol? at h
    split at h <;> cases h <;> constructor
  · intro h
    cases h <;> rfl

theorem not_isDigit_point : Char.isDigit '.' = false := by
  decide

theorem not_isDigit_underscore : Char.isDigit '_' = false := by
  decide

theorem filter_filter_literal {literal : List Char} (h : ∀ c ∈ literal, InNumber c) :
    (literal.filter (· != '_')).filter (· != '.') = literal.filter Char.isDigit := by
  rw [List.filter_filter]
  refine List.filter_congr fun c hc => ?_
  rcases h c hc with hdigit | rfl | rfl
  · have hpoint : c ≠ '.' := by
      rintro rfl
      simp [not_isDigit_point] at hdigit
    have hunderscore : c ≠ '_' := by
      rintro rfl
      simp [not_isDigit_underscore] at hdigit
    simp [hdigit, hpoint, hunderscore]
  · rfl
  · rfl

theorem length_filter_literal {literal : List Char} (h : ∀ c ∈ literal, InNumber c) :
    (literal.filter (· != '_')).length = literal.countP Char.isDigit + literal.count '.' := by
  induction literal with
  | nil => rfl
  | cons c cs ih =>
      rw [List.forall_mem_cons] at h
      have hrest := ih h.2
      rcases h.1 with hdigit | rfl | rfl
      · have hpoint : c ≠ '.' := by
          rintro rfl
          simp [not_isDigit_point] at hdigit
        have hunderscore : c ≠ '_' := by
          rintro rfl
          simp [not_isDigit_underscore] at hdigit
        simp only [List.filter_cons, bne_iff_ne, ne_eq, hunderscore, not_false_eq_true, if_true,
          List.length_cons, hrest, List.countP_cons, hdigit, List.count_cons_of_ne hpoint]
        omega
      · simp only [List.filter_cons, List.countP_cons, not_isDigit_point, List.count_cons_self]
        simp [hrest]
        omega
      · simp only [List.filter_cons, List.countP_cons, not_isDigit_underscore]
        simp [hrest]

theorem places_eq {literal : List Char} (h : ∀ c ∈ literal, InNumber c)
    (hpoint : literal.count '.' ≤ 1) :
    (literal.filter (· != '_')).length
        - (((literal.filter (· != '_')).takeWhile (· != '.')).length + 1) =
      (literal.dropWhile (· != '.')).countP Char.isDigit := by
  have hbefore : ∀ c ∈ literal.takeWhile (· != '.'), (c != '.') = true := by
    intro c hc
    have hne := List.mem_takeWhile_imp hc
    exact hne
  have hsplit := List.takeWhile_append_dropWhile (p := (· != '.')) (l := literal)
  cases hafter : literal.dropWhile (· != '.') with
  | nil =>
      rw [hafter, List.append_nil] at hsplit
      have hall : ∀ c ∈ literal.filter (· != '_'), (c != '.') = true := by
        intro c hc
        exact hbefore c (hsplit.symm ▸ List.mem_of_mem_filter hc)
      rw [List.takeWhile_eq_self_iff.mpr hall]
      simp
  | cons c after =>
      obtain rfl : c = '.' := by
        have hhead := List.head?_dropWhile_not (· != '.') literal
        rw [hafter] at hhead
        simpa using hhead
      rw [hafter] at hsplit
      generalize literal.takeWhile (· != '.') = before at hbefore hsplit
      subst hsplit
      have hnone : after.count '.' = 0 := by
        have hzero : before.count '.' = 0 :=
          List.count_eq_zero.mpr fun hmem => by simpa using hbefore _ hmem
        rw [List.count_append, List.count_cons_self, hzero] at hpoint
        omega
      have hbehind : ∀ c ∈ after, InNumber c := fun c hc => h c (by simp [hc])
      have hlength := length_filter_literal hbehind
      have hkept : ∀ c ∈ before.filter (· != '_'), (c != '.') = true :=
        fun c hc => hbefore c (List.mem_of_mem_filter hc)
      rw [List.filter_append, List.filter_cons_of_pos (by decide),
        List.takeWhile_append_of_pos hkept, List.takeWhile_cons_of_neg (by decide), List.append_nil,
        List.length_append, List.length_cons, hlength, hnone, List.countP_cons_of_neg (by decide)]
      omega

theorem number?_eq_some_iff (A : Arithmetic α) {literal : List Char} {x : α}
    (h : ∀ c ∈ literal, InNumber c) :
    number? A literal = some x ↔ (∃ c ∈ literal, c.isDigit = true) ∧ literal.count '.' ≤ 1 ∧
      x = A.ofDecimal (Decimal.value (literal.filter Char.isDigit))
        ((literal.dropWhile (· != '.')).countP Char.isDigit) := by
  have hlength := length_filter_literal h
  have hdigits : (literal.filter Char.isDigit).isEmpty = true ↔ ¬∃ c ∈ literal, c.isDigit = true := by
    simp
  simp only [number?, filter_filter_literal h, Option.ite_none_left_eq_some, Bool.or_eq_true,
    decide_eq_true_eq, hdigits, hlength, List.countP_eq_length_filter, Option.some.injEq, not_or,
    not_not, Nat.add_sub_cancel_left, not_lt, and_assoc]
  refine and_congr_right fun _ => and_congr_right fun hpoint => ?_
  rw [← List.countP_eq_length_filter, ← hlength, places_eq h hpoint, eq_comm,
    List.countP_eq_length_filter]

theorem isNumber_iff (A : Arithmetic α) {c : Char} {rest : List Char} {x : α}
    (hstart : c.isDigit = true ∨ c = '.') (h : ∀ d ∈ rest, InNumber d) :
    number? A (c :: rest) = some x ↔ IsNumber A (c :: rest) x := by
  have hall : ∀ d ∈ c :: rest, InNumber d :=
    List.forall_mem_cons.mpr ⟨hstart.imp_right Or.inl, h⟩
  rw [number?_eq_some_iff A hall]
  constructor
  · rintro ⟨hdigit, hpoint, hvalue⟩
    exact ⟨⟨c, rest, rfl, hstart⟩, hall, hdigit, hpoint, hvalue⟩
  · exact fun hnumber => ⟨hnumber.digit, hnumber.point, hnumber.value⟩

theorem map_eq_ok_iff {β γ ε : Type} {f : β → γ} {result : Except ε β} {y : γ} :
    result.map f = .ok y ↔ ∃ x, result = .ok x ∧ f x = y := by
  cases result <;> simp [Except.map]

theorem spells_of_tokenize (A : Arithmetic α) {cs : List Char} {ts : List (Token α)}
    (h : tokenize A cs = .ok ts) : Spells A cs ts := by
  fun_induction tokenize A cs generalizing ts with
  | case1 =>
      obtain rfl : [] = ts := Except.ok.inj h
      exact Spells.nil
  | case2 c cs hblank ih => exact Spells.blank (by simpa using hblank) (ih h)
  | case3 => simp at h
  | case4 c cs hblank hstart literal x hnumber =>
      rename_i ih
      obtain ⟨us, hus, rfl⟩ := map_eq_ok_iff.mp h
      have hrest : ∀ d ∈ cs.takeWhile isLiteral, InNumber d :=
        fun d hd => isLiteral_iff.mp (List.mem_takeWhile_imp hd)
      have hspelled := (isNumber_iff A (by simpa using hstart) hrest).mp hnumber
      have hends : ∀ d, (cs.dropWhile isLiteral).head? = some d → ¬InNumber d := by
        intro d hd
        have hhead := List.head?_dropWhile_not isLiteral cs
        rw [hd] at hhead
        rw [← isLiteral_iff]
        simpa using hhead
      have hall := Spells.number hspelled hends (ih hus)
      rwa [List.cons_append, List.takeWhile_append_dropWhile] at hall
  | case5 c cs hblank hstart hstars ih =>
      obtain ⟨us, hus, rfl⟩ := map_eq_ok_iff.mp h
      simp only [Bool.and_eq_true, beq_iff_eq] at hstars
      obtain ⟨rfl, hhead⟩ := hstars
      obtain ⟨rest, rfl⟩ := List.head?_eq_some_iff.mp hhead
      exact Spells.power (ih hus)
  | case6 => simp at h
  | case7 c cs hblank hstart hstars t hsymbol ih =>
      obtain ⟨us, hus, rfl⟩ := map_eq_ok_iff.mp h
      exact Spells.symbol (symbol?_eq_some_iff.mp hsymbol) (by simpa using hstars) (ih hus)

theorem tokenize_of_spells {A : Arithmetic α} {cs : List Char} {ts : List (Token α)}
    (h : Spells A cs ts) : tokenize A cs = .ok ts := by
  induction h with
  | nil => rw [tokenize]
  | blank hblank _ ih => rw [tokenize, if_pos (by simpa using hblank), ih]
  | @number literal cs x ts hnumber hends _ ih =>
      obtain ⟨c, rest, rfl, hstart⟩ := hnumber.starts
      have hrest : ∀ d ∈ rest, InNumber d := (List.forall_mem_cons.mp hnumber.inNumber).2
      have hliteral : ∀ d ∈ rest, isLiteral d = true := fun d hd => isLiteral_iff.mpr (hrest d hd)
      have hblank : ¬(c == ' ' || c == '\t') = true := by
        rcases hstart with hdigit | rfl
        · rw [Bool.or_eq_true, beq_iff_eq, beq_iff_eq]
          rintro (rfl | rfl) <;> exact absurd hdigit (by decide)
        · decide
      have htake : (rest ++ cs).takeWhile isLiteral = rest ∧ (rest ++ cs).dropWhile isLiteral = cs := by
        rw [List.takeWhile_append_of_pos hliteral, List.dropWhile_append_of_pos hliteral]
        cases cs with
        | nil => simp
        | cons d cs =>
            have hd : ¬isLiteral d = true := fun hd => hends d rfl (isLiteral_iff.mp hd)
            simp [hd]
      rw [List.cons_append, tokenize, if_neg hblank, if_pos (by simpa using hstart)]
      simp only [htake, (isNumber_iff A hstart hrest).mpr hnumber, ih]
      rfl
  | power _ ih =>
      rw [tokenize, if_neg (by decide), if_neg (by decide), if_pos (by simp), List.tail_cons, ih]
      rfl
  | @symbol c t cs ts hsymbol hstar _ ih =>
      have hblank : ¬(c == ' ' || c == '\t') = true := by cases hsymbol <;> decide
      have hstart : ¬(c.isDigit || c == '.') = true := by cases hsymbol <;> decide
      have hstars : ¬(c == '*' && cs.head? == some '*') = true := by simpa using hstar
      rw [tokenize, if_neg hblank, if_neg hstart, if_neg hstars]
      simp only [symbol?_eq_some_iff.mpr hsymbol, ih]
      rfl

theorem tokenize_eq_ok_iff (A : Arithmetic α) {cs : List Char} {ts : List (Token α)} :
    tokenize A cs = .ok ts ↔ Spells A cs ts :=
  ⟨spells_of_tokenize A, tokenize_of_spells⟩

theorem Spells.unique {A : Arithmetic α} {cs : List Char} {ts us : List (Token α)}
    (h : Spells A cs ts) (k : Spells A cs us) : ts = us :=
  Except.ok.inj ((tokenize_of_spells h).symm.trans (tokenize_of_spells k))

end Logbook.Calc
