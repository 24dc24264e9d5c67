import Logbook.Calc.Evaluate
import Logbook.Proofs.Calc.Grammar
import Logbook.Proofs.Calc.Spelling

/-!
Evaluation reads derivation trees: an expression has a value if and only if its tokens have a tree that is
not too deep and divides by nothing that is zero, and the value is that of the tree.
-/

namespace Logbook.Calc

variable {α : Type} {A : Arithmetic α} {depth : Nat} {us : List (Token α)}

theorem bind_eq_ok_iff {β γ ε : Type} {result : Except ε β} {f : β → Except ε γ} {y : γ} :
    (result >>= f) = .ok y ↔ ∃ x, result = .ok x ∧ f x = .ok y := by
  cases result <;> simp [bind, Except.bind]

/-- A reader of a symbol takes the tokens that the relation names, where what is left over cannot go on
with the symbol. -/
def Reads (reader : Reader α) (s : Part) (Q : List (Token α) → α → Prop) : Prop :=
  ∀ ts y rest, reader ts = .ok (y, rest) ↔ ∃ us, ts = us ++ rest ∧ Q us y ∧ s.Ends rest

/-- Steps of an operator and an operand, from a value to a value. -/
inductive Chained (operation : Token α → Option (Operation α)) (Q : List (Token α) → α → Prop) :
    α → List (Token α) → α → Prop where
  | nil {x : α} : Chained operation Q x [] x
  | cons {t : Token α} {f : Operation α} {us vs : List (Token α)} {x y z w : α} :
      operation t = some f → Q us y → f x y = .ok z → Chained operation Q z vs w →
        Chained operation Q x (t :: (us ++ vs)) w

section Chain

variable {operation : Token α → Option (Operation α)} {operand : Reader α} {s s' : Part}
  {Q : List (Token α) → α → Prop}

theorem chained_nil_iff {x w : α} : Chained operation Q x [] w ↔ x = w := by
  constructor
  · intro h
    cases h
    rfl
  · rintro rfl
    exact Chained.nil

theorem Chained.ends (hop : ∀ t, operation t ≠ none ↔ t.level = s'.level)
    (hlevel : s'.level = s.level + 1) {x w : α} {vs rest : List (Token α)}
    (h : Chained operation Q x vs w) (hrest : s'.Ends rest) : s.Ends (vs ++ rest) := by
  cases h with
  | nil => exact hrest.mono (by omega)
  | @cons t f us vs _ _ _ _ ht _ _ _ =>
      have ht : t.level = s'.level := (hop t).mp (by simp [ht])
      rw [List.cons_append, Part.ends_cons]
      omega

theorem chainFrom_eq_ok_iff (h : Reads operand s Q)
    (hop : ∀ t, operation t ≠ none ↔ t.level = s'.level) (hlevel : s'.level = s.level + 1)
    {fuel : Nat} {x w : α} {ts rest : List (Token α)} (hfuel : ts.length ≤ fuel) (hends : s.Ends ts) :
    chainFrom operation operand fuel x ts = .ok (w, rest) ↔
      ∃ us, ts = us ++ rest ∧ Chained operation Q x us w ∧ s'.Ends rest := by
  have hnil : ∀ x : α, Except.ok (x, []) = (.ok (w, rest) : Except Fault _) ↔
      ∃ us, [] = us ++ rest ∧ Chained operation Q x us w ∧ s'.Ends rest := by
    intro x
    constructor
    · rintro ⟨⟩
      exact ⟨[], rfl, Chained.nil, s'.ends_nil⟩
    · rintro ⟨us, heq, hus, -⟩
      obtain ⟨rfl, rfl⟩ := List.append_eq_nil_iff.mp heq.symm
      rw [chained_nil_iff.mp hus]
  induction fuel generalizing x ts with
  | zero =>
      obtain rfl : ts = [] := List.eq_nil_of_length_eq_zero (Nat.le_zero.mp hfuel)
      exact hnil x
  | succ fuel ih =>
      cases ts with
      | nil => exact hnil x
      | cons t ts =>
          have hstays : s.level < t.level := Part.ends_cons.mp hends
          simp only [chainFrom]
          cases ht : operation t with
          | none =>
              have hne : ¬t.level = s'.level := fun hne => (hop t).mpr hne ht
              constructor
              · rintro ⟨⟩
                exact ⟨[], rfl, Chained.nil, Part.ends_cons.mpr (by omega)⟩
              · rintro ⟨us, heq, hus, -⟩
                cases hus with
                | nil => rw [heq]; rfl
                | cons ht' _ _ _ =>
                    obtain ⟨rfl, -⟩ := List.cons.inj heq
                    simp [ht] at ht'
          | some f =>
              have hsame : t.level = s'.level := (hop t).mp (by simp [ht])
              simp only [bind_eq_ok_iff, Prod.exists, h _ _ _]
              constructor
              · rintro ⟨y, rest', ⟨us, rfl, hus, hends'⟩, z, hz, hchain⟩
                obtain ⟨vs, rfl, hvs, hrest⟩ := (ih (by simp at hfuel; omega) hends').mp hchain
                exact ⟨t :: (us ++ vs), by simp, Chained.cons ht hus hz hvs, hrest⟩
              · rintro ⟨us, heq, hus, hrest⟩
                cases hus with
                | nil =>
                    obtain rfl : _ = rest := heq
                    exact absurd (Part.ends_cons.mp hrest) (by omega)
                | @cons t' f' us vs _ y z _ ht' hus hz hvs =>
                    obtain ⟨rfl, rfl⟩ := List.cons.inj heq
                    obtain rfl : f = f' := Option.some.inj (ht.symm.trans ht')
                    have hends' := hvs.ends hop hlevel hrest
                    refine ⟨y, vs ++ rest, ⟨us, by simp, hus, hends'⟩, z, hz, ?_⟩
                    exact (ih (by simp at hfuel ⊢; omega) hends').mpr ⟨vs, rfl, hvs, hrest⟩

theorem Reads.chain (h : Reads operand s Q) (hop : ∀ t, operation t ≠ none ↔ t.level = s'.level)
    (hlevel : s'.level = s.level + 1) :
    Reads (chain operation operand) s' fun us w =>
      ∃ vs x ws, us = vs ++ ws ∧ Q vs x ∧ Chained operation Q x ws w := by
  intro ts w rest
  simp only [Calc.chain, bind_eq_ok_iff, Prod.exists, h _ _ _]
  constructor
  · rintro ⟨x, rest', ⟨vs, rfl, hvs, hends⟩, hchain⟩
    obtain ⟨ws, rfl, hws, hrest⟩ := (chainFrom_eq_ok_iff h hop hlevel le_rfl hends).mp hchain
    exact ⟨vs ++ ws, by simp, ⟨vs, x, ws, rfl, hvs, hws⟩, hrest⟩
  · rintro ⟨-, rfl, ⟨vs, x, ws, rfl, hvs, hws⟩, hrest⟩
    have hends := hws.ends hop hlevel hrest
    refine ⟨x, ws ++ rest, ⟨vs, by simp, hvs, hends⟩, ?_⟩
    exact (chainFrom_eq_ok_iff h hop hlevel le_rfl hends).mpr ⟨ws, rfl, hws, hrest⟩

end Chain

/-- The tokens have a tree of the symbol with the given value. It is not too deep and divides by nothing
that is zero. -/
def Derives (A : Arithmetic α) (depth : Nat) (s : Part) (us : List (Token α)) (y : s.Value α) : Prop :=
  ∃ t : Tree α s, t.tokens = us ∧ t.unaryDepth ≤ depth ∧ t.DivisorsNonzero A ∧ t.value A = y

theorem sumOperation_eq_ok_iff {t : Token α} {x y z : α} :
    (∃ f, sumOperation A t = some f ∧ f x y = .ok z) ↔
      ∃ sign : SumSign, t = sign.token ∧ sign.apply A x y = z := by
  constructor
  · rintro ⟨f, hf, hz⟩
    cases t <;> cases hf <;> cases hz
    · exact ⟨.plus, rfl, rfl⟩
    · exact ⟨.minus, rfl, rfl⟩
  · rintro ⟨sign, rfl, rfl⟩
    cases sign <;> exact ⟨_, rfl, rfl⟩

theorem productOperation_eq_ok_iff {t : Token α} {x y z : α} :
    (∃ f, productOperation A t = some f ∧ f x y = .ok z) ↔
      ∃ sign : ProductSign, t = sign.token ∧ (sign.Divides → A.isZero y = false) ∧
        sign.apply A x y = z := by
  have hdivisor : ∀ {quotient : α}, (if A.isZero y then .error .divisionByZero else .ok quotient) =
      (.ok z : Except Fault α) ↔ A.isZero y = false ∧ quotient = z := by
    intro quotient
    cases A.isZero y <;> simp
  constructor
  · rintro ⟨f, hf, hz⟩
    cases t <;> cases hf
    · cases hz
      exact ⟨.times, rfl, fun h => absurd rfl h, rfl⟩
    · obtain ⟨hzero, rfl⟩ := hdivisor.mp hz
      exact ⟨.divide, rfl, fun _ => hzero, rfl⟩
    · obtain ⟨hzero, rfl⟩ := hdivisor.mp hz
      exact ⟨.modulo, rfl, fun _ => hzero, rfl⟩
  · rintro ⟨sign, rfl, hzero, rfl⟩
    cases sign with
    | times => exact ⟨_, rfl, rfl⟩
    | divide => exact ⟨_, rfl, hdivisor.mpr ⟨hzero (by simp [ProductSign.Divides]), rfl⟩⟩
    | modulo => exact ⟨_, rfl, hdivisor.mpr ⟨hzero (by simp [ProductSign.Divides]), rfl⟩⟩

theorem sumOperation_ne_none_iff (t : Token α) :
    sumOperation A t ≠ none ↔ t.level = Part.expr.level := by
  cases t <;> simp [sumOperation, Token.level, Part.level]

theorem productOperation_ne_none_iff (t : Token α) :
    productOperation A t ≠ none ↔ t.level = Part.term.level := by
  cases t <;> simp [productOperation, Token.level, Part.level]

theorem chained_of_exprTail : ∀ (t : Tree α .exprTail) (x : α), t.unaryDepth ≤ depth →
    t.DivisorsNonzero A →
      Chained (sumOperation A) (Derives A depth .term) x t.tokens (t.value A x)
  | .sumEnd, _, _, _ => Chained.nil
  | .sumStep sign t rest, x, hdepth, hnonzero => by
      obtain ⟨f, hf, hz⟩ := sumOperation_eq_ok_iff.mpr ⟨sign, rfl, rfl⟩
      have hrest := chained_of_exprTail rest (sign.apply A x (t.value A))
        ((le_max_right _ _).trans hdepth) hnonzero.2
      exact Chained.cons hf ⟨t, rfl, (le_max_left _ _).trans hdepth, hnonzero.1, rfl⟩ hz hrest

theorem chained_of_termTail : ∀ (t : Tree α .termTail) (x : α), t.unaryDepth ≤ depth →
    t.DivisorsNonzero A →
      Chained (productOperation A) (Derives A depth .unary) x t.tokens (t.value A x)
  | .productEnd, _, _, _ => Chained.nil
  | .productStep sign t rest, x, hdepth, hnonzero => by
      obtain ⟨f, hf, hz⟩ := productOperation_eq_ok_iff.mpr ⟨sign, rfl, hnonzero.1, rfl⟩
      have hrest := chained_of_termTail rest (sign.apply A x (t.value A))
        ((le_max_right _ _).trans hdepth) hnonzero.2.2
      exact Chained.cons hf ⟨t, rfl, (le_max_left _ _).trans hdepth, hnonzero.2.1, rfl⟩ hz hrest

theorem derives_exprTail_of_chained {x w : α}
    (h : Chained (sumOperation A) (Derives A depth .term) x us w) :
    ∃ f, Derives A depth .exprTail us f ∧ f x = w := by
  induction h with
  | nil => exact ⟨id, ⟨.sumEnd, rfl, Nat.zero_le _, trivial, rfl⟩, rfl⟩
  | cons ht hus hz _ ih =>
      obtain ⟨sign, rfl, rfl⟩ := sumOperation_eq_ok_iff.mp ⟨_, ht, hz⟩
      obtain ⟨t, rfl, hdepth, hnonzero, rfl⟩ := hus
      obtain ⟨-, ⟨rest, rfl, hdepth', hnonzero', rfl⟩, rfl⟩ := ih
      exact ⟨_, ⟨.sumStep sign t rest, rfl, max_le hdepth hdepth', ⟨hnonzero, hnonzero'⟩, rfl⟩, rfl⟩

theorem derives_termTail_of_chained {x w : α}
    (h : Chained (productOperation A) (Derives A depth .unary) x us w) :
    ∃ f, Derives A depth .termTail us f ∧ f x = w := by
  induction h with
  | nil => exact ⟨id, ⟨.productEnd, rfl, Nat.zero_le _, trivial, rfl⟩, rfl⟩
  | cons ht hus hz _ ih =>
      obtain ⟨sign, rfl, hzero, rfl⟩ := productOperation_eq_ok_iff.mp ⟨_, ht, hz⟩
      obtain ⟨t, rfl, hdepth, hnonzero, rfl⟩ := hus
      obtain ⟨-, ⟨rest, rfl, hdepth', hnonzero', rfl⟩, rfl⟩ := ih
      exact ⟨_, ⟨.productStep sign t rest, rfl, max_le hdepth hdepth', ⟨hzero, hnonzero, hnonzero'⟩,
        rfl⟩, rfl⟩

theorem derives_expr_iff {y : α} : Derives A depth .expr us y ↔
    ∃ vs x ws, us = vs ++ ws ∧ Derives A depth .term vs x ∧
      Chained (sumOperation A) (Derives A depth .term) x ws y := by
  constructor
  · rintro ⟨t, rfl, hdepth, hnonzero, rfl⟩
    cases t with
    | sum first rest =>
        obtain ⟨hfirst, hrest⟩ := max_le_iff.mp hdepth
        exact ⟨_, _, _, rfl, ⟨first, rfl, hfirst, hnonzero.1, rfl⟩,
          chained_of_exprTail rest _ hrest hnonzero.2⟩
  · rintro ⟨-, -, ws, rfl, ⟨first, rfl, hfirst, hnonzero, rfl⟩, hchain⟩
    obtain ⟨-, ⟨rest, rfl, hrest, hnonzero', rfl⟩, rfl⟩ := derives_exprTail_of_chained hchain
    exact ⟨.sum first rest, rfl, max_le hfirst hrest, ⟨hnonzero, hnonzero'⟩, rfl⟩

theorem derives_term_iff {y : α} : Derives A depth .term us y ↔
    ∃ vs x ws, us = vs ++ ws ∧ Derives A depth .unary vs x ∧
      Chained (productOperation A) (Derives A depth .unary) x ws y := by
  constructor
  · rintro ⟨t, rfl, hdepth, hnonzero, rfl⟩
    cases t with
    | product first rest =>
        obtain ⟨hfirst, hrest⟩ := max_le_iff.mp hdepth
        exact ⟨_, _, _, rfl, ⟨first, rfl, hfirst, hnonzero.1, rfl⟩,
          chained_of_termTail rest _ hrest hnonzero.2⟩
  · rintro ⟨-, -, ws, rfl, ⟨first, rfl, hfirst, hnonzero, rfl⟩, hchain⟩
    obtain ⟨-, ⟨rest, rfl, hrest, hnonzero', rfl⟩, rfl⟩ := derives_termTail_of_chained hchain
    exact ⟨.product first rest, rfl, max_le hfirst hrest, ⟨hnonzero, hnonzero'⟩, rfl⟩

theorem derives_atom_iff {y : α} : Derives A depth .atom us y ↔
    us = [.number y] ∨ ∃ vs, us = .opening :: (vs ++ [.closing]) ∧ Derives A depth .expr vs y := by
  constructor
  · rintro ⟨t, rfl, hdepth, hnonzero, rfl⟩
    cases t with
    | number x => exact Or.inl rfl
    | group e => exact Or.inr ⟨_, rfl, e, rfl, hdepth, hnonzero, rfl⟩
  · rintro (rfl | ⟨-, rfl, e, rfl, hdepth, hnonzero, rfl⟩)
    · exact ⟨.number y, rfl, Nat.zero_le _, trivial, rfl⟩
    · exact ⟨.group e, rfl, hdepth, hnonzero, rfl⟩

theorem derives_power_iff {y : α} : Derives A depth .power us y ↔
    Derives A depth .atom us y ∨ ∃ vs x ws z, us = vs ++ .power :: ws ∧ Derives A depth .atom vs x ∧
      Derives A depth .unary ws z ∧ A.pow x z = y := by
  constructor
  · rintro ⟨t, rfl, hdepth, hnonzero, rfl⟩
    cases t with
    | plain base => exact Or.inl ⟨base, rfl, hdepth, hnonzero, rfl⟩
    | raised base exponent =>
        obtain ⟨hbase, hexponent⟩ := max_le_iff.mp hdepth
        exact Or.inr ⟨_, _, _, _, rfl, ⟨base, rfl, hbase, hnonzero.1, rfl⟩,
          ⟨exponent, rfl, hexponent, hnonzero.2, rfl⟩, rfl⟩
  · rintro (⟨base, rfl, hdepth, hnonzero, rfl⟩ | ⟨-, -, -, -, rfl, ⟨base, rfl, hbase, hnonzero, rfl⟩,
      ⟨exponent, rfl, hexponent, hnonzero', rfl⟩, rfl⟩)
    · exact ⟨.plain base, rfl, hdepth, hnonzero, rfl⟩
    · exact ⟨.raised base exponent, rfl, max_le hbase hexponent, ⟨hnonzero, hnonzero'⟩, rfl⟩

theorem not_derives_unary_zero {y : α} : ¬Derives A 0 .unary us y := by
  rintro ⟨t, -, hdepth, -, -⟩
  cases t <;> exact absurd hdepth (Nat.not_succ_le_zero _)

theorem derives_unary_succ_iff {y : α} : Derives A (depth + 1) .unary us y ↔
    (∃ vs x, us = .minus :: vs ∧ Derives A depth .unary vs x ∧ A.neg x = y) ∨
      (∃ vs, us = .plus :: vs ∧ Derives A depth .unary vs y) ∨ Derives A depth .power us y := by
  constructor
  · rintro ⟨t, rfl, hdepth, hnonzero, rfl⟩
    cases t with
    | negative t =>
        exact Or.inl ⟨_, _, rfl, ⟨t, rfl, Nat.le_of_succ_le_succ hdepth, hnonzero, rfl⟩, rfl⟩
    | positive t =>
        exact Or.inr (Or.inl ⟨_, rfl, t, rfl, Nat.le_of_succ_le_succ hdepth, hnonzero, rfl⟩)
    | unsigned t =>
        exact Or.inr (Or.inr ⟨t, rfl, Nat.le_of_succ_le_succ hdepth, hnonzero, rfl⟩)
  · rintro (⟨-, -, rfl, ⟨t, rfl, hdepth, hnonzero, rfl⟩, rfl⟩ | ⟨-, rfl, t, rfl, hdepth, hnonzero, rfl⟩ |
      ⟨t, rfl, hdepth, hnonzero, rfl⟩)
    · exact ⟨.negative t, rfl, Nat.succ_le_succ hdepth, hnonzero, rfl⟩
    · exact ⟨.positive t, rfl, Nat.succ_le_succ hdepth, hnonzero, rfl⟩
    · exact ⟨.unsigned t, rfl, Nat.succ_le_succ hdepth, hnonzero, rfl⟩

section Reader

variable {operand : Reader α}

theorem reads_term (h : Reads operand .unary (Derives A depth .unary)) :
    Reads (chain (productOperation A) operand) .term (Derives A depth .term) := by
  intro ts y rest
  rw [h.chain productOperation_ne_none_iff rfl]
  simp only [derives_term_iff]

theorem reads_expr (h : Reads operand .unary (Derives A depth .unary)) :
    Reads (expr A operand) .expr (Derives A depth .expr) := by
  intro ts y rest
  rw [expr, (reads_term h).chain sumOperation_ne_none_iff rfl]
  simp only [derives_expr_iff]

theorem reads_atom (h : Reads operand .unary (Derives A depth .unary)) :
    Reads (atom A operand) .atom (Derives A depth .atom) := by
  intro ts y rest
  have hgroup : (∃ us, ts = us ++ rest ∧ Derives A depth .atom us y ∧ Part.atom.Ends rest) ↔
      ts = .number y :: rest ∨ ∃ us, ts = .opening :: us ∧ expr A operand us = .ok (y, .closing :: rest) := by
    simp only [derives_atom_iff, reads_expr h _ _ _, Part.ends_closing, Part.ends_atom, and_true]
    constructor
    · rintro ⟨-, rfl, rfl | ⟨vs, rfl, hvs⟩⟩
      · exact Or.inl rfl
      · exact Or.inr ⟨_, rfl, vs, by simp, hvs⟩
    · rintro (rfl | ⟨-, rfl, vs, rfl, hvs⟩)
      · exact ⟨[.number y], rfl, Or.inl rfl⟩
      · exact ⟨_, by simp, Or.inr ⟨vs, rfl, hvs⟩⟩
  rw [hgroup]
  cases ts with
  | nil => simp [atom]
  | cons t ts =>
      cases t with
      | number x => simp [atom]
      | opening =>
          simp only [atom, bind_eq_ok_iff, List.cons.injEq, reduceCtorEq, false_and, true_and,
            exists_eq_left', false_or]
          constructor
          · rintro ⟨⟨x, after⟩, hread, hclosed⟩
            split at hclosed <;> cases hclosed
            rename_i heq
            cases heq
            exact hread
          · exact fun hread => ⟨_, hread, rfl⟩
      | _ => simp [atom]

theorem ends_power_of_ne {after : List (Token α)} (h : ∀ rest, after ≠ .power :: rest) :
    Part.power.Ends after := by
  intro t ht
  obtain ⟨rest, rfl⟩ := List.head?_eq_some_iff.mp ht
  cases t with
  | power => exact absurd rfl (h rest)
  | _ => exact Nat.lt_of_sub_eq_succ rfl

theorem reads_power (h : Reads operand .unary (Derives A depth .unary)) :
    Reads (power A operand) .power (Derives A depth .power) := by
  intro ts y rest
  simp only [power, bind_eq_ok_iff, derives_power_iff]
  constructor
  · rintro ⟨⟨x, after⟩, hread, hraised⟩
    obtain ⟨vs, rfl, hvs, -⟩ := (reads_atom h _ _ _).mp hread
    by_cases hpower : ∃ exponent, after = .power :: exponent
    · obtain ⟨exponent, rfl⟩ := hpower
      obtain ⟨⟨z, left⟩, hexponent, hz⟩ := bind_eq_ok_iff.mp hraised
      cases hz
      obtain ⟨ws, rfl, hws, hends⟩ := (h _ _ _).mp hexponent
      exact ⟨_, by simp, Or.inr ⟨vs, x, ws, z, rfl, hvs, hws, rfl⟩, hends⟩
    · push Not at hpower
      split at hraised
      · rename_i heq
        cases heq
        exact absurd rfl (hpower _)
      · rename_i heq
        cases heq
        cases hraised
        exact ⟨vs, rfl, Or.inl hvs, ends_power_of_ne hpower⟩
  · rintro ⟨us, rfl, hus | ⟨vs, x, ws, z, rfl, hvs, hws, rfl⟩, hends⟩
    · refine ⟨(y, rest), (reads_atom h _ _ _).mpr ⟨us, rfl, hus, Part.ends_atom _⟩, ?_⟩
      split
      · rename_i heq
        cases heq
        exact absurd hends (Part.not_ends_power _)
      · rename_i heq
        cases heq
        rfl
    · refine ⟨(x, .power :: (ws ++ rest)),
        (reads_atom h _ _ _).mpr ⟨vs, by simp, hvs, Part.ends_atom _⟩, ?_⟩
      have hexponent := (h (ws ++ rest) z rest).mpr ⟨ws, rfl, hws, hends⟩
      simp [hexponent, bind, Except.bind]

end Reader

theorem unary_of_head?_ne {ts : List (Token α)} (hminus : ts.head? ≠ some .minus)
    (hplus : ts.head? ≠ some .plus) : unary A (depth + 1) ts = power A (unary A depth) ts := by
  cases ts with
  | nil => rfl
  | cons t ts =>
      cases t with
      | minus => exact absurd rfl hminus
      | plus => exact absurd rfl hplus
      | _ => rfl

theorem Derives.head?_append_ne {y : α} (h : Derives A depth .power us y) (rest : List (Token α)) :
    (us ++ rest).head? ≠ some .minus ∧ (us ++ rest).head? ≠ some .plus := by
  obtain ⟨t, rfl, -, -, -⟩ := h
  rcases t.exists_tokens_power with ⟨n, after, htokens⟩ | ⟨after, htokens⟩ <;> simp [htokens]

theorem reads_unary (A : Arithmetic α) (depth : Nat) :
    Reads (unary A depth) .unary (Derives A depth .unary) := by
  -- All that `unary` reads at a depth, it reads through `unary` at the depth below.
  induction depth with
  | zero =>
      intro ts y rest
      simp [unary, not_derives_unary_zero]
  | succ depth ih =>
      intro ts y rest
      have hpower := reads_power ih ts y rest
      simp only [derives_unary_succ_iff]
      constructor
      · intro hread
        by_cases hminus : ts.head? = some .minus
        · obtain ⟨ts, rfl⟩ := List.head?_eq_some_iff.mp hminus
          obtain ⟨⟨x, after⟩, hread, hx⟩ := bind_eq_ok_iff.mp hread
          cases hx
          obtain ⟨vs, rfl, hvs, hends⟩ := (ih _ _ _).mp hread
          exact ⟨.minus :: vs, rfl, Or.inl ⟨vs, x, rfl, hvs, rfl⟩, hends⟩
        · by_cases hplus : ts.head? = some .plus
          · obtain ⟨ts, rfl⟩ := List.head?_eq_some_iff.mp hplus
            obtain ⟨vs, rfl, hvs, hends⟩ := (ih _ _ _).mp hread
            exact ⟨.plus :: vs, rfl, Or.inr (Or.inl ⟨vs, rfl, hvs⟩), hends⟩
          · rw [unary_of_head?_ne hminus hplus] at hread
            obtain ⟨vs, rfl, hvs, hends⟩ := hpower.mp hread
            exact ⟨vs, rfl, Or.inr (Or.inr hvs), hends⟩
      · rintro ⟨us, rfl, ⟨vs, x, rfl, hvs, rfl⟩ | ⟨vs, rfl, hvs⟩ | hus, hends⟩
        · have hread := (ih _ _ _).mpr ⟨vs, rfl, hvs, hends⟩
          exact bind_eq_ok_iff.mpr ⟨(x, rest), hread, rfl⟩
        · exact (ih _ _ _).mpr ⟨vs, rfl, hvs, hends⟩
        · obtain ⟨hminus, hplus⟩ := hus.head?_append_ne rest
          rw [unary_of_head?_ne hminus hplus]
          exact hpower.mpr ⟨us, rfl, hus, hends⟩

theorem evaluateTokens_eq_ok_iff {ts : List (Token α)} {v : α} :
    evaluateTokens A ts = .ok v ↔ Derives A maxDepth .expr ts v := by
  have hread := reads_expr (reads_unary A maxDepth) ts v []
  simp only [List.append_nil, exists_eq_left', Part.ends_nil, and_true] at hread
  rw [← hread, evaluateTokens, bind_eq_ok_iff]
  constructor
  · rintro ⟨⟨x, after⟩, hx, hv⟩
    split at hv <;> cases hv
    rename_i heq
    cases heq
    exact hx
  · exact fun h => ⟨_, h, rfl⟩

/-- An expression has a value if and only if it is not too long, spells tokens, and these have a tree that
is not too deep and in which no divisor has the value zero. It has the value of that tree. The tokens and
the tree are the only ones, and all other expressions give a fault. -/
theorem evaluate_eq_ok_iff (A : Arithmetic α) (cs : List Char) :
    (∀ v, evaluate A cs = .ok v ↔ cs.length ≤ 1024 ∧ ∃ ts, Spells A cs ts ∧
      ∃ t : Tree α .expr, t.tokens = ts ∧ t.unaryDepth ≤ 256 ∧ t.DivisorsNonzero A ∧ t.value A = v) ∧
    (∀ ts us, Spells A cs ts → Spells A cs us → ts = us) ∧
    (∀ t u : Tree α .expr, t.tokens = u.tokens → t = u) ∧
    ((∃ fault, evaluate A cs = .error fault) ↔ ¬(cs.length ≤ 1024 ∧ ∃ ts, Spells A cs ts ∧
      ∃ t : Tree α .expr, t.tokens = ts ∧ t.unaryDepth ≤ 256 ∧ t.DivisorsNonzero A)) := by
  have hvalue : ∀ v, evaluate A cs = .ok v ↔ cs.length ≤ 1024 ∧ ∃ ts, Spells A cs ts ∧
      Derives A 256 .expr ts v := by
    intro v
    unfold evaluate
    split
    · rename_i hlong
      have hlong : 1024 < cs.length := hlong
      simp only [reduceCtorEq, false_iff, not_and]
      omega
    · rename_i hshort
      have hshort : cs.length ≤ 1024 := Nat.le_of_not_lt hshort
      simp only [bind_eq_ok_iff, tokenize_eq_ok_iff, evaluateTokens_eq_ok_iff, hshort, true_and]
      rfl
  refine ⟨hvalue, fun ts us hts hus => hts.unique hus, fun t u h => Tree.eq_of_tokens_eq h, ?_⟩
  constructor
  · rintro ⟨fault, hfault⟩ ⟨hlength, ts, hts, t, htokens, hdepth, hnonzero⟩
    have hok := (hvalue _).mpr ⟨hlength, ts, hts, t, htokens, hdepth, hnonzero, rfl⟩
    simp [hok] at hfault
  · intro hnone
    cases hresult : evaluate A cs with
    | error fault => exact ⟨fault, rfl⟩
    | ok v =>
        obtain ⟨hlength, ts, hts, t, htokens, hdepth, hnonzero, -⟩ := (hvalue v).mp hresult
        exact absurd ⟨hlength, ts, hts, t, htokens, hdepth, hnonzero⟩ hnone

end Logbook.Calc
