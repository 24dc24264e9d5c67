import Mathlib.Tactic
import Logbook.Calc.Token

namespace Logbook.Calc

/-- The symbols of the grammar. The tails stand for what is repeated in sums and products. -/
inductive Part where
  | expr
  | exprTail
  | term
  | termTail
  | unary
  | power
  | atom
deriving DecidableEq

inductive SumSign where
  | plus
  | minus

inductive ProductSign where
  | times
  | divide
  | modulo

/-- The derivation trees of each symbol. -/
inductive Tree (α : Type) : Part → Type where
  | sum (first : Tree α .term) (rest : Tree α .exprTail) : Tree α .expr
  | sumEnd : Tree α .exprTail
  | sumStep (sign : SumSign) (x : Tree α .term) (rest : Tree α .exprTail) : Tree α .exprTail
  | product (first : Tree α .unary) (rest : Tree α .termTail) : Tree α .term
  | productEnd : Tree α .termTail
  | productStep (sign : ProductSign) (x : Tree α .unary) (rest : Tree α .termTail) : Tree α .termTail
  | negative (x : Tree α .unary) : Tree α .unary
  | positive (x : Tree α .unary) : Tree α .unary
  | unsigned (x : Tree α .power) : Tree α .unary
  | plain (base : Tree α .atom) : Tree α .power
  | raised (base : Tree α .atom) (exponent : Tree α .unary) : Tree α .power
  | number (x : α) : Tree α .atom
  | group (e : Tree α .expr) : Tree α .atom

variable {α : Type}

def SumSign.token : SumSign → Token α
  | .plus => .plus
  | .minus => .minus

def ProductSign.token : ProductSign → Token α
  | .times => .times
  | .divide => .divide
  | .modulo => .modulo

def SumSign.apply (A : Arithmetic α) : SumSign → α → α → α
  | .plus, x, y => A.add x y
  | .minus, x, y => A.sub x y

def ProductSign.apply (A : Arithmetic α) : ProductSign → α → α → α
  | .times, x, y => A.mul x y
  | .divide, x, y => A.div x y
  | .modulo, x, y => A.sub x (A.mul y (A.floor (A.div x y)))

def ProductSign.Divides (sign : ProductSign) : Prop :=
  sign ≠ .times

/-- What a tree of a symbol stands for: a value, or what a tail makes of the value before it. -/
abbrev Part.Value (α : Type) : Part → Type
  | .exprTail | .termTail => α → α
  | _ => α

namespace Tree

def tokens {s : Part} : Tree α s → List (Token α)
  | .sum first rest => first.tokens ++ rest.tokens
  | .sumEnd => []
  | .sumStep sign x rest => sign.token :: (x.tokens ++ rest.tokens)
  | .product first rest => first.tokens ++ rest.tokens
  | .productEnd => []
  | .productStep sign x rest => sign.token :: (x.tokens ++ rest.tokens)
  | .negative x => .minus :: x.tokens
  | .positive x => .plus :: x.tokens
  | .unsigned x => x.tokens
  | .plain base => base.tokens
  | .raised base exponent => base.tokens ++ .power :: exponent.tokens
  | .number x => [.number x]
  | .group e => .opening :: (e.tokens ++ [.closing])

/-- The greatest number of nodes of the symbol `unary` on a path of the tree. -/
def unaryDepth {s : Part} : Tree α s → Nat
  | .sum first rest => max first.unaryDepth rest.unaryDepth
  | .sumEnd => 0
  | .sumStep _ x rest => max x.unaryDepth rest.unaryDepth
  | .product first rest => max first.unaryDepth rest.unaryDepth
  | .productEnd => 0
  | .productStep _ x rest => max x.unaryDepth rest.unaryDepth
  | .negative x => x.unaryDepth + 1
  | .positive x => x.unaryDepth + 1
  | .unsigned x => x.unaryDepth + 1
  | .plain base => base.unaryDepth
  | .raised base exponent => max base.unaryDepth exponent.unaryDepth
  | .number _ => 0
  | .group e => e.unaryDepth

/-- The value of a tree. Sums and products are grouped to the left, powers to the right, and a sign
comes after a power. -/
def value (A : Arithmetic α) {s : Part} : Tree α s → s.Value α
  | .sum first rest => rest.value A (first.value A)
  | .sumEnd => id
  | .sumStep sign x rest => fun sofar => rest.value A (sign.apply A sofar (x.value A))
  | .product first rest => rest.value A (first.value A)
  | .productEnd => id
  | .productStep sign x rest => fun sofar => rest.value A (sign.apply A sofar (x.value A))
  | .negative x => A.neg (x.value A)
  | .positive x => x.value A
  | .unsigned x => x.value A
  | .plain base => base.value A
  | .raised base exponent => A.pow (base.value A) (exponent.value A)
  | .number x => x
  | .group e => e.value A

def DivisorsNonzero (A : Arithmetic α) {s : Part} : Tree α s → Prop
  | .sum first rest => first.DivisorsNonzero A ∧ rest.DivisorsNonzero A
  | .sumEnd => True
  | .sumStep _ x rest => x.DivisorsNonzero A ∧ rest.DivisorsNonzero A
  | .product first rest => first.DivisorsNonzero A ∧ rest.DivisorsNonzero A
  | .productEnd => True
  | .productStep sign x rest =>
    (sign.Divides → A.isZero (x.value A) = false) ∧ x.DivisorsNonzero A ∧ rest.DivisorsNonzero A
  | .negative x => x.DivisorsNonzero A
  | .positive x => x.DivisorsNonzero A
  | .unsigned x => x.DivisorsNonzero A
  | .plain base => base.DivisorsNonzero A
  | .raised base exponent => base.DivisorsNonzero A ∧ exponent.DivisorsNonzero A
  | .number _ => True
  | .group e => e.DivisorsNonzero A

end Tree

/-- How loosely a symbol binds. -/
def Part.level : Part → Nat
  | .atom => 0
  | .power | .unary => 1
  | .term | .termTail => 2
  | .expr | .exprTail => 3

/-- The level from which on symbols go on with a token. Numbers and parentheses go on with nothing. -/
def Token.level : Token α → Nat
  | .power => 1
  | .times | .divide | .modulo => 2
  | .plus | .minus => 3
  | _ => 4

/-- Tokens that may stand behind those of a symbol: none of them would have been read with the symbol. -/
def Part.Ends (s : Part) (rest : List (Token α)) : Prop :=
  ∀ t, rest.head? = some t → s.level < t.level

theorem Part.ends_nil (s : Part) : s.Ends ([] : List (Token α)) := by
  simp [Part.Ends]

theorem Part.ends_cons {s : Part} {t : Token α} {rest : List (Token α)} :
    s.Ends (t :: rest) ↔ s.level < t.level := by
  simp [Part.Ends]

theorem Token.level_pos (t : Token α) : 0 < t.level := by
  cases t <;> exact Nat.succ_pos _

theorem Part.ends_atom (rest : List (Token α)) : Part.atom.Ends rest :=
  fun t _ => t.level_pos

theorem Part.ends_closing (s : Part) (rest : List (Token α)) : s.Ends (.closing :: rest) := by
  rw [Part.ends_cons]
  change s.level < 4
  cases s <;> decide

theorem Part.not_ends_power (rest : List (Token α)) : ¬Part.power.Ends (.power :: rest) :=
  fun h => Nat.lt_irrefl 1 (Part.ends_cons.mp h)

theorem Part.Ends.mono {s s' : Part} {rest : List (Token α)} (h : s.Ends rest)
    (hlevel : s'.level ≤ s.level) : s'.Ends rest :=
  fun t ht => hlevel.trans_lt (h t ht)

theorem SumSign.level_token (sign : SumSign) : (sign.token : Token α).level = 3 := by
  cases sign <;> rfl

theorem ProductSign.level_token (sign : ProductSign) : (sign.token : Token α).level = 2 := by
  cases sign <;> rfl

theorem SumSign.token_injective : Function.Injective (SumSign.token : SumSign → Token α) := by
  intro sign sign' h
  cases sign <;> cases sign' <;> first | rfl | cases h

theorem ProductSign.token_injective :
    Function.Injective (ProductSign.token : ProductSign → Token α) := by
  intro sign sign' h
  cases sign <;> cases sign' <;> first | rfl | cases h

namespace Tree

theorem ends_term {rest : Tree α .exprTail} {r : List (Token α)} (h : Part.exprTail.Ends r) :
    Part.term.Ends (rest.tokens ++ r) := by
  cases rest with
  | sumEnd => exact h.mono (by decide)
  | sumStep sign x rest =>
      rw [tokens, List.cons_append, Part.ends_cons, SumSign.level_token]
      decide

theorem ends_unary {rest : Tree α .termTail} {r : List (Token α)} (h : Part.termTail.Ends r) :
    Part.unary.Ends (rest.tokens ++ r) := by
  cases rest with
  | productEnd => exact h.mono (by decide)
  | productStep sign x rest =>
      rw [tokens, List.cons_append, Part.ends_cons, ProductSign.level_token]
      decide

theorem not_ends_sumStep {sign : SumSign} {x : Tree α .term} {rest : Tree α .exprTail}
    {r : List (Token α)} : ¬Part.exprTail.Ends ((sumStep sign x rest).tokens ++ r) := by
  rw [tokens, List.cons_append, Part.ends_cons, SumSign.level_token]
  decide

theorem not_ends_productStep {sign : ProductSign} {x : Tree α .unary} {rest : Tree α .termTail}
    {r : List (Token α)} : ¬Part.termTail.Ends ((productStep sign x rest).tokens ++ r) := by
  rw [tokens, List.cons_append, Part.ends_cons, ProductSign.level_token]
  decide

theorem exists_tokens_power (x : Tree α .power) :
    (∃ n rest, x.tokens = .number n :: rest) ∨ ∃ rest, x.tokens = .opening :: rest := by
  have hatom : ∀ base : Tree α .atom,
      (∃ n, base.tokens = [.number n]) ∨ ∃ rest, base.tokens = .opening :: rest := by
    intro base
    cases base with
    | number n => exact Or.inl ⟨n, rfl⟩
    | group e => exact Or.inr ⟨_, rfl⟩
  cases x with
  | plain base =>
      exact (hatom base).imp_left fun ⟨n, hn⟩ => ⟨n, [], hn⟩
  | raised base exponent =>
      rcases hatom base with ⟨n, hn⟩ | ⟨rest, hrest⟩
      · exact Or.inl ⟨n, _, by rw [tokens, hn]; rfl⟩
      · exact Or.inr ⟨_, by rw [tokens, hrest]; rfl⟩

/-- Two trees that start the same tokens are the same tree, if neither goes on behind its tokens. -/
theorem eq_of_tokens_append_eq {s : Part} (t : Tree α s) :
    ∀ (u : Tree α s) {r r' : List (Token α)}, s.Ends r → s.Ends r' →
      t.tokens ++ r = u.tokens ++ r' → t = u ∧ r = r' := by
  -- What stands behind a part of the tree must be known to end that part: a tail ends what is before it,
  -- a closing parenthesis everything.
  induction t with
  | sum first rest ihfirst ihrest =>
      intro u r r' hr hr' heq
      cases u with
      | sum first' rest' =>
          simp only [tokens, List.append_assoc] at heq
          obtain ⟨rfl, htail⟩ := ihfirst first' (ends_term hr) (ends_term hr') heq
          obtain ⟨rfl, rfl⟩ := ihrest rest' hr hr' htail
          exact ⟨rfl, rfl⟩
  | sumEnd =>
      intro u r r' hr hr' heq
      cases u with
      | sumEnd => exact ⟨rfl, heq⟩
      | sumStep sign x rest =>
          obtain rfl : r = _ := heq
          exact absurd hr not_ends_sumStep
  | sumStep sign x rest ihx ihrest =>
      intro u r r' hr hr' heq
      cases u with
      | sumEnd =>
          obtain rfl : _ = r' := heq
          exact absurd hr' not_ends_sumStep
      | sumStep sign' x' rest' =>
          simp only [tokens, List.cons_append, List.append_assoc, List.cons.injEq] at heq
          obtain ⟨hsign, htokens⟩ := heq
          obtain ⟨rfl, htail⟩ := ihx x' (ends_term hr) (ends_term hr') htokens
          obtain ⟨rfl, rfl⟩ := ihrest rest' hr hr' htail
          exact ⟨by rw [SumSign.token_injective hsign], rfl⟩
  | product first rest ihfirst ihrest =>
      intro u r r' hr hr' heq
      cases u with
      | product first' rest' =>
          simp only [tokens, List.append_assoc] at heq
          obtain ⟨rfl, htail⟩ := ihfirst first' (ends_unary hr) (ends_unary hr') heq
          obtain ⟨rfl, rfl⟩ := ihrest rest' hr hr' htail
          exact ⟨rfl, rfl⟩
  | productEnd =>
      intro u r r' hr hr' heq
      cases u with
      | productEnd => exact ⟨rfl, heq⟩
      | productStep sign x rest =>
          obtain rfl : r = _ := heq
          exact absurd hr not_ends_productStep
  | productStep sign x rest ihx ihrest =>
      intro u r r' hr hr' heq
      cases u with
      | productEnd =>
          obtain rfl : _ = r' := heq
          exact absurd hr' not_ends_productStep
      | productStep sign' x' rest' =>
          simp only [tokens, List.cons_append, List.append_assoc, List.cons.injEq] at heq
          obtain ⟨hsign, htokens⟩ := heq
          obtain ⟨rfl, htail⟩ := ihx x' (ends_unary hr) (ends_unary hr') htokens
          obtain ⟨rfl, rfl⟩ := ihrest rest' hr hr' htail
          exact ⟨by rw [ProductSign.token_injective hsign], rfl⟩
  | negative x ih =>
      intro u r r' hr hr' heq
      cases u with
      | negative x' =>
          obtain ⟨rfl, rfl⟩ := ih x' hr hr' (List.cons.inj heq).2
          exact ⟨rfl, rfl⟩
      | positive x' => simp [tokens] at heq
      | unsigned x' =>
          rcases exists_tokens_power x' with ⟨n, rest, hx'⟩ | ⟨rest, hx'⟩ <;> simp [tokens, hx'] at heq
  | positive x ih =>
      intro u r r' hr hr' heq
      cases u with
      | negative x' => simp [tokens] at heq
      | positive x' =>
          obtain ⟨rfl, rfl⟩ := ih x' hr hr' (List.cons.inj heq).2
          exact ⟨rfl, rfl⟩
      | unsigned x' =>
          rcases exists_tokens_power x' with ⟨n, rest, hx'⟩ | ⟨rest, hx'⟩ <;> simp [tokens, hx'] at heq
  | unsigned x ih =>
      intro u r r' hr hr' heq
      cases u with
      | unsigned x' =>
          obtain ⟨rfl, rfl⟩ := ih x' hr hr' heq
          exact ⟨rfl, rfl⟩
      | _ =>
          rcases exists_tokens_power x with ⟨n, rest, hx⟩ | ⟨rest, hx⟩ <;> simp [tokens, hx] at heq
  | plain base ih =>
      intro u r r' hr hr' heq
      cases u with
      | plain base' =>
          obtain ⟨rfl, rfl⟩ := ih base' (Part.ends_atom _) (Part.ends_atom _) heq
          exact ⟨rfl, rfl⟩
      | raised base' exponent' =>
          simp only [tokens, List.append_assoc] at heq
          obtain ⟨-, rfl⟩ := ih base' (Part.ends_atom _) (Part.ends_atom _) heq
          exact absurd hr (Part.not_ends_power _)
  | raised base exponent ihbase ihexponent =>
      intro u r r' hr hr' heq
      cases u with
      | plain base' =>
          simp only [tokens, List.append_assoc] at heq
          obtain ⟨-, rfl⟩ := ihbase base' (Part.ends_atom _) (Part.ends_atom _) heq
          exact absurd hr' (Part.not_ends_power _)
      | raised base' exponent' =>
          simp only [tokens, List.append_assoc] at heq
          obtain ⟨rfl, htail⟩ := ihbase base' (Part.ends_atom _) (Part.ends_atom _) heq
          obtain ⟨rfl, rfl⟩ := ihexponent exponent' hr hr' (List.cons.inj htail).2
          exact ⟨rfl, rfl⟩
  | number n =>
      intro u r r' hr hr' heq
      cases u with
      | number n' =>
          obtain ⟨hn, hrest⟩ := List.cons.inj heq
          obtain rfl := Token.number.inj hn
          exact ⟨rfl, hrest⟩
      | group e' => simp [tokens] at heq
  | group e ih =>
      intro u r r' hr hr' heq
      cases u with
      | number n' => simp [tokens] at heq
      | group e' =>
          simp only [tokens, List.cons_append, List.append_assoc, List.cons.injEq, true_and,
            List.nil_append] at heq
          obtain ⟨rfl, htail⟩ := ih e' (Part.ends_closing _ _) (Part.ends_closing _ _) heq
          exact ⟨rfl, (List.cons.inj htail).2⟩

theorem eq_of_tokens_eq {s : Part} {t u : Tree α s} (h : t.tokens = u.tokens) : t = u :=
  (eq_of_tokens_append_eq t u s.ends_nil s.ends_nil (by simpa using h)).1

end Tree

end Logbook.Calc
