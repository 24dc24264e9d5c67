import Logbook.Pattern.Basic
import Logbook.Proofs.Pattern.Straight

namespace Logbook.Pattern

/-- A character that stands for itself: an ASCII letter, a digit or a space. -/
def isPlain (c : Char) : Bool :=
  c.isAlphanum || c == ' '

section Reading

theorem readAtom_of_isPlain {c : Char} (h : isPlain c = true) (ignoreBlanks : Bool) (cs : List Char) :
    readAtom ignoreBlanks (c :: cs) = .ok (.literal c false, cs) := by
  rw [readAtom.eq_def]
  split
  case h_1 heq => simp at heq
  case h_6 heq =>
    obtain ⟨rfl, rfl⟩ := List.cons.inj heq
    rfl
  all_goals
    rename_i heq
    obtain ⟨rfl, -⟩ := List.cons.inj heq
    exact absurd h (by decide)

theorem step_of_isPlain (s : State) {c : Char} (h : isPlain c = true) (cs : List Char) :
    s.step c cs = .ok (s.push ⟨.literal c false, 0⟩, cs) := by
  rw [State.step.eq_def]
  split
  case h_9 =>
    rw [readAtom_of_isPlain h]
    rfl
  all_goals exact absurd h (by decide)

def literalPart (c : Char) : Part :=
  ⟨.literal c false, 0⟩

theorem run_of_isPlain {cs : List Char} (h : ∀ c ∈ cs, isPlain c = true) {s : State}
    (hblanks : s.ignoreBlanks = false) {fuel : Nat} (hfuel : cs.length < fuel) :
    State.run fuel s cs =
      .ok { s with level := { s.level with items := (cs.map literalPart).reverse ++ s.level.items } } := by
  have hskip : ∀ cs, skip s.ignoreBlanks cs = cs := fun cs => by simp [skip, hblanks]
  induction cs generalizing s fuel with
  | nil =>
      obtain ⟨fuel, rfl⟩ := Nat.exists_eq_succ_of_ne_zero (Nat.ne_zero_of_lt hfuel)
      rw [State.run, hskip]
      rfl
  | cons c cs ih =>
      obtain ⟨fuel, rfl⟩ := Nat.exists_eq_succ_of_ne_zero (Nat.ne_zero_of_lt hfuel)
      obtain ⟨hc, hcs⟩ := List.forall_mem_cons.mp h
      have hrest := ih hcs (s := s.push (literalPart c)) hblanks (Nat.lt_of_succ_lt_succ hfuel) hskip
      rw [State.run, hskip]
      simp only [step_of_isPlain s hc]
      refine Eq.trans hrest ?_
      simp [State.push]

theorem expr_foldParts_concat (join : Expr → Expr → Expr) {parts : List Part} (h : parts ≠ []) (p : Part) :
    (foldParts join (parts ++ [p])).expr = join p.expr (foldParts join parts).expr := by
  match parts with
  | [last] => rfl
  | last :: q :: parts => simp [foldParts, List.foldl_append]

theorem depth_foldParts_le (join : Expr → Expr → Expr) {parts : List Part} (h : ∀ p ∈ parts, p.depth = 0) :
    (foldParts join parts).depth ≤ 1 := by
  have hfold : ∀ (parts : List Part) (acc : Part), (∀ p ∈ parts, p.depth = 0) → acc.depth ≤ 1 →
      (parts.foldl (fun acc p => ⟨join p.expr acc.expr, max acc.depth (p.depth + 1)⟩) acc).depth ≤ 1 := by
    intro parts
    induction parts with
    | nil => exact fun acc _ hacc => hacc
    | cons p parts ih =>
        intro acc hparts hacc
        obtain ⟨hp, hparts⟩ := List.forall_mem_cons.mp hparts
        exact ih _ hparts (by simp [hp, hacc])
  match parts with
  | [] => simp [foldParts]
  | [p] => simp [foldParts, h p]
  | last :: q :: parts =>
      obtain ⟨hlast, hparts⟩ := List.forall_mem_cons.mp h
      exact hfold (q :: parts) _ hparts (by simp [hlast])

def Expr.literals : List Char → Expr
  | [] => .empty
  | [c] => .literal c false
  | c :: d :: cs => .sequence (.literal c false) (Expr.literals (d :: cs))

theorem expr_foldParts_literalPart (cs : List Char) :
    (foldParts .sequence (cs.map literalPart).reverse).expr = Expr.literals cs := by
  induction cs with
  | nil => rfl
  | cons c cs ih =>
      cases cs with
      | nil => rfl
      | cons d cs =>
          rw [List.map_cons, List.reverse_cons, expr_foldParts_concat _ (by simp), ih]
          rfl

theorem parse_of_isPlain {cs : List Char} (h : ∀ c ∈ cs, isPlain c = true) :
    parse cs = .ok (Expr.literals cs) := by
  have hdepth : (foldParts .sequence (cs.map literalPart).reverse).depth ≤ 1 :=
    depth_foldParts_le _ (by simp [literalPart])
  have hnesting : ¬maxNesting < (foldParts .sequence (cs.map literalPart).reverse).depth := by
    rw [maxNesting]
    omega
  have hclose : Level.close ⟨(cs.map literalPart).reverse, []⟩ =
      foldParts .sequence (cs.map literalPart).reverse := rfl
  rw [parse, run_of_isPlain h rfl (Nat.lt_succ_self _)]
  simp [bind, Except.bind, hclose, hnesting, expr_foldParts_literalPart]

def Regex.literals : List Char → Regex
  | [] => .empty
  | [c] => .set (CharSet.single c.toNat)
  | c :: d :: cs => .sequence (.set (CharSet.single c.toNat)) (Regex.literals (d :: cs))

theorem regex_literals (cs : List Char) : (Expr.literals cs).regex {} = .ok (Regex.literals cs, {}) := by
  have hliteral : ∀ c, Expr.regex {} (.literal c false) = .ok (.set (CharSet.single c.toNat), {}) :=
    fun _ => rfl
  induction cs with
  | nil => rfl
  | cons c cs ih =>
      cases cs with
      | nil => exact hliteral c
      | cons d cs =>
          rw [Expr.literals, Expr.regex, hliteral]
          simp [bind, Except.bind, ih, Regex.literals]

end Reading

section Size

/-- The length of the longest plain pattern that does not take too much memory. -/
def maxPlainLength : Nat := 327673

variable {cs : List Char}

theorem toNat_lt_of_isPlain {c : Char} (h : isPlain c = true) : c.toNat < 0x80 := by
  rw [isPlain, Bool.or_eq_true, beq_iff_eq] at h
  rcases h with h | rfl
  · change ((decide (65 ≤ c.val ∧ c.val ≤ 90) || (decide (97 ≤ c.val) && decide (c.val ≤ 122))) ||
      (decide (48 ≤ c.val) && decide (c.val ≤ 57))) = true at h
    simp only [Bool.or_eq_true, Bool.and_eq_true, decide_eq_true_eq, UInt32.le_iff_toNat_le] at h
    change ((65 ≤ c.toNat ∧ c.toNat ≤ 90) ∨ (97 ≤ c.toNat ∧ c.toNat ≤ 122)) ∨
      (48 ≤ c.toNat ∧ c.toNat ≤ 57) at h
    omega
  · decide

theorem setSize_single {c : Char} (h : isPlain c = true) (forward : Bool) :
    setSize forward (CharSet.single c.toNat) = stateBytes := by
  simp [setSize, CharSet.single, Utf8.bytesOf, toNat_lt_of_isPlain h]

theorem sizeOf_literals (h : ∀ c ∈ cs, isPlain c = true) (forward : Bool) :
    (Regex.literals cs).sizeOf forward = stateBytes * max 1 cs.length := by
  induction cs with
  | nil => rfl
  | cons c cs ih =>
      obtain ⟨hc, hcs⟩ := List.forall_mem_cons.mp h
      cases cs with
      | nil => exact setSize_single hc forward
      | cons d cs =>
          rw [Regex.literals, Regex.sizeOf, Regex.sizeOf, setSize_single hc, ih hcs]
          simp only [List.length_cons, stateBytes]
          omega

theorem isAnchored_literals (forward : Bool) (cs : List Char) :
    (Regex.literals cs).isAnchored forward = false := by
  induction cs with
  | nil => rfl
  | cons c cs ih =>
      cases cs with
      | nil => rfl
      | cons d cs =>
          rw [Regex.literals, Regex.isAnchored, ih]
          simp [Regex.isAnchored, Regex.isNarrow]

theorem isTooLarge_literals_iff (h : ∀ c ∈ cs, isPlain c = true) :
    (Regex.literals cs).isTooLarge = true ↔ maxPlainLength < cs.length := by
  simp only [Regex.isTooLarge, Regex.automatonSize, Regex.frameSize, sizeOf_literals h, isAnchored_literals,
    Bool.or_eq_true, decide_eq_true_eq, maxMemory, maxPlainLength, stateBytes, alternativeBytes,
    transitionBytes, Bool.false_eq_true, if_false, if_true]
  omega

end Size

section Matching

/-- From one instruction to another, the code takes exactly the characters. -/
def Spells (code : Array Instruction) (last : Nat) : Nat → List Char → Prop
  | n, [] => n = last
  | n, c :: cs => ∃ next, code[n]? = some (.take (CharSet.single c.toNat) next) ∧ Spells code last next cs

theorem getElem?_push_of_eq_some {code : Array Instruction} {n : Nat} {i : Instruction} (h : code[n]? = some i)
    (last : Instruction) : (code.push last)[n]? = some i := by
  have hlt := (Array.getElem?_eq_some_iff.mp h).1
  rw [Array.getElem?_push, if_neg hlt.ne, h]

theorem Spells.push {code : Array Instruction} {last n : Nat} {cs : List Char} (h : Spells code last n cs)
    (i : Instruction) : Spells (code.push i) last n cs := by
  induction cs generalizing n with
  | nil => exact h
  | cons c cs ih =>
      obtain ⟨next, hcode, hrest⟩ := h
      exact ⟨next, getElem?_push_of_eq_some hcode i, ih hrest⟩

/-- Where a spelled text ends in front of an instruction that accepts, nothing else is taken. -/
theorem takes_iff_of_spells {p : Program} {last n : Nat} {cs ds : List Char} (h : Spells p.code last n cs)
    (hlast : p.code[last]? = some .accept) : p.Takes n ds ↔ ds = cs := by
  induction cs generalizing n ds with
  | nil =>
      obtain rfl : n = last := h
      cases ds with
      | nil => simpa [Program.takes_nil_iff] using hlast
      | cons d ds => simp [Program.takes_cons_iff, hlast]
  | cons c cs ih =>
      obtain ⟨next, hcode, hrest⟩ := h
      cases ds with
      | nil => simp [Program.takes_nil_iff, hcode]
      | cons d ds => simp [Program.takes_cons_iff, hcode, CharSet.contains_single, ih hrest]

theorem program_literals_cons (c : Char) (cs : List Char) :
    (Regex.literals (c :: cs)).program =
      { code := (Regex.literals cs).program.code.push
          (.take (CharSet.single c.toNat) (Regex.literals cs).program.start)
        start := (Regex.literals cs).program.code.size } := by
  cases cs <;> rfl

theorem isStraight_literals (cs : List Char) : (Regex.literals cs).program.IsStraight := by
  induction cs with
  | nil =>
      intro n i hi
      have hmem : i ∈ (Regex.literals []).program.code := Array.mem_of_getElem? hi
      exact Or.inl (by simpa [Regex.literals, Regex.program, Regex.compile] using hmem)
  | cons c cs ih =>
      intro n i hi
      rw [program_literals_cons, Array.getElem?_push] at hi
      split at hi
      · exact Or.inr ⟨_, _, (Option.some.inj hi).symm⟩
      · exact ih n i hi

theorem code_literals_zero (cs : List Char) : (Regex.literals cs).program.code[0]? = some .accept := by
  induction cs with
  | nil => rfl
  | cons c cs ih =>
      rw [program_literals_cons]
      exact getElem?_push_of_eq_some ih _

theorem spells_literals (cs : List Char) :
    Spells (Regex.literals cs).program.code 0 (Regex.literals cs).program.start cs := by
  induction cs with
  | nil => rfl
  | cons c cs ih =>
      rw [program_literals_cons]
      exact ⟨_, Array.getElem?_push_size, ih.push _⟩

theorem matchesIn_literals (cs text : List Char) :
    (Regex.literals cs).program.matchesIn text = true ↔ cs <:+: text := by
  rw [Program.matchesIn_iff (isStraight_literals cs)]
  simp [takes_iff_of_spells (spells_literals cs) (code_literals_zero cs)]

end Matching

theorem compile_of_isPlain {text : String} (h : ∀ c ∈ text.toList, isPlain c = true) :
    compile text =
      if maxPlainLength < text.length then .error .tooLarge
      else .ok ⟨(Regex.literals text.toList).program⟩ := by
  simp only [compile, parse_of_isPlain h, bind, Except.bind, regex_literals, isTooLarge_literals_iff h,
    String.length_toList]

end Logbook.Pattern
