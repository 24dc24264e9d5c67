import Logbook.Calc.Token

/-!
Evaluation of expressions, in one pass from the left.

    expr  := term (('+' | '-') term)*
    term  := unary (('*' | '/' | '%') unary)*
    unary := ('-' | '+') unary | power
    power := atom ('**' unary)?
    atom  := number | '(' expr ')'

Whatever nests passes through `unary`, so that a bound on its depth bounds everything.
-/

namespace Logbook.Calc

variable {α : Type}

/-- Reads a part of an expression from the start of the tokens: its value and the tokens after it. -/
abbrev Reader (α : Type) : Type :=
  List (Token α) → Except Fault (α × List (Token α))

abbrev Operation (α : Type) : Type :=
  α → α → Except Fault α

def sumOperation (A : Arithmetic α) : Token α → Option (Operation α)
  | .plus => some fun x y => .ok (A.add x y)
  | .minus => some fun x y => .ok (A.sub x y)
  | _ => none

/-- The remainder has the sign of the divisor. -/
def remainder (A : Arithmetic α) (x y : α) : α :=
  A.sub x (A.mul y (A.floor (A.div x y)))

def productOperation (A : Arithmetic α) : Token α → Option (Operation α)
  | .times => some fun x y => .ok (A.mul x y)
  | .divide => some fun x y =>
    if A.isZero y then .error .divisionByZero else .ok (A.div x y)
  | .modulo => some fun x y =>
    if A.isZero y then .error .divisionByZero else .ok (remainder A x y)
  | _ => none

/-- Goes on with operators and operands as long as operators follow; each takes the value so far as
its left operand. The first argument is at least the number of tokens. -/
def chainFrom (operation : Token α → Option (Operation α)) (operand : Reader α) :
    Nat → α → List (Token α) → Except Fault (α × List (Token α))
  | 0, x, ts => .ok (x, ts)
  | _ + 1, x, [] => .ok (x, [])
  | fuel + 1, x, t :: ts =>
    match operation t with
    | none => .ok (x, t :: ts)
    | some f => do
      let (y, rest) ← operand ts
      chainFrom operation operand fuel (← f x y) rest

/-- Operands with operators between them, grouped to the left. -/
def chain (operation : Token α → Option (Operation α)) (operand : Reader α) : Reader α := fun ts => do
  let (x, rest) ← operand ts
  chainFrom operation operand rest.length x rest

/-- A sum of products of what `unary` reads. -/
def expr (A : Arithmetic α) (unary : Reader α) : Reader α :=
  chain (sumOperation A) (chain (productOperation A) unary)

/-- A number or an expression in parentheses. -/
def atom (A : Arithmetic α) (unary : Reader α) : Reader α
  | [] => .error .unexpectedEnd
  | .number x :: rest => .ok (x, rest)
  | .opening :: rest => do
    match ← expr A unary rest with
    | (x, .closing :: rest) => .ok (x, rest)
    | (_, t :: _) => .error (.unexpectedToken (t.render A))
    | (_, []) => .error .unexpectedEnd
  | t :: _ => .error (.unexpectedToken (t.render A))

/-- An atom, raised to a power if one follows. -/
def power (A : Arithmetic α) (unary : Reader α) : Reader α := fun ts => do
  match ← atom A unary ts with
  | (base, .power :: rest) =>
    let (exponent, rest) ← unary rest
    .ok (A.pow base exponent, rest)
  | (base, rest) => .ok (base, rest)

/-- A power with any number of signs in front, nested at most as deep as the first argument says. -/
def unary (A : Arithmetic α) : Nat → Reader α
  | 0, _ => .error .tooDeep
  | depth + 1, .minus :: rest => do
    let (x, rest) ← unary A depth rest
    .ok (A.neg x, rest)
  | depth + 1, .plus :: rest => unary A depth rest
  | depth + 1, ts => power A (unary A depth) ts

def evaluateTokens (A : Arithmetic α) (ts : List (Token α)) : Except Fault α := do
  match ← expr A (unary A maxDepth) ts with
  | (x, []) => .ok x
  | (_, t :: _) => .error (.unexpectedToken (t.render A))

def evaluate (A : Arithmetic α) (cs : List Char) : Except Fault α := do
  if maxLength < cs.length then .error .tooLong
  else evaluateTokens A (← tokenize A cs)

end Logbook.Calc
