import Logbook.Text.Decimal

namespace Logbook.Calc

/-- The operations that expressions are evaluated with. -/
structure Arithmetic (α : Type) where
  /-- The number with the given decimal digits, of which the last `places` stand after the point. -/
  ofDecimal : (digits places : Nat) → α
  add : α → α → α
  sub : α → α → α
  mul : α → α → α
  div : α → α → α
  pow : α → α → α
  neg : α → α
  floor : α → α
  isZero : α → Bool
  render : α → List Char

inductive Token (α : Type) where
  | number (x : α)
  | plus
  | minus
  | times
  | divide
  | modulo
  | power
  | opening
  | closing
deriving Repr

inductive Fault where
  | unexpectedChar (c : Char)
  | unexpectedEnd
  | unexpectedToken (text : List Char)
  | divisionByZero
  | invalidNumber (literal : List Char)
  | tooLong
  | tooDeep
deriving Repr, DecidableEq

def maxLength : Nat := 1024

def maxDepth : Nat := 256

def Fault.message : Fault → String
  | .unexpectedChar c => "unexpected character '" ++ String.ofList [c] ++ "'"
  | .unexpectedEnd => "unexpected end of expression"
  | .unexpectedToken text => "unexpected '" ++ String.ofList text ++ "'"
  | .divisionByZero => "division by zero"
  | .invalidNumber literal => "invalid number '" ++ String.ofList literal ++ "'"
  | .tooLong => "expression longer than " ++ toString maxLength ++ " characters"
  | .tooDeep => "expression nested deeper than " ++ toString maxDepth ++ " levels"

/-- The written form of a token. -/
def Token.render {α : Type} (A : Arithmetic α) : Token α → List Char
  | .number x => A.render x
  | .plus => ['+']
  | .minus => ['-']
  | .times => ['*']
  | .divide => ['/']
  | .modulo => ['%']
  | .power => ['*', '*']
  | .opening => ['(']
  | .closing => [')']

def isLiteral (c : Char) : Bool :=
  c.isDigit || c == '.' || c == '_'

/-- The number of a literal: digits with at most one point among them, at least one digit, and
underscores anywhere, which count for nothing. -/
def number? {α : Type} (A : Arithmetic α) (literal : List Char) : Option α :=
  let cs := literal.filter (· != '_')
  let ds := cs.filter (· != '.')
  if ds.isEmpty || 1 < cs.length - ds.length then none
  else
    let places := cs.length - ((cs.takeWhile (· != '.')).length + 1)
    some (A.ofDecimal (Decimal.value ds) places)

def symbol? {α : Type} : Char → Option (Token α)
  | '+' => some .plus
  | '-' => some .minus
  | '*' => some .times
  | '/' => some .divide
  | '%' => some .modulo
  | '(' => some .opening
  | ')' => some .closing
  | _ => none

/-- Cuts an expression into tokens. Blanks and tabs may stand between them, and two stars are one
token. -/
def tokenize {α : Type} (A : Arithmetic α) : List Char → Except Fault (List (Token α))
  | [] => .ok []
  | c :: cs =>
    if c == ' ' || c == '\t' then tokenize A cs
    else if c.isDigit || c == '.' then
      let literal := c :: cs.takeWhile isLiteral
      match number? A literal with
      | none => .error (.invalidNumber literal)
      | some x => (tokenize A (cs.dropWhile isLiteral)).map (.number x :: ·)
    else if c == '*' && cs.head? == some '*' then (tokenize A cs.tail).map (.power :: ·)
    else
      match symbol? c with
      | none => .error (.unexpectedChar c)
      | some t => (tokenize A cs).map (t :: ·)
termination_by cs => cs.length
decreasing_by
  · simp
  · exact Nat.lt_succ_of_le (List.dropWhile_sublist isLiteral).length_le
  · exact Nat.lt_succ_of_le (List.tail_sublist cs).length_le
  · simp

end Logbook.Calc
