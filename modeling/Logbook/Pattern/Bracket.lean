import Logbook.Pattern.Lexeme

namespace Logbook.Pattern

/-- A part of a class, and how deep it nests. -/
structure ClassPart where
  expr : ClassExpr
  depth : Nat

/-- The operators between the parts of a class. They group to the left. -/
inductive ClassOperator where
  | intersection
  | difference
  | symmetricDifference

def ClassOperator.apply : ClassOperator → ClassPart → ClassPart → ClassPart
  | .intersection, a, b => ⟨.intersection a.expr b.expr, max a.depth b.depth + 1⟩
  | .difference, a, b => ⟨.difference a.expr b.expr, max a.depth b.depth + 1⟩
  | .symmetricDifference, a, b => ⟨.symmetricDifference a.expr b.expr, max a.depth b.depth + 1⟩

/-- An open bracket: the items before it in the class around it, whether it is negated, and the operator
whose right side is being read. -/
structure OpenBracket where
  before : List ClassPart
  negated : Bool
  pending : Option (ClassOperator × ClassPart)

/-- Items, last first, as one part. -/
def unionOf : List ClassPart → ClassPart
  | [] => ⟨.empty, 0⟩
  | [p] => p
  | last :: items =>
    items.foldl (fun acc p => ⟨.union p.expr acc.expr, max acc.depth (p.depth + 1)⟩)
      ⟨last.expr, last.depth + 1⟩

/-- Ends the items read so far and applies the pending operator to them. -/
def OpenBracket.operand (b : OpenBracket) (items : List ClassPart) : ClassPart :=
  match b.pending with
  | none => unionOf items
  | some (op, left) => op.apply left (unionOf items)

/-- Reads the hyphens that stand for themselves at the start of a class. -/
def readHyphens (ignoreBlanks : Bool) :
    Nat → List ClassPart → List Char → Except Fault (List ClassPart × List Char)
  | fuel + 1, items, '-' :: cs =>
    match skip ignoreBlanks cs with
    | [] => .error .classUnclosed
    | cs => readHyphens ignoreBlanks fuel (⟨.literal '-' false, 0⟩ :: items) cs
  | _, items, cs => .ok (items, cs)

/-- Reads the start of a class, after its bracket: a negation, hyphens, and a closing bracket that is
first and so stands for itself. -/
def readOpening (ignoreBlanks : Bool) (cs : List Char) :
    Except Fault ((Bool × List ClassPart) × List Char) := do
  let (negated, cs) ← match skip ignoreBlanks cs with
    | [] => .error .classUnclosed
    | '^' :: rest =>
      match skip ignoreBlanks rest with
      | [] => .error .classUnclosed
      | rest => .ok (true, rest)
    | cs => .ok (false, cs)
  let (items, cs) ← readHyphens ignoreBlanks cs.length [] cs
  match items, cs with
  | [], ']' :: rest =>
    match skip ignoreBlanks rest with
    | [] => .error .classUnclosed
    | rest => .ok ((negated, [⟨.literal ']' false, 0⟩]), rest)
  | _, _ => .ok ((negated, items), cs)

def readAsciiClass (cs : List Char) : Option (ClassPart × List Char) :=
  match cs with
  | ':' :: cs =>
    let (negated, cs) := match cs with
      | '^' :: rest => (true, rest)
      | _ => (false, cs)
    match cs.dropWhile (· != ':') with
    | ':' :: ']' :: rest =>
      (asciiClass? (cs.takeWhile (· != ':'))).map fun ranges => (⟨.ascii ranges negated, 0⟩, rest)
    | _ => none
  | _ => none

def readClassAtom (ignoreBlanks : Bool) : List Char → Except Fault (Atom × List Char)
  | [] => .error .classUnclosed
  | '\\' :: cs => readEscape ignoreBlanks cs
  | c :: cs => .ok (.literal c false, cs)

def Atom.item : Atom → Except Fault ClassPart
  | .literal c isByte => .ok ⟨.literal c isByte, 0⟩
  | .property name negated => .ok ⟨.property name negated, 0⟩
  | .shorthand kind negated => .ok ⟨.shorthand kind negated, 0⟩
  | .assertion _ | .any => .error .classEscape

def Atom.bound : Atom → Except Fault (Char × Bool)
  | .literal c isByte => .ok (c, isByte)
  | _ => .error .classRangeBound

/-- Reads an item of a class, or a range. A hyphen before a closing bracket or another hyphen does not
make a range. -/
def readItem (ignoreBlanks : Bool) (cs : List Char) : Except Fault (ClassPart × List Char) := do
  let (first, cs) ← readClassAtom ignoreBlanks cs
  match skip ignoreBlanks cs with
  | [] => .error .classUnclosed
  | '-' :: rest =>
    match skip ignoreBlanks rest with
    | [] => .error .classUnclosed
    | next :: after =>
      if next = ']' || next = '-' then .ok (← first.item, '-' :: rest)
      else
        let (second, rest) ← readClassAtom ignoreBlanks (next :: after)
        let (low, lowIsByte) ← first.bound
        let (high, highIsByte) ← second.bound
        if high < low then .error .classRangeOrder
        else .ok (⟨.range low high lowIsByte highIsByte, 0⟩, rest)
  | cs => .ok (← first.item, cs)

/-- Reads a class whose brackets `current` and `around` are open, `items` being the items of the
innermost, last first. -/
def readClassFrom (ignoreBlanks : Bool) :
    Nat → OpenBracket → List OpenBracket → List ClassPart → List Char →
      Except Fault (ClassPart × List Char)
  | 0, _, _, _, _ => .error .classUnclosed
  | fuel + 1, current, around, items, cs =>
    match skip ignoreBlanks cs with
    | [] => .error .classUnclosed
    | '[' :: rest =>
      match readAsciiClass rest with
      | some (part, rest) => readClassFrom ignoreBlanks fuel current around (part :: items) rest
      | none => do
        let ((negated, inner), rest) ← readOpening ignoreBlanks rest
        readClassFrom ignoreBlanks fuel ⟨items, negated, none⟩ (current :: around) inner rest
    | ']' :: rest =>
      let body := current.operand items
      let part : ClassPart := ⟨.bracketed current.negated body.expr, body.depth + 1⟩
      match around with
      | [] => .ok (part, rest)
      | outer :: around =>
        readClassFrom ignoreBlanks fuel outer around (part :: current.before) rest
    | '&' :: '&' :: rest =>
      let left := current.operand items
      readClassFrom ignoreBlanks fuel { current with pending := some (.intersection, left) } around
        [] rest
    | '-' :: '-' :: rest =>
      let left := current.operand items
      readClassFrom ignoreBlanks fuel { current with pending := some (.difference, left) } around
        [] rest
    | '~' :: '~' :: rest =>
      let left := current.operand items
      readClassFrom ignoreBlanks fuel { current with pending := some (.symmetricDifference, left) }
        around [] rest
    | cs => do
      let (part, rest) ← readItem ignoreBlanks cs
      readClassFrom ignoreBlanks fuel current around (part :: items) rest

def readClass (ignoreBlanks : Bool) (cs : List Char) : Except Fault (ClassPart × List Char) := do
  let ((negated, items), rest) ← readOpening ignoreBlanks cs
  readClassFrom ignoreBlanks (rest.length + 1) ⟨[], negated, none⟩ [] items rest

end Logbook.Pattern
