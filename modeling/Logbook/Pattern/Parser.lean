import Logbook.Pattern.Bracket

namespace Logbook.Pattern

/-- A part of a pattern, and how deep it nests. -/
structure Part where
  expr : Expr
  depth : Nat

/-- What has been read of the innermost open group: the items of the alternative being read and the
alternatives before it, both last first. -/
structure Level where
  items : List Part
  branches : List Part

/-- An open group: what stands before it, its kind, and whether blanks are ignored around it. -/
structure OpenGroup where
  outer : Level
  capturing : Bool
  flags : List FlagSetting
  ignoreBlanks : Bool

/-- A reader between two parts of a pattern. -/
structure State where
  level : Level
  opened : List OpenGroup
  ignoreBlanks : Bool
  names : List (List Char)

/-- Parts, last first, put together by `join` from the left; more than one of them nest deeper. -/
def foldParts (join : Expr → Expr → Expr) : List Part → Part
  | [] => ⟨.empty, 0⟩
  | [p] => p
  | last :: parts =>
    parts.foldl (fun acc p => ⟨join p.expr acc.expr, max acc.depth (p.depth + 1)⟩)
      ⟨last.expr, last.depth + 1⟩

def Level.branch (l : Level) : Part :=
  foldParts .sequence l.items

def Level.close (l : Level) : Part :=
  foldParts .alternative (l.branch :: l.branches)

def State.push (s : State) (p : Part) : State :=
  { s with level := { s.level with items := p :: s.level.items } }

def State.openGroup (s : State) (capturing : Bool) (flags : List FlagSetting) : State :=
  { s with
    level := ⟨[], []⟩
    opened := ⟨s.level, capturing, flags, s.ignoreBlanks⟩ :: s.opened
    ignoreBlanks := (flagState? .ignoreBlanks flags).getD s.ignoreBlanks }

def State.closeGroup (s : State) : Except Fault State :=
  match s.opened with
  | [] => .error .groupUnopened
  | g :: opened =>
    let inner := s.level.close
    .ok { s with
      level := { g.outer with
        items := ⟨.group g.capturing g.flags inner.expr, inner.depth + 1⟩ :: g.outer.items }
      opened
      ignoreBlanks := g.ignoreBlanks }

def State.nextBranch (s : State) : State :=
  { s with level := ⟨[], s.level.branch :: s.level.branches⟩ }

/-- Takes the last item off, for an operator that applies to it. -/
def State.popOperand (s : State) : Except Fault (Part × State) :=
  match s.level.items with
  | [] => .error .repetitionOperandMissing
  | p :: items =>
    match p.expr with
    | .empty | .setFlags _ => .error .repetitionOperandMissing
    | _ => .ok (p, { s with level := { s.level with items } })

def State.repeatLast (s : State) (least : Nat) (most : Option Nat) (greedy : Bool) :
    Except Fault State := do
  let (p, s) ← s.popOperand
  .ok (s.push ⟨.repetition p.expr least most greedy, p.depth + 1⟩)

/-- Reads the question mark that makes a repetition take as little as possible. -/
def readGreed : List Char → Bool × List Char
  | '?' :: rest => (false, rest)
  | rest => (true, rest)

/-- Reads the start of a group, or a setting of flags, after the opening parenthesis. -/
def State.readGroup (s : State) (cs : List Char) : Except Fault (State × List Char) :=
  let named (cs : List Char) : Except Fault (State × List Char) := do
    let (name, rest) ← readGroupName true cs
    if name.isEmpty then .error .groupNameEmpty
    else if s.names.contains name then .error .groupNameDuplicate
    else .ok ({ s with names := name :: s.names }.openGroup true [], rest)
  match skip s.ignoreBlanks cs with
  | '?' :: '=' :: _ | '?' :: '!' :: _ => .error .lookAround
  | '?' :: '<' :: '=' :: _ | '?' :: '<' :: '!' :: _ => .error .lookAround
  | '?' :: 'P' :: '<' :: cs => named cs
  | '?' :: '<' :: cs => named cs
  | '?' :: [] => .error .groupUnclosed
  | '?' :: cs => do
    let ((settings, negated), rest) ← readFlags false false [] cs
    match rest with
    | ')' :: rest =>
      if settings.isEmpty && !negated then .error .repetitionOperandMissing
      else
        let s := s.push ⟨.setFlags settings, 0⟩
        .ok ({ s with
          ignoreBlanks := (flagState? .ignoreBlanks settings).getD s.ignoreBlanks }, rest)
    | rest => .ok (s.openGroup false settings, rest.tail)
  | cs => .ok (s.openGroup true [], cs)

def Atom.expr : Atom → Expr
  | .literal c isByte => .literal c isByte
  | .assertion a => .assertion a
  | .any => .any
  | .property name negated => .property name negated
  | .shorthand kind negated => .shorthand kind negated

def ClassPart.part (p : ClassPart) : Part :=
  match p.expr with
  | .bracketed negated body => ⟨.bracketed negated body, p.depth⟩
  | e => ⟨.bracketed false e, p.depth⟩

def State.step (s : State) (c : Char) (cs : List Char) : Except Fault (State × List Char) :=
  match c with
  | '(' => s.readGroup cs
  | ')' => do .ok (← s.closeGroup, cs)
  | '|' => .ok (s.nextBranch, cs)
  | '[' => do
    let (p, rest) ← readClass s.ignoreBlanks cs
    .ok (s.push p.part, rest)
  | '?' => do
    let (greedy, rest) := readGreed cs
    .ok (← s.repeatLast 0 (some 1) greedy, rest)
  | '*' => do
    let (greedy, rest) := readGreed cs
    .ok (← s.repeatLast 0 none greedy, rest)
  | '+' => do
    let (greedy, rest) := readGreed cs
    .ok (← s.repeatLast 1 none greedy, rest)
  | '\x7b' => do
    let _ ← s.popOperand
    let ((least, most, greedy), rest) ← readCounts s.ignoreBlanks cs
    .ok (← s.repeatLast least most greedy, rest)
  | _ => do
    let (a, rest) ← readAtom s.ignoreBlanks (c :: cs)
    .ok (s.push ⟨a.expr, 0⟩, rest)

/-- Reads parts to the end of the pattern. The first argument is more than the length of the text. -/
def State.run : Nat → State → List Char → Except Fault State
  | 0, s, _ => .ok s
  | fuel + 1, s, cs =>
    match skip s.ignoreBlanks cs with
    | [] => .ok s
    | c :: cs => do
      let (s, rest) ← s.step c cs
      State.run fuel s rest

def parse (cs : List Char) : Except Fault Expr := do
  let s ← State.run (cs.length + 1) ⟨⟨[], []⟩, [], false, []⟩ cs
  if !s.opened.isEmpty then .error .groupUnclosed
  else
    let whole := s.level.close
    if maxNesting < whole.depth then .error .nestedTooDeep else .ok whole.expr

end Logbook.Pattern
