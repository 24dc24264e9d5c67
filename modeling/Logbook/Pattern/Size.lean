import Logbook.Pattern.Fault
import Logbook.Pattern.Regex
import Logbook.Text.Utf8Ranges

/-!
The memory that regular expressions take as automata over bytes, of which the larger one of two counts:
the automaton that reads forward, and the one that reads backward.
-/

namespace Logbook.Pattern

/-- The memory of a state that has no list. -/
def stateBytes : Nat := 32

/-- The memory of a transition in a list. -/
def transitionBytes : Nat := 8

/-- The memory of an alternative in a list. -/
def alternativeBytes : Nat := 4

/-- A state of an automaton as far as sharing goes: ranges of bytes and the numbers of the states that
they lead to. -/
abbrev SharedState : Type := List (Utf8.ByteRange × Nat)

/-- The number of a state, which is added if it is new. Numbers count from one; zero is the end. -/
def intern (state : SharedState) (states : List SharedState) : Nat × List SharedState :=
  match states.reverse.findIdx? (· = state) with
  | some i => (i + 1, states)
  | none => (states.length + 1, state :: states)

/-- Neighbours with the same first range, without it. -/
def byFirst (sequences : List (List Utf8.ByteRange)) :
    List (Utf8.ByteRange × List (List Utf8.ByteRange)) :=
  sequences.foldr (fun sequence groups =>
    match sequence with
    | [] => groups
    | r :: rest =>
      match groups with
      | (s, members) :: others =>
        if s = r then (s, rest :: members) :: others else (r, [rest]) :: groups
      | [] => [(r, [rest])]) []

/-- The states that sequences of at most `depth` ranges lead through, with equal states shared: the
number of the first one and all of them. -/
def shareStates : Nat → List (List Utf8.ByteRange) → List SharedState → Nat × List SharedState
  | 0, _, states => (0, states)
  | depth + 1, sequences, states =>
    match byFirst sequences with
    | [] => (0, states)
    | groups =>
      let (state, states) := groups.foldl (fun (state, states) (r, rest) =>
        let (n, states) := shareStates depth rest states
        (state ++ [(r, n)], states)) ([], states)
      intern state states

/-- The number of different beginnings of sequences that are not empty. -/
def countPrefixes : Nat → List (List Utf8.ByteRange) → Nat
  | 0, _ => 0
  | depth + 1, sequences =>
    ((byFirst sequences).map fun (_, rest) => 1 + countPrefixes depth rest).sum

/-- The longest form of a character. -/
def maxForm : Nat := 4

/-- The memory of a set in an automaton that reads forward. -/
def forwardSet (sequences : List (List Utf8.ByteRange)) : Nat :=
  let states := (shareStates maxForm sequences []).2
  stateBytes * (states.length + 1) + transitionBytes * states.flatten.length

/-- The memory of a set in an automaton that reads backward. -/
def backwardSet (sequences : List (List Utf8.ByteRange)) : Nat :=
  stateBytes * (countPrefixes maxForm sequences + 2) + alternativeBytes * sequences.length

/-- The memory of a set. A single character is a chain of its bytes, and ASCII ranges share a state. -/
def setSize (forward : Bool) (s : CharSet) : Nat :=
  match s.ranges with
  | [] => 2 * stateBytes
  | [(low, high)] =>
    if low = high then stateBytes * (Utf8.bytesOf low).length
    else if high < 0x80 then 2 * stateBytes
    else wide
  | rs => if s.isAscii then 2 * stateBytes + transitionBytes * rs.length else wide
where
  wide : Nat :=
    let sequences := Utf8.sequences s
    if forward then forwardSet sequences else backwardSet sequences

/-- The memory of a loop without an upper bound around an expression of the given memory. -/
def loopSize (canBeEmpty : Bool) (least body : Nat) : Nat :=
  let fork := stateBytes + 2 * alternativeBytes
  if least = 0 then if canBeEmpty then body + 2 * fork + stateBytes else body + fork
  else least * body + fork

/-- The memory of a bounded repetition of an expression of the given memory. -/
def boundedSize (least most body : Nat) : Nat :=
  let optional := body + stateBytes + 2 * alternativeBytes
  if most ≤ least then least * body
  else
    let start := if least = 0 ∧ most ≠ 1 then stateBytes else 0
    start + least * body + stateBytes + (most - least) * optional

def Regex.isChoice : Regex → Bool
  | .alternative _ _ => true
  | _ => false

/-- The memory of an expression. Alternatives part in one state and meet in another, also if choices are
nested. -/
def Regex.sizeOf (forward : Bool) : Regex → Nat
  | .empty => stateBytes
  | .set s => setSize forward s
  | .look _ => stateBytes
  | .group r => r.sizeOf forward + if forward then 2 * stateBytes else 0
  | .sequence a b => a.sizeOf forward + b.sizeOf forward
  | .alternative a b => branch a (a.sizeOf forward) + branch b (b.sizeOf forward) + 2 * stateBytes
  | .repetition r least most _ =>
    match most with
    | none => loopSize r.canBeEmpty least (r.sizeOf forward)
    | some most => boundedSize least most (r.sizeOf forward)
where
  /-- What a branch adds to a choice. -/
  branch (r : Regex) (size : Nat) : Nat :=
    if r.isChoice then size - 2 * stateBytes else size + alternativeBytes

/-- Whether every match starts, or for an automaton that reads backward ends, at the edge of the text. -/
def Regex.isAnchored (forward : Bool) : Regex → Bool
  | .empty => false
  | .set _ => false
  | .look l => l = if forward then .textStart else .textEnd
  | .group r => r.isAnchored forward
  | .sequence a b =>
    if forward then a.isAnchored forward || (a.isNarrow && b.isAnchored forward)
    else b.isAnchored forward || (b.isNarrow && a.isAnchored forward)
  | .alternative a b => a.isAnchored forward && b.isAnchored forward
  | .repetition r least _ _ => 0 < least && r.isAnchored forward

/-- The memory of what stands around an expression: a loop over all bytes in front of it, unless it is anchored,
what notes the ends of a match when reading forward, and the state that accepts. -/
def Regex.frameSize (forward : Bool) (r : Regex) : Nat :=
  let front :=
    if r.isAnchored forward then stateBytes else 3 * stateBytes + 2 * alternativeBytes + transitionBytes
  let ends := if forward then 2 * stateBytes else 0
  front + ends + stateBytes

def Regex.automatonSize (forward : Bool) (r : Regex) : Nat :=
  r.frameSize forward + r.sizeOf forward

def Regex.isTooLarge (r : Regex) : Bool :=
  maxMemory < r.automatonSize true || maxMemory < r.automatonSize false

end Logbook.Pattern
