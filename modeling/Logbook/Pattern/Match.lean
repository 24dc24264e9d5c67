import Logbook.Pattern.Program

/-!
Matching in one pass over a text, with all the ways to match carried along in order of preference. Of all
matches the leftmost counts, and of those the one that is preferred.
-/

namespace Logbook.Pattern

/-- A way to match: the instruction it stands at and the place where it started. -/
structure Thread where
  node : Nat
  start : Nat

/-- Where the first and the second character after a match stand: the ends of the part matched. -/
structure Span where
  first : Nat
  last : Nat
deriving Repr, DecidableEq

/-- The threads reached at one place, last first, and for each instruction whether it has been
reached. -/
structure Reached where
  seen : Array Bool
  threads : List Thread

/-- Follows instructions that take no character, in order of preference. The first argument bounds the
number of instructions looked at. -/
def Program.follow (p : Program) (before after : Option Char) (start : Nat) :
    Nat → List Nat → Reached → Reached
  | 0, _, r => r
  | _ + 1, [], r => r
  | fuel + 1, n :: stack, ⟨seen, threads⟩ =>
    if seen.getD n true then p.follow before after start fuel stack ⟨seen, threads⟩
    else
      let seen := seen.setIfInBounds n true
      match p.code[n]? with
      | some (.fork a b) => p.follow before after start fuel (a :: b :: stack) ⟨seen, threads⟩
      | some (.look l next) =>
        if l.holds before after then p.follow before after start fuel (next :: stack) ⟨seen, threads⟩
        else p.follow before after start fuel stack ⟨seen, threads⟩
      | some (.take _ _) | some .accept =>
        p.follow before after start fuel stack ⟨seen, ⟨n, start⟩ :: threads⟩
      | none => p.follow before after start fuel stack ⟨seen, threads⟩

/-- The threads that wait for a character or accept, reached from `seeds`, in order of preference. -/
def Program.reach (p : Program) (before after : Option Char) (seeds : List Thread) : List Thread :=
  let fuel := 2 * p.code.size + 2
  let reached := seeds.foldl
    (fun r t => p.follow before after t.start fuel [t.node] r)
    ⟨Array.replicate p.code.size false, []⟩
  reached.threads.reverse

def Program.accepts (p : Program) (t : Thread) : Bool :=
  match p.code[t.node]? with
  | some .accept => true
  | _ => false

/-- Takes a character: the threads that can, each one instruction further. -/
def Program.advance (p : Program) (c : Char) (threads : List Thread) : List Thread :=
  threads.filterMap fun t =>
    match p.code[t.node]? with
    | some (Instruction.take s next) => if s.contains c then some ⟨next, t.start⟩ else none
    | _ => none

/-- Matches from a place on. A thread that accepts ends all that are less preferred, and no new thread
starts after it. With `anyMatch` the first thread that accepts is enough. -/
def Program.search (p : Program) (anyMatch : Bool) :
    (place : Nat) → (before : Option Char) → (seeds : List Thread) → (best : Option Span) →
      List Char → Option Span
  | place, before, seeds, best, rest =>
    let seeds := if best.isNone then seeds ++ [⟨p.start, place⟩] else seeds
    let threads := p.reach before rest.head? seeds
    let going := threads.takeWhile fun t => !p.accepts t
    let best := match threads.find? p.accepts with
      | some t => some ⟨t.start, place⟩
      | none => best
    if going.isEmpty && best.isSome || anyMatch && best.isSome then best
    else
      match rest with
      | [] => best
      | c :: rest => p.search anyMatch (place + 1) (some c) (p.advance c going) best rest

/-- The leftmost match in a text that comes after the character `before`, if any. Places are counted from
the start of the text. -/
def Program.find (p : Program) (before : Option Char) (cs : List Char) : Option Span :=
  p.search false 0 before [] none cs

def Program.matchesIn (p : Program) (cs : List Char) : Bool :=
  (p.search true 0 none [] none cs).isSome

/-- The last character of a text, or else the character before it. -/
def lastOr (before : Option Char) (cs : List Char) : Option Char :=
  match cs.getLast? with
  | some c => some c
  | none => before

/-- Replaces the matches from the left. An empty match right after another match does not count. The
first argument is more than twice the length of the text. -/
def Program.replaceFrom (p : Program) (new : List Char) :
    Nat → (afterMatch : Bool) → (before : Option Char) → List Char → List Char
  | 0, _, _, cs => cs
  | fuel + 1, afterMatch, before, cs =>
    match p.find before cs with
    | none => cs
    | some span =>
      if afterMatch && span.last = 0 then
        match cs with
        | [] => []
        | c :: rest => c :: p.replaceFrom new fuel false (some c) rest
      else
        cs.take span.first ++ new
          ++ p.replaceFrom new fuel true (lastOr before (cs.take span.last)) (cs.drop span.last)

def Program.replaceAll (p : Program) (new cs : List Char) : List Char :=
  p.replaceFrom new (2 * cs.length + 2) false none cs

end Logbook.Pattern
