import Logbook.Pattern.Regex

namespace Logbook.Pattern

/-- An instruction. Of the two successors of a fork the first is preferred. -/
inductive Instruction where
  | take (s : CharSet) (next : Nat)
  | look (l : Look) (next : Nat)
  | fork (first second : Nat)
  | accept

/-- Instructions by number, and the number of the first. -/
structure Program where
  code : Array Instruction
  start : Nat

/-- A place to go on and the instructions so far. -/
abbrev Entry : Type := Nat × Array Instruction

def emit (i : Instruction) (code : Array Instruction) : Entry :=
  (code.size, code.push i)

def loopFork (greedy : Bool) (body exit : Nat) : Instruction :=
  if greedy then .fork body exit else .fork exit body

/-- Applies `f` as often as the first argument says. -/
def repeatEntry (f : Entry → Entry) : Nat → Entry → Entry
  | 0, e => e
  | n + 1, e => repeatEntry f n (f e)

/-- Puts the instructions of `body` in a loop that can be left after each round: where to enter it. -/
def compileLoop (body : Entry → Entry) (greedy : Bool) : Entry → Entry := fun (next, code) =>
  let loop := code.size
  let (first, code) := body (loop, code.push .accept)
  (first, code.setIfInBounds loop (loopFork greedy first next))

/-- The instructions that match `r` and then go on at the given place. A loop whose body may match
nothing is entered through a fork of its own, which keeps the order of preference. -/
def Regex.compile : Regex → Entry → Entry
  | .empty, e => e
  | .set s, (next, code) => emit (.take s next) code
  | .look l, (next, code) => emit (.look l next) code
  | .group r, e => r.compile e
  | .sequence a b, e => a.compile (b.compile e)
  | .alternative a b, (next, code) =>
    let (first, code) := a.compile (next, code)
    let (second, code) := b.compile (next, code)
    emit (.fork first second) code
  | .repetition r least most greedy, (next, code) =>
    match most with
    | some most =>
      let optional := repeatEntry
        (fun (inner, code) =>
          let (body, code) := r.compile (inner, code)
          emit (loopFork greedy body next) code)
        (most - least) (next, code)
      repeatEntry r.compile least optional
    | none =>
      if least = 0 then
        if r.canBeEmpty then
          let (first, code) := compileLoop r.compile greedy (next, code)
          emit (loopFork greedy first next) code
        else
          let loop := code.size
          let (first, code) := r.compile (loop, code.push .accept)
          (loop, code.setIfInBounds loop (loopFork greedy first next))
      else repeatEntry r.compile (least - 1) (compileLoop r.compile greedy (next, code))

def Regex.program (r : Regex) : Program :=
  let (start, code) := r.compile (0, #[.accept])
  { code, start }

end Logbook.Pattern
