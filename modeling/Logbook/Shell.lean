import Logbook.Number.Binary
import Logbook.Text.Decimal

namespace Logbook

inductive ShellOutcome where
  | completed (output : String)
  /-- It has ended with another status than zero, or without one because a signal has ended it. -/
  | failed (output : String) (code : Option Int)
  | spawnFailed (reason : String)
  /-- It has been stopped at its limit, in milliseconds, and its output is lost. -/
  | timedOut (limit : Nat)
deriving Repr, DecidableEq

namespace ShellOutcome

def isSuccess : ShellOutcome → Bool
  | .completed _ => true
  | _ => false

def statusText : Option Int → String
  | some code => "exit status " ++ toString code
  | none => "terminated by signal"

/-- The tenths that a double is nearest to; of two equally near ones the even one. -/
def nearestTenths : Double → Nat
  | .finite _ m q =>
    let denominator := Nat.pow 2 (-q).toNat
    let numerator := 10 * m * Nat.pow 2 q.toNat
    let (whole, rest) := (numerator / denominator, numerator % denominator)
    if denominator < 2 * rest || (denominator == 2 * rest && whole % 2 == 1) then whole + 1 else whole
  | _ => 0

/-- A time in milliseconds as seconds, with a decimal place unless they are whole. -/
def secondsText (ms : Nat) : String :=
  if ms % 1000 = 0 then toString (ms / 1000)
  else
    let seconds := Float.ofNat (ms / 1000) + Float.ofNat (ms % 1000 * 1000000) / 1000000000.0
    let n := nearestTenths (Double.ofFloat seconds)
    toString (n / 10) ++ "." ++ toString (n % 10)

def describe : ShellOutcome → String
  | .completed output => output
  | .failed output code => if output.isEmpty then statusText code else output ++ "\n" ++ statusText code
  | .spawnFailed reason => "failed to start: " ++ reason
  | .timedOut limit => "command timed out after " ++ secondsText limit ++ "s"

end ShellOutcome

end Logbook
