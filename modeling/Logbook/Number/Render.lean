import Logbook.Number.Shortest

namespace Logbook.Double

/-- The text of a double. Zero keeps its sign, and a whole number has no point. -/
def render : Double → List Char
  | .nan => "NaN".toList
  | .infinite negative => (if negative then ['-'] else []) ++ "inf".toList
  | .finite negative m q =>
    (if negative then ['-'] else [])
      ++ if m = 0 then ['0'] else (Shortest.shortest m q).positional

def whole? : Double → Option (Bool × Nat)
  | .finite negative m q =>
    if 0 ≤ q then some (negative, m * Nat.pow 2 q.toNat)
    else
      let denominator := Nat.pow 2 (-q).toNat
      if m % denominator = 0 then some (negative, m / denominator) else none
  | _ => none

def integerBound : Nat := 1000000000000000

/-- The text of a result. Whole numbers below the bound are written as integers, for which zero has no
sign. -/
def renderResult (x : Double) : List Char :=
  match x.whole? with
  | some (negative, n) =>
    if n < integerBound then (if negative && n ≠ 0 then ['-'] else []) ++ Decimal.digits n
    else x.render
  | none => x.render

end Logbook.Double
