import Logbook.Number.Binary
import Logbook.Text.Basic
import Logbook.Text.Decimal

/-!
The fewest decimal digits that read back as a given double.

The reals that round to `m * 2 ^ q` form an interval. For one digit, two digits and so on the two
neighbours of the number on the decimal grid are tried; the first grid with a neighbour in the
interval gives the digits.
-/

namespace Logbook.Shortest

/-- A positive decimal number: `digits * 10 ^ exponent`. -/
structure Decimal where
  digits : Nat
  exponent : Int
deriving Repr, DecidableEq

/-- `n * 2 ^ q * 10 ^ k` as a fraction, its numerator. -/
def scaleUp (n : Nat) (q k : Int) : Nat :=
  n * Nat.pow 2 q.toNat * Nat.pow 10 k.toNat

def scaleDown (q k : Int) : Nat :=
  Nat.pow 2 (-q).toNat * Nat.pow 10 (-k).toNat

/-- The grid point that is nearest to `m * 2 ^ q` of those that are neighbours on the grid of
multiples of `10 ^ k` and round to it; of two equally near the larger. -/
def onGrid? (m : Nat) (q k : Int) (closer : Bool) : Option Nat :=
  let number := scaleUp (4 * m) (q - 2) (-k)
  let low := scaleUp (4 * m - if closer then 1 else 2) (q - 2) (-k)
  let high := scaleUp (4 * m + 2) (q - 2) (-k)
  let unit := scaleDown (q - 2) (-k)
  let below := number / unit
  let above := below + 1
  let roundsBack (d : Nat) : Bool :=
    if m % 2 = 0 then low ≤ d * unit && d * unit ≤ high else low < d * unit && d * unit < high
  match 0 < below && roundsBack below, roundsBack above with
  | true, true => if number - below * unit < above * unit - number then some below else some above
  | true, false => some below
  | false, true => some above
  | false, false => none

def leadingExponent (m : Nat) (q : Int) : Int :=
  let guess := ((m.log2 : Int) + q) * 30103 / 100000
  if scaleUp m q (-(guess + 1)) < scaleDown q (-(guess + 1)) then guess else guess + 1

/-- The first of the grids with `count`, `count + 1`, … digits that has a point which rounds back. -/
def search (m : Nat) (q lead : Int) (closer : Bool) : Nat → Nat → Option Decimal
  | 0, _ => none
  | tries + 1, count =>
    let k := lead - count + 1
    match onGrid? m q k closer with
    | some d => some ⟨d, k⟩
    | none => search m q lead closer tries (count + 1)

/-- The shortest decimal that reads back as the positive double `m * 2 ^ q`. Seventeen digits are
enough for every double. -/
def shortest (m : Nat) (q : Int) : Decimal :=
  (search m q (leadingExponent m q) (Double.closerBelow m q) 17 1).getD ⟨0, 0⟩

def Decimal.positional (d : Decimal) : List Char :=
  let ds := Logbook.Decimal.digits d.digits
  if 0 ≤ d.exponent then ds ++ List.replicate d.exponent.toNat '0'
  else
    let places := (-d.exponent).toNat
    let ds := List.replicate (places + 1 - ds.length) '0' ++ ds
    let fraction := Text.dropEndWhile (· == '0') (ds.drop (ds.length - places))
    let whole := ds.take (ds.length - places)
    if fraction.isEmpty then whole else whole ++ '.' :: fraction

end Logbook.Shortest
