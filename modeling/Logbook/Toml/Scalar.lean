import Logbook.Text.Decimal
import Logbook.Time.Date
import Logbook.Toml.Quoted
import Logbook.Toml.Value

namespace Logbook.Toml

/-- Reads a date: four digits, two digits and two digits, and the day exists. -/
def skipDate? (cs : List Char) : Option (List Char) := do
  let (year, rest) ← Decimal.readNumber 4 4 cs
  let '-' :: rest := rest | none
  let (month, rest) ← Decimal.readNumber 2 2 rest
  let '-' :: rest := rest | none
  let (day, rest) ← Decimal.readNumber 2 2 rest
  if Date.isValid { year, month, day } then some rest else none

def skipFraction : List Char → List Char
  | '.' :: c :: rest => if c.isDigit then rest.dropWhile Char.isDigit else '.' :: c :: rest
  | cs => cs

/-- Reads a time of day. A minute may have a leap second. -/
def skipTime? (cs : List Char) : Option (List Char) := do
  let (hour, rest) ← Decimal.readNumber 2 2 cs
  let ':' :: rest := rest | none
  let (minute, rest) ← Decimal.readNumber 2 2 rest
  let ':' :: rest := rest | none
  let (second, rest) ← Decimal.readNumber 2 2 rest
  if hour ≤ 23 ∧ minute ≤ 59 ∧ second ≤ 60 then some (skipFraction rest) else none

/-- Reads a distance from UTC. -/
def skipOffset? : List Char → Option (List Char)
  | c :: cs =>
    if c == 'Z' || c == 'z' then some cs
    else if c == '+' || c == '-' then do
      let (hour, rest) ← Decimal.readNumber 2 2 cs
      let ':' :: rest := rest | none
      let (minute, rest) ← Decimal.readNumber 2 2 rest
      if hour ≤ 23 ∧ minute ≤ 59 then some rest else none
    else none
  | [] => none

/-- Reads the time after a date, and its distance from UTC if there is one. -/
def skipTimeOfDate? : List Char → Option (List Char)
  | c :: cs =>
    if c == 'T' || c == 't' || c == ' ' then
      (skipTime? cs).map fun rest => (skipOffset? rest).getD rest
    else none
  | [] => none

/-- Reads a date, a date with a time, or a time. -/
def skipMoment? (cs : List Char) : Option (List Char) :=
  match skipDate? cs with
  | some rest => some ((skipTimeOfDate? rest).getD rest)
  | none => skipTime? cs

/-- Whether single underscores stand between digits only. -/
def wellSpaced : List Char → Bool
  | [] => false
  | [c] => c != '_'
  | c :: d :: rest => c != '_' && wellSpaced (if d == '_' then rest else d :: rest)
termination_by cs => cs.length
decreasing_by split <;> simp only [List.length_cons] <;> omega

/-- Reads digits with single underscores between them, and leaves the underscores out. -/
def readSpaced (digit : Char → Bool) (cs : List Char) : Option (List Char × List Char) :=
  let p := fun c => digit c || c == '_'
  let run := cs.takeWhile p
  if wellSpaced run then some (run.filter (· != '_'), cs.dropWhile p) else none

/-- Reads a whole number in a base, after its mark. -/
def readBased (base : Nat) (cs : List Char) : Option (Value × List Char) := do
  let ofBase := fun c => (Json.hexValue? c).any (· < base)
  let (ds, rest) ← readSpaced ofBase cs
  let n := (ds.filterMap Json.hexValue?).foldl (fun n d => base * n + d) 0
  if Decimal.fitsInteger n then some (.integer n, rest) else none

/-- The smallest number that is rounded to infinity among numbers of double precision. -/
def doubleLimit : Nat := Nat.pow 2 1024 - Nat.pow 2 970

/-- Whether `digits * 10 ^ exponent` is rounded to infinity. Powers of ten are compared only where the
number of digits leaves it open. -/
def overflows (digits : Nat) (exponent : Int) : Bool :=
  let places : Int := (Decimal.digits digits).length + exponent
  digits != 0
    && (309 < places
      || places == 309 && doubleLimit * Nat.pow 10 (-exponent).toNat
        ≤ digits * Nat.pow 10 exponent.toNat)

/-- Reads the part after a point, if there is one; a point without digits is wrong. -/
def readPlaces : List Char → Option (Option (List Char) × List Char)
  | '.' :: rest => (readSpaced Char.isDigit rest).map fun (ds, rest) => (some ds, rest)
  | cs => some (none, cs)

/-- Reads an exponent, if there is one; one without digits is wrong. -/
def readPower : List Char → Option (Option Int × List Char)
  | c :: cs =>
    if c == 'e' || c == 'E' then
      let (negative, cs) := match cs with
        | '+' :: rest => (false, rest)
        | '-' :: rest => (true, rest)
        | _ => (false, cs)
      (readSpaced Char.isDigit cs).map fun (ds, rest) =>
        let n : Int := Decimal.value ds
        (some (if negative then -n else n), rest)
    else some (none, c :: cs)
  | [] => some (none, [])

/-- Reads a number in decimal digits, after its sign. It is whole unless it has a point or an exponent,
and a zero is not followed by further digits. -/
def readDecimal (negative : Bool) (cs : List Char) : Option (Value × List Char) := do
  let (whole, rest) ← readSpaced Char.isDigit cs
  if whole.head? = some '0' ∧ whole.length ≠ 1 then none
  let (places, rest) ← readPlaces rest
  let (power, rest) ← readPower rest
  let signed := fun (n : Nat) => if negative then -(n : Int) else n
  if places.isNone && power.isNone then
    let n := signed (Decimal.value whole)
    if Decimal.fitsInteger n then some (.integer n, rest) else none
  else
    let places := places.getD []
    let digits := Decimal.value (whole ++ places)
    let exponent := power.getD 0 - places.length
    if !negative && overflows digits exponent then none
    else some (.real (.decimal (signed digits) exponent), rest)

def readNumber (cs : List Char) : Option (Value × List Char) :=
  let (sign, unsigned) := match cs with
    | '+' :: rest => (some false, rest)
    | '-' :: rest => (some true, rest)
    | _ => (none, cs)
  match sign, unsigned with
  | _, 'i' :: 'n' :: 'f' :: rest => some (.real (.infinity (sign.getD false)), rest)
  | _, 'n' :: 'a' :: 'n' :: rest => some (.real .notANumber, rest)
  | none, '0' :: 'x' :: rest => readBased 16 rest
  | none, '0' :: 'o' :: rest => readBased 8 rest
  | none, '0' :: 'b' :: rest => readBased 2 rest
  | _, _ => readDecimal (sign.getD false) unsigned

/-- Reads a value that is neither quoted nor made of other values. -/
def readScalar (cs : List Char) : Option (Value × List Char) :=
  match cs with
  | 't' :: 'r' :: 'u' :: 'e' :: rest => some (.boolean true, rest)
  | 'f' :: 'a' :: 'l' :: 's' :: 'e' :: rest => some (.boolean false, rest)
  | _ =>
    match skipMoment? cs with
    | some rest => some (.moment (String.ofList (cs.take (cs.length - rest.length))), rest)
    | none => readNumber cs

end Logbook.Toml
