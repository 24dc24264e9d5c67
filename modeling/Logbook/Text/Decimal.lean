namespace Logbook.Decimal

def digit (n : Nat) : Char :=
  Char.ofNat ('0'.toNat + n)

def digitValue (c : Char) : Nat :=
  c.toNat - '0'.toNat

/-- The last `width` decimal digits of `n`, most significant first. -/
def fixed : Nat → Nat → List Char
  | 0, _ => []
  | width + 1, n => digit (n / Nat.pow 10 width % 10) :: fixed width n

def digits (n : Nat) : List Char :=
  Nat.toDigits 10 n

/-- The decimal form of `n`, with zeros in front up to `width` digits. -/
def padded (width n : Nat) : List Char :=
  let ds := digits n
  List.replicate (width - ds.length) '0' ++ ds

def value (ds : List Char) : Nat :=
  ds.foldl (fun n d => 10 * n + digitValue d) 0

theorem length_fixed (width n : Nat) : (fixed width n).length = width := by
  induction width with
  | zero => rfl
  | succ width ih => simp [fixed, ih]

def readDigits (least most : Nat) (cs : List Char) : Option (List Char × List Char) :=
  let ds := (cs.take most).takeWhile Char.isDigit
  if ds.length < least then none else some (ds, cs.drop ds.length)

def readNumber (least most : Nat) (cs : List Char) : Option (Nat × List Char) :=
  (readDigits least most cs).map fun (ds, rest) => (value ds, rest)

/-- The first count that does not fit into 64 bits. -/
def countLimit : Nat := 0x10000000000000000

/-- The first number that does not fit into 64 bits with a sign. -/
def integerLimit : Int := 0x8000000000000000

def fitsInteger (n : Int) : Bool :=
  -integerLimit ≤ n && n < integerLimit

/-- Reads a whole text as a count: an optional plus sign, digits, and a value of at most 64 bits. -/
def parseCount? (cs : List Char) : Option Nat :=
  let ds := if cs.head? = some '+' then cs.tail else cs
  if ds.isEmpty || !ds.all Char.isDigit then none
  else if value ds < countLimit then some (value ds) else none

/-- Reads a whole text as a number with an optional sign, which fits into 64 bits. -/
def parseInteger? (cs : List Char) : Option Int :=
  let (negative, ds) := match cs with
    | '-' :: rest => (true, rest)
    | '+' :: rest => (false, rest)
    | _ => (false, cs)
  if ds.isEmpty || !ds.all Char.isDigit then none
  else
    let n : Int := if negative then -(value ds : Int) else value ds
    if fitsInteger n then some n else none

end Logbook.Decimal
