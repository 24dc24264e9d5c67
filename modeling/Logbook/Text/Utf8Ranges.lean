import Logbook.Text.CharSet

namespace Logbook.Utf8

abbrev ByteRange : Type := Nat × Nat

def bytesOf (n : Nat) : List Nat :=
  if n < 0x80 then [n]
  else if n < 0x800 then [0xC0 + n / 64, 0x80 + n % 64]
  else if n < 0x10000 then [0xE0 + n / 4096, 0x80 + n / 64 % 64, 0x80 + n % 64]
  else [0xF0 + n / 262144, 0x80 + n / 4096 % 64, 0x80 + n / 64 % 64, 0x80 + n % 64]

/-- Where a range of character numbers has to be cut because its forms have different lengths: the
surrogates are left out, and each part is given with both ends. -/
def cutByLength (low high : Nat) : Option (List (Nat × Nat)) :=
  if low < 0xE000 ∧ 0xD7FF < high then some [(low, 0xD7FF), (0xE000, high)]
  else
    match [0x7F, 0x7FF, 0xFFFF].find? fun last => low ≤ last && last < high with
    | some last => some [(low, last), (last + 1, high)]
    | none => none

/-- Where a range has to be cut because its forms do not run through all last bytes: `size` is the
number of characters that share the bytes before them. -/
def cutBySize (low high size : Nat) : Option (List (Nat × Nat)) :=
  if low / size = high / size then none
  else if low % size ≠ 0 then
    let last := low / size * size + (size - 1)
    some [(low, last), (last + 1, high)]
  else if high % size ≠ size - 1 then
    let first := high / size * size
    some [(low, first - 1), (first, high)]
  else none

/-- The sequences for a range of character numbers. The first argument bounds the number of cuts that
one part goes through. -/
def sequencesOf : Nat → Nat × Nat → List (List ByteRange)
  | 0, _ => []
  | fuel + 1, (low, high) =>
    if high < low then []
    else
      let cut := (cutByLength low high).or <|
        if high < 0x80 then none else [64, 4096, 262144].findSome? (cutBySize low high)
      match cut with
      | some parts => parts.flatMap (sequencesOf fuel)
      | none => [(bytesOf low).zip (bytesOf high)]

def maxCuts : Nat := 32

def sequences (s : CharSet) : List (List ByteRange) :=
  s.ranges.flatMap (sequencesOf maxCuts)

end Logbook.Utf8
