import Logbook.Text.CharSet

/-!
Rows of the character tables. The ranges of a row are written as numbers in base 36, in turn the length
of a gap and the length of a range.
-/

namespace Logbook.Unicode

/-- A named set of characters: its names, in lower case and without separators, and its ranges. -/
structure Entry where
  names : List String
  gaps : List String

def digitValue (c : Char) : Nat :=
  if c.isDigit then c.toNat - '0'.toNat else c.toNat - 'a'.toNat + 10

/-- The numbers of a row, which may be spread over several lines. -/
def readNumbers (lines : List String) : List Nat :=
  lines.flatMap fun line =>
    (line.toList.splitOn ' ').map fun ds => ds.foldl (fun n d => 36 * n + digitValue d) 0

/-- The ranges that gaps and lengths in turn describe, from `start` on. -/
def rangesFrom : Nat → List Nat → List (Nat × Nat)
  | start, gap :: length :: rest =>
    (start + gap, start + gap + length - 1) :: rangesFrom (start + gap + length) rest
  | _, _ => []

def Entry.set (e : Entry) : CharSet :=
  ⟨rangesFrom 0 (readNumbers e.gaps)⟩

def lookup (table : List Entry) (name : String) : Option CharSet :=
  (table.find? fun e => e.names.contains name).map Entry.set

end Logbook.Unicode
