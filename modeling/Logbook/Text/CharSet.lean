namespace Logbook

/-- A set of characters: ranges of character numbers with both ends included, in ascending order and
with gaps between them. -/
structure CharSet where
  ranges : List (Nat × Nat)
deriving Repr, DecidableEq

namespace CharSet

def maxChar : Nat := 0x10FFFF

def empty : CharSet := ⟨[]⟩

def all : CharSet := ⟨[(0, maxChar)]⟩

def single (n : Nat) : CharSet := ⟨[(n, n)]⟩

def range (low high : Nat) : CharSet := if low ≤ high then ⟨[(low, high)]⟩ else empty

def rangesContain (n : Nat) : List (Nat × Nat) → Bool
  | [] => false
  | (low, high) :: rest => if n < low then false else n ≤ high || rangesContain n rest

def containsNat (s : CharSet) (n : Nat) : Bool :=
  rangesContain n s.ranges

def contains (s : CharSet) (c : Char) : Bool :=
  s.containsNat c.toNat

theorem contains_single (c d : Char) : (single c.toNat).contains d = (d == c) := by
  rw [Bool.eq_iff_iff, beq_iff_eq, ← Char.toNat_inj]
  simp only [single, contains, containsNat, rangesContain]
  split <;> simp <;> omega

/-- Joins ranges that touch or overlap, given in the order of their lower ends. -/
def coalesce : List (Nat × Nat) → List (Nat × Nat)
  | [] => []
  | [r] => [r]
  | (a, b) :: (c, d) :: rest =>
    if c ≤ b + 1 then coalesce ((a, max b d) :: rest) else (a, b) :: coalesce ((c, d) :: rest)
termination_by rs => rs.length

/-- The set that ranges in any order cover. -/
def ofRanges (rs : List (Nat × Nat)) : CharSet :=
  ⟨coalesce (rs.mergeSort fun r s => r.1 ≤ s.1)⟩

def union (s t : CharSet) : CharSet :=
  ofRanges (s.ranges ++ t.ranges)

/-- The gaps between ascending ranges, from `start` on. -/
def gapsFrom : Nat → List (Nat × Nat) → List (Nat × Nat)
  | start, [] => if start ≤ maxChar then [(start, maxChar)] else []
  | start, (low, high) :: rest =>
    if start < low then (start, low - 1) :: gapsFrom (high + 1) rest else gapsFrom (high + 1) rest

def complement (s : CharSet) : CharSet :=
  ⟨gapsFrom 0 s.ranges⟩

def inter (s t : CharSet) : CharSet :=
  (union s.complement t.complement).complement

def diff (s t : CharSet) : CharSet :=
  s.inter t.complement

/-- The members of one set but not of the other. -/
def symmDiff (s t : CharSet) : CharSet :=
  (s.union t).diff (s.inter t)

def isAscii (s : CharSet) : Bool :=
  s.ranges.all fun r => r.2 < 0x80

end CharSet

end Logbook
