import Logbook.Unicode.CaseTable
import Logbook.Unicode.Property

namespace Logbook.Unicode

/-- The pairs of a character and its image that rows of four numbers describe: first character,
count, stride and image of the first. -/
def pairsOfRows : List Nat → List (Nat × Nat)
  | first :: count :: stride :: image :: rest =>
    (List.range count).map (fun i => (first + stride * i, image + stride * i)) ++ pairsOfRows rest
  | _ => []

def foldPairs : List (Nat × Nat) :=
  pairsOfRows (readNumbers foldRows)

/-- The set together with every character that folds to the same form as a member. -/
def closeUnderCase (s : CharSet) : CharSet :=
  let hit := foldPairs.filterMap fun (c, folded) =>
    if s.containsNat c || s.containsNat folded then some (folded, folded) else none
  if hit.isEmpty then s
  else
    let forms := CharSet.ofRanges hit
    let variants := foldPairs.filterMap fun (c, folded) =>
      if forms.containsNat folded then some (c, c) else none
    CharSet.ofRanges (s.ranges ++ hit ++ variants)

def lowerPairs : List (Nat × Nat) :=
  pairsOfRows (readNumbers lowerRows)

/-- The lower case of one character, apart from the final form of sigma. The capital I with a dot keeps
the dot as a mark of its own. -/
def lowerChar (c : Char) : List Char :=
  if c.toNat < 0x80 then [c.toLower]
  else if c = '\u0130' then ['i', '\u0307']
  else
    match lowerPairs.find? fun p => p.1 = c.toNat with
    | some (_, image) => [Char.ofNat image]
    | none => [c]

def casedChars : CharSet :=
  (lookup binaryProperties "cased").getD CharSet.empty

/-- The characters that are passed over when the neighbours of a letter are looked for. -/
def caseIgnorableChars : CharSet :=
  (lookup binaryProperties "caseignorable").getD CharSet.empty

/-- Whether the first character that is not passed over has case. -/
def meetsCased (cs : List Char) : Bool :=
  match cs.dropWhile caseIgnorableChars.contains with
  | c :: _ => casedChars.contains c
  | [] => false

/-- Lower case from left to right; `before` holds the characters on the left, last first. A capital
sigma that ends a word has a form of its own. -/
def lowerFrom (before : List Char) : List Char → List Char
  | [] => []
  | c :: rest =>
    let image :=
      if c = '\u03A3' then if meetsCased before && !meetsCased rest then ['\u03C2'] else ['\u03C3']
      else lowerChar c
    image ++ lowerFrom (c :: before) rest

def lower (cs : List Char) : List Char :=
  lowerFrom [] cs

end Logbook.Unicode
