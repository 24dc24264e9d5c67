import Logbook.Unicode.Segmentation

namespace Logbook.Unicode

/-- The classes of characters that keep neighbours together, and those that part them. -/
inductive Joiner where
  | carriageReturn
  | lineFeed
  | control
  | extend
  | zeroWidthJoiner
  | spacingMark
  | prepend
  | regionalIndicator
  | leading
  | vowel
  | trailing
  | syllable
  | closedSyllable
  | pictograph
  | other
deriving Repr, DecidableEq

namespace Joiner

/-- The classes with a row of their own, by its name. -/
def rows : List (String × Joiner) :=
  [("cr", carriageReturn), ("lf", lineFeed), ("control", control), ("extend", extend),
    ("zwj", zeroWidthJoiner), ("spacingmark", spacingMark), ("prepend", prepend),
    ("ri", regionalIndicator), ("l", leading), ("v", vowel), ("t", trailing), ("lv", syllable),
    ("lvt", closedSyllable), ("extpictxx", pictograph)]

def of (c : Char) : Joiner :=
  if 0x20 ≤ c.toNat ∧ c.toNat < 0x7F then other
  else
    let hit := rows.find? fun (name, _) =>
      match lookup graphemeBreaks name with
      | some set => set.contains c
      | none => false
    match hit with
    | some (_, j) => j
    | none => other

/-- Whether a character of this class stands alone, whatever its neighbours are. -/
def parts (j : Joiner) : Bool :=
  j matches carriageReturn | lineFeed | control

/-- Whether the next class goes on with a syllable that has come as far as this class. -/
def continuesWith (j next : Joiner) : Bool :=
  match j with
  | leading => (next matches leading | vowel | syllable | closedSyllable)
  | syllable => (next matches vowel | trailing)
  | vowel => (next matches vowel | trailing)
  | closedSyllable => next == trailing
  | trailing => next == trailing
  | _ => false

end Joiner

/-- Whether a pictograph with any marks stands before a joiner, looking back from it. -/
def endsPictograph (before : List Joiner) : Bool :=
  (before.dropWhile (· == .extend)).head? == some .pictograph

/-- Whether the character after `before`, of which the nearest is first, is still part of the same
user-perceived character. -/
def joins (before : List Joiner) (next : Joiner) : Bool :=
  match before with
  | [] => false
  | last :: rest =>
    if last == .carriageReturn && next == .lineFeed then true
    else if last.parts || next.parts then false
    else if next matches .extend | .zeroWidthJoiner | .spacingMark then true
    else if last == .prepend || last.continuesWith next then true
    else if last == .zeroWidthJoiner && next == .pictograph then endsPictograph rest
    else if last == .regionalIndicator && next == .regionalIndicator then
      (before.takeWhile (· == .regionalIndicator)).length % 2 == 1
    else false

/-- How many characters the last user-perceived character of a text has, read from its end. -/
def lastWidth : List Joiner → Nat
  | [] => 0
  | next :: before => if joins before next then lastWidth before + 1 else 1

/-- How many of the characters that follow `before` are part of the same user-perceived character. -/
def joinedCount (before : List Joiner) : List Joiner → Nat
  | [] => 0
  | next :: rest => if joins before next then joinedCount (next :: before) rest + 1 else 0

/-- How many characters the first user-perceived character of a text has. -/
def firstWidth : List Joiner → Nat
  | [] => 0
  | first :: rest => joinedCount [first] rest + 1

end Logbook.Unicode
