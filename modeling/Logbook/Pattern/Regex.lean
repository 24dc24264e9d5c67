import Logbook.Text.CharSet
import Logbook.Unicode.Class

namespace Logbook.Pattern

/-- A condition on the place between two characters. -/
inductive Look where
  | textStart
  | textEnd
  | lineStart
  | lineEnd
  | crlfLineStart
  | crlfLineEnd
  | wordBoundary (ascii : Bool)
  | noWordBoundary (ascii : Bool)
  | wordStart (ascii : Bool)
  | wordEnd (ascii : Bool)
  | wordStartHalf (ascii : Bool)
  | wordEndHalf (ascii : Bool)
deriving Repr, DecidableEq

/-- A regular expression. Of two alternatives the left one is preferred, and a greedy repetition
prefers to go on. -/
inductive Regex where
  | empty
  | set (s : CharSet)
  | look (l : Look)
  | group (r : Regex)
  | sequence (a b : Regex)
  | alternative (a b : Regex)
  | repetition (r : Regex) (least : Nat) (most : Option Nat) (greedy : Bool)
deriving Repr

def isWord (ascii : Bool) (c : Char) : Bool :=
  if c.toNat < 0x80 then c.isAlphanum || c == '_' else !ascii && Unicode.wordChars.contains c

def isWord? (ascii : Bool) : Option Char → Bool
  | some c => isWord ascii c
  | none => false

/-- Whether a condition holds between the character before and the character after a place. -/
def Look.holds (before after : Option Char) : Look → Bool
  | .textStart => before.isNone
  | .textEnd => after.isNone
  | .lineStart => before.isNone || before == some '\n'
  | .lineEnd => after.isNone || after == some '\n'
  | .crlfLineStart =>
    before.isNone || before == some '\n' || (before == some '\r' && after != some '\n')
  | .crlfLineEnd =>
    after.isNone || after == some '\r' || (after == some '\n' && before != some '\r')
  | .wordBoundary ascii => isWord? ascii before != isWord? ascii after
  | .noWordBoundary ascii => isWord? ascii before == isWord? ascii after
  | .wordStart ascii => !isWord? ascii before && isWord? ascii after
  | .wordEnd ascii => isWord? ascii before && !isWord? ascii after
  | .wordStartHalf ascii => !isWord? ascii before
  | .wordEndHalf ascii => !isWord? ascii after

/-- Whether the expression may match without taking a character. -/
def Regex.canBeEmpty : Regex → Bool
  | .empty => true
  | .set _ => false
  | .look _ => true
  | .group r => r.canBeEmpty
  | .sequence a b => a.canBeEmpty && b.canBeEmpty
  | .alternative a b => a.canBeEmpty || b.canBeEmpty
  | .repetition r least _ _ => least = 0 || r.canBeEmpty

/-- Whether every match is empty. -/
def Regex.isNarrow : Regex → Bool
  | .empty => true
  | .set _ => false
  | .look _ => true
  | .group r => r.isNarrow
  | .sequence a b => a.isNarrow && b.isNarrow
  | .alternative a b => a.isNarrow && b.isNarrow
  | .repetition r _ most _ => most = some 0 || r.isNarrow

/-- Repeats an expression. More than one round of an expression that takes no character is no different
from one. -/
def Regex.repeated (r : Regex) (least : Nat) (most : Option Nat) (greedy : Bool) : Regex :=
  if r.isNarrow then .repetition r (min least 1) (some (min (most.getD 1) 1)) greedy
  else .repetition r least most greedy

end Logbook.Pattern
