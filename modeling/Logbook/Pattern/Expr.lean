namespace Logbook.Pattern

inductive Flag where
  | caseInsensitive
  | multiLine
  | dotMatchesNewline
  | swapGreed
  | unicode
  | crlf
  | ignoreBlanks
deriving Repr, DecidableEq

abbrev FlagSetting : Type := Flag × Bool

/-- A condition on the place between two characters, as it is written. -/
inductive Assertion where
  | caret
  | dollar
  | textStart
  | textEnd
  | wordBoundary
  | noWordBoundary
  | wordStart
  | wordEnd
  | wordStartHalf
  | wordEndHalf
deriving Repr, DecidableEq

inductive Shorthand where
  | digit
  | space
  | word
deriving Repr, DecidableEq

/-- A class given by a property: its name alone, or with a value. -/
inductive ClassName where
  | named (name : List Char)
  | valued (property value : List Char)
deriving Repr

/-- What a class in brackets is made of. A literal remembers whether it was written as one byte. -/
inductive ClassExpr where
  | empty
  | literal (c : Char) (isByte : Bool)
  | range (low high : Char) (lowIsByte highIsByte : Bool)
  | ascii (ranges : List (Nat × Nat)) (negated : Bool)
  | property (name : ClassName) (negated : Bool)
  | shorthand (kind : Shorthand) (negated : Bool)
  | bracketed (negated : Bool) (body : ClassExpr)
  | union (a b : ClassExpr)
  | intersection (a b : ClassExpr)
  | difference (a b : ClassExpr)
  | symmetricDifference (a b : ClassExpr)
deriving Repr

inductive Expr where
  | empty
  | literal (c : Char) (isByte : Bool)
  | any
  | assertion (a : Assertion)
  | property (name : ClassName) (negated : Bool)
  | shorthand (kind : Shorthand) (negated : Bool)
  | bracketed (negated : Bool) (body : ClassExpr)
  | repetition (e : Expr) (least : Nat) (most : Option Nat) (greedy : Bool)
  | group (capturing : Bool) (flags : List FlagSetting) (e : Expr)
  | setFlags (flags : List FlagSetting)
  | sequence (a b : Expr)
  | alternative (a b : Expr)
deriving Repr

def flagState? (flag : Flag) (settings : List FlagSetting) : Option Bool :=
  (settings.find? fun s => s.1 = flag).map (·.2)

def asciiClass? : List Char → Option (List (Nat × Nat))
  | ['a', 'l', 'n', 'u', 'm'] => some [(0x30, 0x39), (0x41, 0x5A), (0x61, 0x7A)]
  | ['a', 'l', 'p', 'h', 'a'] => some [(0x41, 0x5A), (0x61, 0x7A)]
  | ['a', 's', 'c', 'i', 'i'] => some [(0, 0x7F)]
  | ['b', 'l', 'a', 'n', 'k'] => some [(0x09, 0x09), (0x20, 0x20)]
  | ['c', 'n', 't', 'r', 'l'] => some [(0, 0x1F), (0x7F, 0x7F)]
  | ['d', 'i', 'g', 'i', 't'] => some [(0x30, 0x39)]
  | ['g', 'r', 'a', 'p', 'h'] => some [(0x21, 0x7E)]
  | ['l', 'o', 'w', 'e', 'r'] => some [(0x61, 0x7A)]
  | ['p', 'r', 'i', 'n', 't'] => some [(0x20, 0x7E)]
  | ['p', 'u', 'n', 'c', 't'] => some [(0x21, 0x2F), (0x3A, 0x40), (0x5B, 0x60), (0x7B, 0x7E)]
  | ['s', 'p', 'a', 'c', 'e'] => some [(0x09, 0x0D), (0x20, 0x20)]
  | ['u', 'p', 'p', 'e', 'r'] => some [(0x41, 0x5A)]
  | ['w', 'o', 'r', 'd'] => some [(0x30, 0x39), (0x41, 0x5A), (0x5F, 0x5F), (0x61, 0x7A)]
  | ['x', 'd', 'i', 'g', 'i', 't'] => some [(0x30, 0x39), (0x41, 0x46), (0x61, 0x66)]
  | _ => none

end Logbook.Pattern
