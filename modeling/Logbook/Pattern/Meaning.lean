import Logbook.Pattern.Expr
import Logbook.Pattern.Fault
import Logbook.Pattern.Regex
import Logbook.Unicode.Case

namespace Logbook.Pattern

structure Flags where
  caseInsensitive : Bool := false
  multiLine : Bool := false
  dotMatchesNewline : Bool := false
  swapGreed : Bool := false
  unicode : Bool := true
  crlf : Bool := false

def Flags.set (f : Flags) : FlagSetting → Flags
  | (.caseInsensitive, on) => { f with caseInsensitive := on }
  | (.multiLine, on) => { f with multiLine := on }
  | (.dotMatchesNewline, on) => { f with dotMatchesNewline := on }
  | (.swapGreed, on) => { f with swapGreed := on }
  | (.unicode, on) => { f with unicode := on }
  | (.crlf, on) => { f with crlf := on }
  | (.ignoreBlanks, _) => f

def Flags.setAll (f : Flags) (settings : List FlagSetting) : Flags :=
  settings.foldl Flags.set f

/-- A set of bytes together with the other case of its ASCII letters. -/
def closeUnderAsciiCase (s : CharSet) : CharSet :=
  let variants := (List.range 26).flatMap fun i =>
    let upper := 0x41 + i
    let lower := 0x61 + i
    if s.containsNat upper || s.containsNat lower then [(upper, upper), (lower, lower)] else []
  CharSet.ofRanges (s.ranges ++ variants)

def Flags.foldCase (f : Flags) (s : CharSet) : CharSet :=
  if f.caseInsensitive then if f.unicode then Unicode.closeUnderCase s else closeUnderAsciiCase s
  else s

/-- The complement of a class that is negated. Over bytes it may not reach beyond ASCII, since what it
would match is no text. -/
def Flags.negate (f : Flags) (negated : Bool) (s : CharSet) : Except Fault CharSet :=
  if f.unicode then .ok (if negated then s.complement else s)
  else
    let s := if negated then s.complement.inter (CharSet.range 0 0xFF) else s
    if s.isAscii then .ok s else .error .matchesInvalidText

def Flags.property (f : Flags) (name : ClassName) (negated : Bool) : Except Fault CharSet :=
  if !f.unicode then .error .notAllowedInBytes
  else
    let found := match name with
      | .named n => Unicode.named n
      | .valued p v => Unicode.valued p v
    match found with
    | .ok s => f.negate negated (f.foldCase s)
    | .error .property => .error .propertyUnknown
    | .error .value => .error .propertyValueUnknown

def Flags.shorthand (f : Flags) (kind : Shorthand) (negated : Bool) : Except Fault CharSet :=
  let s := match kind, f.unicode with
    | .digit, true => Unicode.decimalDigits
    | .space, true => Unicode.whiteSpace
    | .word, true => Unicode.wordChars
    | .digit, false => CharSet.range 0x30 0x39
    | .space, false => CharSet.ofRanges [(0x09, 0x0D), (0x20, 0x20)]
    | .word, false => CharSet.ofRanges [(0x30, 0x39), (0x41, 0x5A), (0x5F, 0x5F), (0x61, 0x7A)]
  f.negate negated s

/-- The number of a literal in a class. Over bytes a character beyond ASCII has none. -/
def Flags.literalInClass (f : Flags) (c : Char) (isByte : Bool) : Except Fault Nat :=
  if f.unicode || isByte || c.toNat < 0x80 then .ok c.toNat else .error .notAllowedInBytes

/-- The set of a class in brackets. The other case is added before a class is negated, and to both sides
of an operator. -/
def Flags.classSet (f : Flags) : ClassExpr → Except Fault CharSet
  | .empty => .ok CharSet.empty
  | .literal c isByte => do .ok (CharSet.single (← f.literalInClass c isByte))
  | .range low high lowIsByte highIsByte => do
    let low ← f.literalInClass low lowIsByte
    let high ← f.literalInClass high highIsByte
    .ok (CharSet.range low high)
  | .ascii ranges negated => f.negate negated (f.foldCase ⟨ranges⟩)
  | .property name negated => f.property name negated
  | .shorthand kind negated => f.shorthand kind negated
  | .bracketed negated body => do f.negate negated (f.foldCase (← f.classSet body))
  | .union a b => do .ok ((← f.classSet a).union (← f.classSet b))
  | .intersection a b => do
    let s ← f.classSet a
    let t ← f.classSet b
    .ok ((f.foldCase s).inter (f.foldCase t))
  | .difference a b => do
    let s ← f.classSet a
    let t ← f.classSet b
    .ok ((f.foldCase s).diff (f.foldCase t))
  | .symmetricDifference a b => do
    let s ← f.classSet a
    let t ← f.classSet b
    .ok ((f.foldCase s).symmDiff (f.foldCase t))

def Flags.look (f : Flags) : Assertion → Look
  | .caret =>
    if !f.multiLine then .textStart else if f.crlf then .crlfLineStart else .lineStart
  | .dollar => if !f.multiLine then .textEnd else if f.crlf then .crlfLineEnd else .lineEnd
  | .textStart => .textStart
  | .textEnd => .textEnd
  | .wordBoundary => .wordBoundary !f.unicode
  | .noWordBoundary => .noWordBoundary !f.unicode
  | .wordStart => .wordStart !f.unicode
  | .wordEnd => .wordEnd !f.unicode
  | .wordStartHalf => .wordStartHalf !f.unicode
  | .wordEndHalf => .wordEndHalf !f.unicode

def Flags.dot (f : Flags) : Except Fault CharSet :=
  if !f.unicode then .error .matchesInvalidText
  else if f.dotMatchesNewline then .ok CharSet.all
  else if f.crlf then .ok (CharSet.ofRanges [(0x0A, 0x0A), (0x0D, 0x0D)]).complement
  else .ok (CharSet.single 0x0A).complement

def Flags.literal (f : Flags) (c : Char) (isByte : Bool) : Except Fault CharSet :=
  if !f.unicode && isByte && 0x80 ≤ c.toNat then .error .matchesInvalidText
  else if !f.unicode && 0x80 ≤ c.toNat then .ok (CharSet.single c.toNat)
  else .ok (f.foldCase (CharSet.single c.toNat))

/-- The regular expression of a pattern where `f` is in force, and the flags in force after it. -/
def Expr.regex (f : Flags) : Expr → Except Fault (Regex × Flags)
  | .empty => .ok (.empty, f)
  | .literal c isByte => do .ok (.set (← f.literal c isByte), f)
  | .any => do .ok (.set (← f.dot), f)
  | .assertion a => .ok (.look (f.look a), f)
  | .property name negated => do .ok (.set (← f.property name negated), f)
  | .shorthand kind negated => do .ok (.set (← f.shorthand kind negated), f)
  | .bracketed negated body => do .ok (.set (← f.classSet (.bracketed negated body)), f)
  | .repetition e least most greedy => do
    let (r, f) ← e.regex f
    .ok (r.repeated least most (greedy != f.swapGreed), f)
  | .group capturing flags e => do
    let (r, _) ← e.regex (f.setAll flags)
    .ok (if capturing then .group r else r, f)
  | .setFlags settings => .ok (.empty, f.setAll settings)
  | .sequence a b => do
    let (r, f) ← a.regex f
    let (s, f) ← b.regex f
    .ok (.sequence r s, f)
  | .alternative a b => do
    let (r, f) ← a.regex f
    let (s, f) ← b.regex f
    .ok (.alternative r s, f)

end Logbook.Pattern
