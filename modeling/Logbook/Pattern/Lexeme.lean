import Logbook.Pattern.Expr
import Logbook.Pattern.Fault
import Logbook.Text.Basic
import Logbook.Text.Decimal
import Logbook.Unicode.Class

namespace Logbook.Pattern

/-- Drops blanks and comments, which run from a number sign to the end of the line. -/
def skipBlanks (inComment : Bool) : List Char → List Char
  | [] => []
  | c :: cs =>
    if inComment then skipBlanks (c != '\n') cs
    else if Text.isBlank c then skipBlanks false cs
    else if c = '#' then skipBlanks true cs
    else c :: cs

def skip (ignoreBlanks : Bool) (cs : List Char) : List Char :=
  if ignoreBlanks then skipBlanks false cs else cs

/-- An escape or a single character. -/
inductive Atom where
  | literal (c : Char) (isByte : Bool)
  | assertion (a : Assertion)
  | any
  | property (name : ClassName) (negated : Bool)
  | shorthand (kind : Shorthand) (negated : Bool)

/-- The characters with a meaning of their own. -/
def isMeta (c : Char) : Bool :=
  "\\.+*?()|[]\x7b\x7d^$#&-~".toList.contains c

/-- Whether a backslash before the character makes it stand for itself. -/
def isEscapable (c : Char) : Bool :=
  isMeta c || (c.toNat < 0x80 && !c.isAlphanum && c != '<' && c != '>')

def isHexDigit (c : Char) : Bool :=
  c.isDigit || ('a' ≤ c && c ≤ 'f') || ('A' ≤ c && c ≤ 'F')

def hexValue (ds : List Char) : Nat :=
  ds.foldl (fun n c => 16 * n + if c.isDigit then c.toNat - 48 else c.toLower.toNat - 87) 0

def charOfHex (ds : List Char) : Except Fault Char :=
  let n := hexValue ds
  if n.isValidChar then .ok (Char.ofNat n) else .error .hexNoCharacter

def readHexDigits (ignoreBlanks : Bool) : Nat → List Char → Except Fault (List Char × List Char)
  | 0, cs => .ok ([], cs)
  | _ + 1, [] => .error .escapeUnfinished
  | n + 1, c :: cs =>
    if isHexDigit c then do
      let (ds, rest) ← readHexDigits ignoreBlanks n (skip ignoreBlanks cs)
      .ok (c :: ds, rest)
    else .error .hexDigit

/-- Reads up to a closing brace, past blanks where they are ignored. The first argument is at least
the length of the text. -/
def readBraced (ignoreBlanks : Bool) : Nat → List Char → Except Fault (List Char × List Char)
  | 0, _ => .error .escapeUnfinished
  | fuel + 1, cs =>
    match skip ignoreBlanks cs with
    | [] => .error .escapeUnfinished
    | c :: rest =>
      if c = '\x7d' then .ok ([], rest)
      else do
        let (inner, rest) ← readBraced ignoreBlanks fuel rest
        .ok (c :: inner, rest)

/-- Reads hexadecimal digits in braces. A character that is no digit is found before a missing
brace. -/
def readHexBraced (ignoreBlanks : Bool) : Nat → List Char → Except Fault (List Char × List Char)
  | 0, _ => .error .escapeUnfinished
  | fuel + 1, cs =>
    match skip ignoreBlanks cs with
    | [] => .error .escapeUnfinished
    | c :: rest =>
      if c = '\x7d' then .ok ([], skip ignoreBlanks rest)
      else if isHexDigit c then do
        let (ds, rest) ← readHexBraced ignoreBlanks fuel rest
        .ok (c :: ds, rest)
      else .error .hexDigit

/-- Reads a character given by its number, after the letter that announces it. Two digits without
braces write a byte. -/
def readHex (ignoreBlanks : Bool) (digits : Nat) (cs : List Char) : Except Fault (Atom × List Char) := do
  match skip ignoreBlanks cs with
  | [] => .error .escapeUnfinished
  | c :: rest =>
    if c = '\x7b' then
      let (ds, rest) ← readHexBraced ignoreBlanks (rest.length + 1) rest
      if ds.isEmpty then .error .hexEmpty else .ok (.literal (← charOfHex ds) false, rest)
    else
      let (ds, rest) ← readHexDigits ignoreBlanks digits (c :: rest)
      .ok (.literal (← charOfHex ds) (digits = 2), rest)

/-- Cuts a text at the first occurrence of `mark`. -/
def cutAt (mark : List Char) : List Char → Option (List Char × List Char)
  | [] => none
  | c :: cs =>
    if mark.isPrefixOf (c :: cs) then some ([], (c :: cs).drop mark.length)
    else (cutAt mark cs).map fun (a, b) => (c :: a, b)

/-- The class that a text in braces names, and whether its operator negates it. -/
def className (inner : List Char) : ClassName × Bool :=
  match cutAt ['!', '='] inner with
  | some (p, v) => (.valued p v, true)
  | none =>
    match cutAt [':'] inner with
    | some (p, v) => (.valued p v, false)
    | none =>
      match cutAt ['='] inner with
      | some (p, v) => (.valued p v, false)
      | none => (.named inner, false)

/-- Reads the name of a class by property, after the letter that announces it. -/
def readProperty (ignoreBlanks negated : Bool) (cs : List Char) : Except Fault (Atom × List Char) := do
  match skip ignoreBlanks cs with
  | [] => .error .escapeUnfinished
  | c :: rest =>
    if c = '\x7b' then
      let (inner, rest) ← readBraced ignoreBlanks (rest.length + 1) rest
      let (name, flipped) := className inner
      .ok (.property name (negated != flipped), rest)
    else if c = '\\' then .error .classNameInvalid
    else .ok (.property (.named [c]) negated, skip ignoreBlanks rest)

/-- The characters of the names of word boundaries. -/
def isBoundaryName (c : Char) : Bool :=
  c.isAlpha || c = '-'

def readBoundaryName (ignoreBlanks : Bool) : Nat → List Char → List Char × List Char
  | 0, cs => ([], cs)
  | _ + 1, [] => ([], [])
  | fuel + 1, c :: cs =>
    if isBoundaryName c then
      let (name, rest) := readBoundaryName ignoreBlanks fuel (skip ignoreBlanks cs)
      (c :: name, rest)
    else ([], c :: cs)

/-- Reads what follows the letter of a word boundary. A brace begins the name of a special boundary,
unless what follows it shows that it is a count. -/
def readBoundary (ignoreBlanks : Bool) (cs : List Char) : Except Fault (Atom × List Char) :=
  match cs with
  | '\x7b' :: inner =>
    match skip ignoreBlanks inner with
    | [] => .error .boundaryUnfinished
    | c :: rest =>
      if isBoundaryName c then
        match readBoundaryName ignoreBlanks (rest.length + 1) (c :: rest) with
        | (name, '\x7d' :: rest) =>
          match String.ofList name with
          | "start" => .ok (.assertion .wordStart, rest)
          | "end" => .ok (.assertion .wordEnd, rest)
          | "start-half" => .ok (.assertion .wordStartHalf, rest)
          | "end-half" => .ok (.assertion .wordEndHalf, rest)
          | _ => .error .boundaryUnknown
        | _ => .error .boundaryUnclosed
      else .ok (.assertion .wordBoundary, cs)
  | _ => .ok (.assertion .wordBoundary, cs)

def readEscape (ignoreBlanks : Bool) : List Char → Except Fault (Atom × List Char)
  | [] => .error .escapeUnfinished
  | c :: cs =>
    if c.isDigit then .error .backreference
    else if isEscapable c then .ok (.literal c false, cs)
    else
      match c with
      | 'x' => readHex ignoreBlanks 2 cs
      | 'u' => readHex ignoreBlanks 4 cs
      | 'U' => readHex ignoreBlanks 8 cs
      | 'p' => readProperty ignoreBlanks false cs
      | 'P' => readProperty ignoreBlanks true cs
      | 'd' => .ok (.shorthand .digit false, cs)
      | 'D' => .ok (.shorthand .digit true, cs)
      | 's' => .ok (.shorthand .space false, cs)
      | 'S' => .ok (.shorthand .space true, cs)
      | 'w' => .ok (.shorthand .word false, cs)
      | 'W' => .ok (.shorthand .word true, cs)
      | 'a' => .ok (.literal '\x07' false, cs)
      | 'f' => .ok (.literal '\x0c' false, cs)
      | 't' => .ok (.literal '\t' false, cs)
      | 'n' => .ok (.literal '\n' false, cs)
      | 'r' => .ok (.literal '\r' false, cs)
      | 'v' => .ok (.literal '\x0b' false, cs)
      | 'A' => .ok (.assertion .textStart, cs)
      | 'z' => .ok (.assertion .textEnd, cs)
      | 'b' => readBoundary ignoreBlanks cs
      | 'B' => .ok (.assertion .noWordBoundary, cs)
      | '<' => .ok (.assertion .wordStart, cs)
      | '>' => .ok (.assertion .wordEnd, cs)
      | _ => .error .escapeUnknown

/-- Reads a character or an escape, and not the first character of anything larger. -/
def readAtom (ignoreBlanks : Bool) : List Char → Except Fault (Atom × List Char)
  | [] => .error .escapeUnfinished
  | '\\' :: cs => readEscape ignoreBlanks cs
  | '.' :: cs => .ok (.any, cs)
  | '^' :: cs => .ok (.assertion .caret, cs)
  | '$' :: cs => .ok (.assertion .dollar, cs)
  | c :: cs => .ok (.literal c false, cs)

def readCountDigits (ignoreBlanks : Bool) : Nat → List Char → List Char × List Char
  | 0, cs => ([], cs)
  | _ + 1, [] => ([], [])
  | fuel + 1, c :: cs =>
    if c.isDigit then
      let (ds, rest) := readCountDigits ignoreBlanks fuel (skip ignoreBlanks cs)
      (c :: ds, rest)
    else ([], c :: cs)

def skipAroundCount (ignoreBlanks : Bool) (cs : List Char) : List Char :=
  match cs with
  | c :: _ =>
    if Text.isBlank c then (if ignoreBlanks then skipBlanks false cs else Text.trimStart cs) else cs
  | [] => []

/-- The first count that a repetition cannot have. -/
def countLimit : Nat := 0x100000000

/-- Reads a count, with blanks around it: the count, or what is wrong with it, and the text after
it. -/
def readCount (ignoreBlanks : Bool) (cs : List Char) : Except Fault Nat × List Char :=
  let (ds, rest) := readCountDigits ignoreBlanks (cs.length + 1) (Text.trimStart cs)
  let rest := skipAroundCount ignoreBlanks rest
  if ds.isEmpty then (.error .repetitionCountMissing, rest)
  else if Decimal.value ds < countLimit then (.ok (Decimal.value ds), rest)
  else (.error .decimalTooLarge, rest)

/-- Reads counts in braces, after the opening one: the least and the greatest count, and whether as
much as possible is taken. -/
def readCounts (ignoreBlanks : Bool) (cs : List Char) : Except Fault ((Nat × Option Nat × Bool) × List Char) := do
  match skip ignoreBlanks cs with
  | [] => .error .repetitionUnclosed
  | cs =>
    let (first, rest) := readCount ignoreBlanks cs
    let (least, most, rest) ← match rest with
      | [] => .error .repetitionUnclosed
      | ',' :: rest =>
        match skip ignoreBlanks rest with
        | [] => .error .repetitionUnclosed
        | '\x7d' :: rest => do .ok (← first, none, '\x7d' :: rest)
        | rest => do
          let least ← first
          let (second, rest) := readCount ignoreBlanks rest
          .ok (least, some (← second), rest)
      | rest => do
        let count ← first
        .ok (count, some count, rest)
    match rest with
    | '\x7d' :: rest =>
      let (greedy, rest) := match skip ignoreBlanks rest with
        | '?' :: rest => (false, rest)
        | rest => (true, rest)
      match most with
      | some m => if m < least then .error .repetitionOrder else .ok ((least, most, greedy), rest)
      | none => .ok ((least, most, greedy), rest)
    | _ => .error .repetitionUnclosed

def flag? : Char → Option Flag
  | 'i' => some .caseInsensitive
  | 'm' => some .multiLine
  | 's' => some .dotMatchesNewline
  | 'U' => some .swapGreed
  | 'u' => some .unicode
  | 'R' => some .crlf
  | 'x' => some .ignoreBlanks
  | _ => none

/-- Reads flags up to a colon or a closing parenthesis. `negated` says whether a minus sign has been
read, `dangling` whether it was the last thing read. -/
def readFlags (negated dangling : Bool) (settings : List FlagSetting) :
    List Char → Except Fault ((List FlagSetting × Bool) × List Char)
  | [] => .error .flagUnfinished
  | c :: cs =>
    if c = ':' || c = ')' then
      if dangling then .error .flagDanglingNegation else .ok ((settings, negated), c :: cs)
    else if c = '-' then
      if negated then .error .flagNegatedTwice
      else if cs.isEmpty then .error .flagUnfinished
      else readFlags true true settings cs
    else
      match flag? c with
      | none => .error .flagUnknown
      | some f =>
        if (flagState? f settings).isSome then .error .flagDuplicate
        else if cs.isEmpty then .error .flagUnfinished
        else readFlags negated false (settings ++ [(f, !negated)]) cs

/-- Whether a character may stand in the name of a group. -/
def isNameChar (first : Bool) (c : Char) : Bool :=
  if first then c = '_' || Unicode.alphabetic.contains c
  else c = '_' || c = '.' || c = '[' || c = ']' || Unicode.alphanumeric.contains c

def readGroupName (first : Bool) : List Char → Except Fault (List Char × List Char)
  | [] => .error .groupNameUnfinished
  | c :: cs =>
    if c = '>' then .ok ([], cs)
    else if isNameChar first c then do
      let (name, rest) ← readGroupName false cs
      .ok (c :: name, rest)
    else .error .groupNameCharacter

end Logbook.Pattern
