import Logbook.Terminal.Key
import Logbook.Terminal.Line
import Logbook.Text.Basic

namespace Logbook

/-- Completions on offer: the line as it was typed, what its start can be completed to, and how many of
the completions have been passed. -/
structure Offer where
  typed : EditLine
  choices : List (List Char)
  passed : Nat
deriving Repr, DecidableEq

namespace Offer

/-- The line as it is shown: with a completion, or after the last one as it was typed. -/
def shown (o : Offer) : EditLine :=
  match o.choices[o.passed]? with
  | some choice => o.typed.replaceStart choice
  | none => o.typed

/-- The next completion, where the line as it was typed comes after the last one. -/
def next (o : Offer) : Offer :=
  { o with passed := (o.passed + 1) % (o.choices.length + 1) }

end Offer

/-- What the editor holds between two keys. -/
structure Editor where
  line : EditLine := .empty
  /-- The lines that can be called back, oldest first. -/
  earlier : List String
  /-- How many of these are older than the line that is shown. -/
  position : Nat
  /-- The new line, while an earlier one is shown. -/
  draft : EditLine := .empty
  offer : Option Offer := none
deriving Repr, DecidableEq

inductive Reading where
  | line (text : String)
  | interrupted
  | ended
deriving Repr, DecidableEq

namespace Editor

/-- How many lines can be called back. -/
def capacity : Nat := 100

/-- Whether a line can be called back: it starts with no blank, and it is not the last such line
again. -/
def isKept (earlier : List String) (line : String) : Bool :=
  match line.toList with
  | [] => false
  | c :: _ => !Text.isBlank c && earlier.getLast? != some line

def remember (earlier : List String) (line : String) : List String :=
  if isKept earlier line then
    let all := earlier ++ [line]
    all.drop (all.length - capacity)
  else earlier

def start (earlier : List String) : Editor :=
  { earlier, position := earlier.length }

def ofHistory (lines : List String) : Editor :=
  start (lines.foldl remember [])

/-- Shows the earlier line before the one that is shown. -/
def older (e : Editor) : Editor :=
  if e.position = 0 then e
  else
    let draft := if e.position = e.earlier.length then e.line else e.draft
    let line := (e.earlier[e.position - 1]?).getD ""
    { e with draft, position := e.position - 1, line := .ofText line.toList }

/-- Shows the earlier line after the one that is shown, or the new line after the last one. -/
def newer (e : Editor) : Editor :=
  if e.position = e.earlier.length then e
  else match e.earlier[e.position + 1]? with
    | some line => { e with position := e.position + 1, line := .ofText line.toList }
    | none => { e with position := e.earlier.length, line := e.draft }

/-- Offers the first completion, or the next one if some are on offer. -/
def complete (choices : List Char → List (List Char)) (e : Editor) : Editor :=
  let offer := match e.offer with
    | some o => o.next
    | none => { typed := e.line, choices := choices e.line.before.reverse, passed := 0 }
  if offer.choices.isEmpty then e else { e with offer := some offer, line := offer.shown }

def edit (f : EditLine → EditLine) (e : Editor) : Editor :=
  { e with line := f e.line }

/-- Ends the line: the editor at the next line, and the line as it has been read. -/
def accept (e : Editor) : Editor × Reading :=
  let line := String.ofList e.line.text
  (start (remember e.earlier line), .line line)

/-- What a key does. Any key but the one that asks for completions accepts the one on offer. -/
def press (choices : List Char → List (List Char)) (e : Editor) (k : Key) : Editor × Option Reading :=
  let settled := { e with offer := none }
  match k with
  | .tab => (e.complete choices, none)
  | .char c => (settled.edit (·.insert c), none)
  | .enter => let (e, reading) := settled.accept; (e, some reading)
  | .backspace => (settled.edit (·.eraseBack), none)
  | .eraseLine => (settled.edit (·.eraseStart), none)
  | .interrupt => (start e.earlier, some .interrupted)
  | .endOfInput =>
    if e.line.text.isEmpty then (start e.earlier, some .ended)
    else (settled.edit (·.eraseOn), none)
  | .older => (settled.older, none)
  | .newer => (settled.newer, none)
  | .left => (settled.edit (·.moveBack), none)
  | .right => (settled.edit (·.moveOn), none)
  | .lineStart => (settled.edit (·.moveToStart), none)
  | .lineEnd => (settled.edit (·.moveToEnd), none)

end Editor

end Logbook
