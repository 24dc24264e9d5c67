import Logbook.Text.Basic
import Logbook.Text.Decimal
import Logbook.Time.Instant

namespace Logbook.Timestamp

open Decimal

/-- A year has four digits; one that needs a fifth, or lies before year 0, has a sign. -/
def renderYear (year : Int) : List Char :=
  if 0 ≤ year ∧ year ≤ 9999 then fixed 4 year.toNat
  else (if year < 0 then '-' else '+') :: padded 4 year.natAbs

def renderSeconds (t : Instant) : List Char :=
  let d := t.date
  renderYear d.year ++ '-' :: fixed 2 d.month ++ '-' :: fixed 2 d.day
    ++ 'T' :: fixed 2 t.hour ++ ':' :: fixed 2 t.minute ++ ':' :: fixed 2 t.second

def toSeconds (t : Instant) : String :=
  String.ofList (renderSeconds t ++ ['Z'])

def renderMicros (t : Instant) : List Char :=
  renderSeconds t ++ '.' :: fixed 6 (t.subsecond / 1000) ++ ['Z']

def toMicros (t : Instant) : String :=
  String.ofList (renderMicros t)

/-- The fields of a date and time of day as they were read. A second of 60 is a leap second. -/
structure Fields where
  date : Date
  hour : Nat
  minute : Nat
  second : Nat
  nanos : Nat

/-- The instant that the fields name in a zone `offset` seconds ahead of universal time. -/
def Fields.instant? (f : Fields) (offset : Int) : Option Instant :=
  if f.date.isValid && f.hour ≤ 23 && f.minute ≤ 59 && f.second ≤ 60 then
    let second := min f.second 59
    let nanos := f.nanos + if f.second = 60 then nanosPerSecond else 0
    let seconds := secondsPerDay * f.date.toEpochDay + (3600 * f.hour + 60 * f.minute + second : Nat)
    (Instant.of? seconds nanos).bind fun _ => Instant.of? (seconds - offset) nanos
  else none

def readChar (c : Char) : List Char → Option (List Char)
  | [] => none
  | x :: rest => if x = c then some rest else none

/-- Reads a fraction of a second if a point follows: up to nine digits count, further ones are
skipped, and at least one is needed. -/
def readFraction : List Char → Option (Nat × List Char)
  | '.' :: rest => do
    let (ds, rest) ← readDigits 1 9 rest
    some (value ds * Nat.pow 10 (9 - ds.length), rest.dropWhile Char.isDigit)
  | cs => some (0, cs)

/-- Reads a zone: the letter, or a sign, two digits of hours, a colon and two digits of minutes. The
minus sign may also be the mathematical one. -/
def readZone : List Char → Option (Int × List Char)
  | [] => none
  | sign :: rest =>
    if sign = 'Z' ∨ sign = 'z' then some (0, rest)
    else if sign = '+' ∨ sign = '-' ∨ sign = '\u2212' then do
      let (hours, rest) ← readNumber 2 2 rest
      let rest ← readChar ':' rest
      let (minutes, rest) ← readNumber 2 2 rest
      if hours ≤ 23 ∧ minutes ≤ 59 then
        let offset : Int := (3600 * hours + 60 * minutes : Nat)
        some (if sign = '+' then offset else -offset, rest)
      else none
    else none

/-- Reads a full timestamp: every field with its full count of digits, and a zone. -/
def parseZoned? (cs : List Char) : Option Instant := do
  let (year, cs) ← readNumber 4 4 cs
  let cs ← readChar '-' cs
  let (month, cs) ← readNumber 2 2 cs
  let cs ← readChar '-' cs
  let (day, cs) ← readNumber 2 2 cs
  let cs ← (readChar 'T' cs <|> readChar 't' cs <|> readChar ' ' cs)
  let (hour, cs) ← readNumber 2 2 cs
  let cs ← readChar ':' cs
  let (minute, cs) ← readNumber 2 2 cs
  let cs ← readChar ':' cs
  let (second, cs) ← readNumber 2 2 cs
  let (nanos, cs) ← readFraction cs
  let (offset, cs) ← readZone cs
  if cs.isEmpty then
    Fields.instant? { date := { year, month, day }, hour, minute, second, nanos } offset
  else none

/-- Reads a year: up to four digits, or any number of them after a sign. -/
def readYear : List Char → Option (Int × List Char)
  | '-' :: rest => (readNumber 1 rest.length rest).map fun (n, rest) => (-(n : Int), rest)
  | '+' :: rest => (readNumber 1 rest.length rest).map fun (n, rest) => ((n : Int), rest)
  | cs => (readNumber 1 4 cs).map fun (n, rest) => ((n : Int), rest)

/-- Reads a field of one or two digits, after any blanks. -/
def readField (cs : List Char) : Option (Nat × List Char) :=
  readNumber 1 2 (Text.trimStart cs)

/-- Reads a timestamp without a zone, taken as universal time. Fields may have blanks in front and
fewer digits. -/
def parseUnzoned? (cs : List Char) : Option Instant := do
  let (year, cs) ← readYear (Text.trimStart cs)
  let cs ← readChar '-' cs
  let (month, cs) ← readField cs
  let cs ← readChar '-' cs
  let (day, cs) ← readField cs
  let cs ← readChar 'T' cs
  let (hour, cs) ← readField cs
  let cs ← readChar ':' cs
  let (minute, cs) ← readField cs
  let cs ← readChar ':' cs
  let (second, cs) ← readField cs
  let (nanos, cs) ← readFraction cs
  if cs.isEmpty then
    Fields.instant? { date := { year, month, day }, hour, minute, second, nanos } 0
  else none

def parse? (cs : List Char) : Option Instant :=
  parseZoned? cs <|> parseUnzoned? cs

end Logbook.Timestamp
