/-!
Text as bytes. `encode` writes UTF-8; `decodeLossy` reads any bytes and puts U+FFFD where they are not
UTF-8; `decode?` reads valid UTF-8 only.
-/

namespace Logbook.Utf8

def encode (s : String) : List UInt8 :=
  s.toList.flatMap String.utf8EncodeChar

/-- A character of which some bytes have been read: how many are owed, the range in which the next
one must lie, and the bits read so far. -/
structure Partial where
  owed : Nat
  low : UInt8
  high : UInt8
  bits : Nat

/-- What a byte between two characters is. -/
inductive Opening where
  | whole (c : Char)
  | starts (p : Partial)
  | stray

/-- Reads the first byte of a character. Overlong forms, surrogates and numbers above U+10FFFF are
kept out by the range of the second byte. -/
def opening (b : UInt8) : Opening :=
  if b < 0x80 then .whole (Char.ofNat b.toNat)
  else if b < 0xC2 then .stray
  else if b < 0xE0 then .starts ⟨1, 0x80, 0xBF, b.toNat - 0xC0⟩
  else if b < 0xF0 then
    .starts ⟨2, if b = 0xE0 then 0xA0 else 0x80, if b = 0xED then 0x9F else 0xBF, b.toNat - 0xE0⟩
  else if b < 0xF5 then
    .starts ⟨3, if b = 0xF0 then 0x90 else 0x80, if b = 0xF4 then 0x8F else 0xBF, b.toNat - 0xF0⟩
  else .stray

def replacement : Char := '\uFFFD'

/-- A reader between two bytes: the characters read, last first, the character begun, and whether
every byte so far was in place. -/
structure Reader where
  chars : List Char
  pending : Option Partial
  valid : Bool

def Reader.openWith (r : Reader) (b : UInt8) : Reader :=
  match opening b with
  | .whole c => { r with chars := c :: r.chars, pending := none }
  | .starts p => { r with pending := some p }
  | .stray => { chars := replacement :: r.chars, pending := none, valid := false }

/-- Reads one byte. A byte that cannot continue the character begun ends it as one replacement and
is read again as a first byte. -/
def Reader.next (r : Reader) (b : UInt8) : Reader :=
  match r.pending with
  | none => r.openWith b
  | some p =>
    if p.low ≤ b ∧ b ≤ p.high then
      let bits := p.bits * 64 + (b.toNat - 0x80)
      if p.owed ≤ 1 then { r with chars := Char.ofNat bits :: r.chars, pending := none }
      else { r with pending := some ⟨p.owed - 1, 0x80, 0xBF, bits⟩ }
    else
      { chars := replacement :: r.chars, pending := none, valid := false : Reader }.openWith b

/-- Ends the input, where a character begun is one replacement. -/
def Reader.finish (r : Reader) : Reader :=
  match r.pending with
  | none => r
  | some _ => { chars := replacement :: r.chars, pending := none, valid := false }

def read (bytes : List UInt8) : Reader :=
  (bytes.foldl Reader.next { chars := [], pending := none, valid := true }).finish

/-- The text of any bytes: each longest part of them that is the start of a character and is not
continued, and each stray byte, is read as one U+FFFD. -/
def decodeLossy (bytes : List UInt8) : String :=
  String.ofList (read bytes).chars.reverse

def decode? (bytes : List UInt8) : Option String :=
  let r := read bytes
  if r.valid then some (String.ofList r.chars.reverse) else none

end Logbook.Utf8
