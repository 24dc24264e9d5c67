namespace Logbook

inductive Key where
  | char (c : Char)
  | enter
  | tab
  | backspace
  | eraseLine
  | interrupt
  /-- Ends the input if the line is empty, and else deletes what stands at the cursor. -/
  | endOfInput
  | older
  | newer
  | left
  | right
  | lineStart
  | lineEnd
deriving Repr, DecidableEq

namespace Key

/-- The key of a single character that a terminal sends, if the editor knows it. -/
def ofChar (c : Char) : Option Key :=
  if c = '\r' ∨ c = '\n' then some enter
  else if c = '\t' then some tab
  else if c = '\x7f' ∨ c = '\x08' then some backspace
  else if c = '\x15' then some eraseLine
  else if c = '\x03' then some interrupt
  else if c = '\x04' then some endOfInput
  else if c = '\x10' then some older
  else if c = '\x0e' then some newer
  else if c = '\x02' then some left
  else if c = '\x06' then some right
  else if c = '\x01' then some lineStart
  else if c = '\x05' then some lineEnd
  else if c.toNat < 0x20 then none
  else some (char c)

/-- The key that ends a sequence after an escape and a bracket, if the editor knows it. -/
def ofFinal (c : Char) : Option Key :=
  if c = 'A' then some older
  else if c = 'B' then some newer
  else if c = 'C' then some right
  else if c = 'D' then some left
  else if c = 'H' then some lineStart
  else if c = 'F' then some lineEnd
  else none

/-- The keys behind what a terminal sends. Sequences that the editor does not know are left out. -/
def ofSent : List Char → List Key
  | '\x1b' :: '[' :: c :: rest => (ofFinal c).toList ++ ofSent rest
  | c :: rest => (ofChar c).toList ++ ofSent rest
  | [] => []

end Key

end Logbook
