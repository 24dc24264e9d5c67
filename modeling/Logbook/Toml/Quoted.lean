import Logbook.Json.Reader

namespace Logbook.Toml

/-- The blanks within a line. -/
def isSpace (c : Char) : Bool :=
  c == ' ' || c == '\t'

def skipSpace (cs : List Char) : List Char :=
  cs.dropWhile isSpace

/-- Whether a character may stand in a comment or a quoted text: a tab, or no control character. -/
def isPlain (c : Char) : Bool :=
  c == '\t' || (0x20 ≤ c.toNat && c.toNat != 0x7F)

/-- What follows a line end, if the text starts with one. -/
def afterNewline? : List Char → Option (List Char)
  | '\n' :: rest => some rest
  | '\r' :: '\n' :: rest => some rest
  | _ => none

def dropNewline (cs : List Char) : List Char :=
  (afterNewline? cs).getD cs

/-- The character with the number that hexadecimal digits stand for. Surrogates and numbers beyond
U+10FFFF are no characters. -/
def scalar? (hexDigits : List Char) : Option Char := do
  let values ← hexDigits.mapM Json.hexValue?
  let n := values.foldl (fun n d => 16 * n + d) 0
  if n.isValidChar then some (Char.ofNat n) else none

/-- The character that a backslash and a letter or mark stand for. -/
def escaped? : Char → Option Char
  | 'b' => some '\x08'
  | 't' => some '\t'
  | 'n' => some '\n'
  | 'f' => some '\x0c'
  | 'r' => some '\r'
  | '"' => some '"'
  | '\\' => some '\\'
  | _ => none

/-- Puts a character in front of a text that has been read. -/
def push (c : Char) (read : Option (List Char × List Char)) : Option (List Char × List Char) :=
  read.map fun (cs, rest) => (c :: cs, rest)

/-- Reads a text on one line in which backslashes escape, after its opening quote. -/
def readBasic : List Char → Option (List Char × List Char)
  | [] => none
  | '"' :: rest => some ([], rest)
  | '\\' :: 'u' :: a :: b :: c :: d :: rest => do
    let x ← scalar? [a, b, c, d]
    push x (readBasic rest)
  | '\\' :: 'U' :: a :: b :: c :: d :: e :: f :: g :: h :: rest => do
    let x ← scalar? [a, b, c, d, e, f, g, h]
    push x (readBasic rest)
  | '\\' :: c :: rest => do
    let x ← escaped? c
    push x (readBasic rest)
  | c :: rest => if isPlain c && c != '\\' then push c (readBasic rest) else none

/-- Whether only blanks stand before the end of the line. -/
def endsLine (cs : List Char) : Bool :=
  (afterNewline? (skipSpace cs)).isSome

/-- The end of a text on several lines, after its three closing marks: up to two more marks belong to
the text. -/
def closeMulti (mark : Char) (rest : List Char) : List Char × List Char :=
  let extra := (rest.take 2).takeWhile (· == mark)
  (extra, rest.drop extra.length)

/-- Reads a text on several lines in which backslashes escape. `skipping` holds after a backslash at
the end of a line: blanks and line ends up to the next other character are then left out. Every line
end is read as a line feed. -/
def readMultiBasic : (skipping : Bool) → List Char → Option (List Char × List Char)
  | _, [] => none
  | _, '"' :: '"' :: '"' :: rest => some (closeMulti '"' rest)
  | _, '\\' :: 'u' :: a :: b :: c :: d :: rest => do
    let x ← scalar? [a, b, c, d]
    push x (readMultiBasic false rest)
  | _, '\\' :: 'U' :: a :: b :: c :: d :: e :: f :: g :: h :: rest => do
    let x ← scalar? [a, b, c, d, e, f, g, h]
    push x (readMultiBasic false rest)
  | _, '\\' :: c :: rest =>
    match escaped? c with
    | some x => push x (readMultiBasic false rest)
    | none => if endsLine (c :: rest) then readMultiBasic true (c :: rest) else none
  | skipping, '\r' :: '\n' :: rest =>
    if skipping then readMultiBasic true rest else push '\n' (readMultiBasic false rest)
  | skipping, c :: rest =>
    if skipping && (isSpace c || c == '\n') then readMultiBasic true rest
    else if (isPlain c && c != '\\') || c == '\n' then push c (readMultiBasic false rest)
    else none

/-- Reads a text on one line in which every character stands for itself, after its opening
apostrophe. -/
def readLiteral : List Char → Option (List Char × List Char)
  | [] => none
  | '\x27' :: rest => some ([], rest)
  | c :: rest => if isPlain c then push c (readLiteral rest) else none

/-- Reads a text on several lines in which every character stands for itself. Every line end is read
as a line feed. -/
def readMultiLiteral : List Char → Option (List Char × List Char)
  | [] => none
  | '\x27' :: '\x27' :: '\x27' :: rest => some (closeMulti '\x27' rest)
  | '\r' :: '\n' :: rest => push '\n' (readMultiLiteral rest)
  | c :: rest => if isPlain c || c == '\n' then push c (readMultiLiteral rest) else none

/-- Reads a quoted text of any kind. A line end right after three opening marks is left out. -/
def readQuoted : List Char → Option (List Char × List Char)
  | '"' :: '"' :: '"' :: rest => readMultiBasic false (dropNewline rest)
  | '"' :: rest => readBasic rest
  | '\x27' :: '\x27' :: '\x27' :: rest => readMultiLiteral (dropNewline rest)
  | '\x27' :: rest => readLiteral rest
  | _ => none

end Logbook.Toml
