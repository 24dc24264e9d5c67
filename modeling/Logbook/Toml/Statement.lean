import Logbook.Toml.Scalar
import Logbook.Toml.Tree

namespace Logbook.Toml

/-- The characters of a name without quotes. -/
def isBare (c : Char) : Bool :=
  c.isAlphanum || c == '_' || c == '-'

/-- The nesting of arrays and inline tables, and the number of names in a key, stay below this. -/
def maxDepth : Nat := 80

/-- Reads one name of a key: bare, or quoted on one line. -/
def readName : List Char → Option (String × List Char)
  | '"' :: rest => (readBasic rest).map fun (cs, rest) => (String.ofList cs, rest)
  | '\x27' :: rest => (readLiteral rest).map fun (cs, rest) => (String.ofList cs, rest)
  | cs =>
    let name := cs.takeWhile isBare
    if name.isEmpty then none else some (String.ofList name, cs.dropWhile isBare)

/-- Reads a key: names with points between them. The first argument is more than the length of the
text. -/
def readNames : Nat → List Char → Option (List String × List Char)
  | 0, _ => none
  | fuel + 1, cs => do
    let (name, rest) ← readName (skipSpace cs)
    match skipSpace rest with
    | '.' :: rest => (readNames fuel rest).map fun (names, rest) => (name :: names, rest)
    | rest => some ([name], rest)

def readKey (cs : List Char) : Option (List String × List Char) := do
  let (names, rest) ← readNames (cs.length + 1) cs
  if names.length < maxDepth then some (names, rest) else none

def skipComment : List Char → List Char
  | '#' :: rest => rest.dropWhile isPlain
  | cs => cs

/-- Reads the rest of a line: blanks, a comment, and the line end unless the text ends here. -/
def readLineEnd (cs : List Char) : Option (List Char) :=
  match skipComment (skipSpace cs) with
  | [] => some []
  | rest => afterNewline? rest

/-- Drops blanks, comments and line ends. A comment ends where its line does. The first argument is
more than the length of the text. -/
def skipLines : Nat → List Char → List Char
  | 0, cs => cs
  | fuel + 1, cs =>
    let cs := skipSpace cs
    match afterNewline? (skipComment cs) with
    | some rest => skipLines fuel rest
    | none => cs

mutual

/-- Reads a value inside `depth` arrays and inline tables. The first argument is more than the length
of the text. -/
def readValue : Nat → Nat → List Char → Option (Value × List Char)
  | 0, _, _ => none
  | fuel + 1, depth, cs =>
    match cs with
    | '"' :: _ | '\x27' :: _ =>
      (readQuoted cs).map fun (cs, rest) => (.string (String.ofList cs), rest)
    | '[' :: rest =>
      if maxDepth ≤ depth + 1 then none
      else (readItems fuel (depth + 1) rest).map fun (items, rest) => (.array items, rest)
    | '\x7b' :: rest =>
      if maxDepth ≤ depth + 1 then none
      else do
        let (entries, rest) ← readInline fuel (depth + 1) (skipSpace rest)
        let table ← Tree.ofEntries? entries
        some (.table (Tree.toTable table), rest)
    | _ => readScalar cs

/-- Reads the items of an array up to its closing bracket. Items may stand on lines of their own, and
a comma may follow the last one. -/
def readItems : Nat → Nat → List Char → Option (List Value × List Char)
  | 0, _, _ => none
  | fuel + 1, depth, cs =>
    match skipLines (cs.length + 1) cs with
    | ']' :: rest => some ([], rest)
    | cs => do
      let (item, rest) ← readValue fuel depth cs
      match skipLines (rest.length + 1) rest with
      | ']' :: rest => some ([item], rest)
      | ',' :: rest => (readItems fuel depth rest).map fun (items, rest) => (item :: items, rest)
      | _ => none

/-- Reads the entries of an inline table, after the blanks that follow its opening brace, up to its
closing brace. -/
def readInline : Nat → Nat → List Char → Option (List (List String × Value) × List Char)
  | 0, _, _ => none
  | _ + 1, _, '\x7d' :: rest => some ([], rest)
  | fuel + 1, depth, cs => readEntries fuel depth cs

/-- Reads at least one entry, and all up to the closing brace. -/
def readEntries : Nat → Nat → List Char → Option (List (List String × Value) × List Char)
  | 0, _, _ => none
  | fuel + 1, depth, cs => do
    let (key, rest) ← readKey cs
    let '=' :: rest := rest | none
    let (value, rest) ← readValue fuel depth (skipSpace rest)
    match skipSpace rest with
    | '\x7d' :: rest => some ([(key, value)], rest)
    | ',' :: rest =>
      (readEntries fuel depth rest).map fun (entries, rest) => ((key, value) :: entries, rest)
    | _ => none

end

inductive Statement where
  /-- A value under a key in the table of the last header. -/
  | entry (key : List String) (value : Value)
  /-- A header: the entries that follow belong to the table with this key. -/
  | header (key : List String)
  /-- A header: the entries that follow belong to a new table at the end of the array with this key. -/
  | arrayHeader (key : List String)

def readStatement (cs : List Char) : Option (Statement × List Char) := do
  let (statement, rest) ← match cs with
    | '[' :: '[' :: rest => do
      let (key, rest) ← readKey rest
      let ']' :: ']' :: rest := rest | none
      some (Statement.arrayHeader key, rest)
    | '[' :: rest => do
      let (key, rest) ← readKey rest
      let ']' :: rest := rest | none
      some (Statement.header key, rest)
    | _ => do
      let (key, rest) ← readKey cs
      let '=' :: rest := rest | none
      let (value, rest) ← readValue (rest.length + 1) 0 (skipSpace rest)
      some (Statement.entry key value, rest)
  let rest ← readLineEnd rest
  some (statement, rest)

/-- Reads statements up to the end of the text, past lines that hold none. The first argument is more
than the length of the text. -/
def readStatements : Nat → List Char → Option (List Statement)
  | 0, _ => none
  | fuel + 1, cs =>
    match readLineEnd cs with
    | some [] => some []
    | some rest => readStatements fuel rest
    | none => do
      let (statement, rest) ← readStatement (skipSpace cs)
      (readStatements fuel rest).map (statement :: ·)

end Logbook.Toml
