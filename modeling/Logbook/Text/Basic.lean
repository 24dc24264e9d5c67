namespace Logbook.Text

/-- The blank characters, which are those with Unicode's property `White_Space`. -/
def isBlank (c : Char) : Bool :=
  let n := c.toNat
  (9 ≤ n && n ≤ 13) || n == 0x20 || n == 0x85 || n == 0xA0 || n == 0x1680
    || (0x2000 ≤ n && n ≤ 0x200A) || n == 0x2028 || n == 0x2029 || n == 0x202F || n == 0x205F
    || n == 0x3000

/-- Drops the longest end of `xs` whose members all satisfy `p`. -/
def dropEndWhile {α : Type} (p : α → Bool) (xs : List α) : List α :=
  (xs.reverse.dropWhile p).reverse

def trimStart (cs : List Char) : List Char :=
  cs.dropWhile isBlank

def trimEnd (cs : List Char) : List Char :=
  dropEndWhile isBlank cs

def trim (cs : List Char) : List Char :=
  trimStart (trimEnd cs)

/-- Whether nothing is left after trimming. -/
def allBlank (cs : List Char) : Bool :=
  cs.all isBlank

/-- What stands before and after the first `x`, if there is one. -/
def splitFirst {α : Type} [BEq α] (x : α) (xs : List α) : Option (List α × List α) :=
  match xs.dropWhile (· != x) with
  | [] => none
  | _ :: rest => some (xs.takeWhile (· != x), rest)

/-- The pieces of `xs` that end in `newline`, without it, and what follows the last `newline`. -/
def cutLines {α : Type} [BEq α] (newline : α) (xs : List α) : List (List α) × List α :=
  let pieces := xs.splitOn newline
  (pieces.dropLast, pieces.getLastD [])

/-- The lines of `xs`: an unterminated last piece is a line unless it is empty. -/
def linesBy {α : Type} [BEq α] (newline : α) (xs : List α) : List (List α) :=
  let (complete, rest) := cutLines newline xs
  if rest.isEmpty then complete else complete ++ [rest]

def dropCarriageReturn (cs : List Char) : List Char :=
  if cs.getLast? = some '\r' then cs.dropLast else cs

/-- The lines of a text: a carriage return before a line feed belongs to the line's end, and a
last piece without line feed is a line, kept as it is, unless it is empty. -/
def lines (cs : List Char) : List (List Char) :=
  let (complete, rest) := cutLines '\n' cs
  let complete := complete.map dropCarriageReturn
  if rest.isEmpty then complete else complete ++ [rest]

def joinWith (between : List Char) (parts : List (List Char)) : List Char :=
  between.intercalate parts

def containsText (needle : List Char) : List Char → Bool
  | [] => needle.isEmpty
  | c :: cs => needle.isPrefixOf (c :: cs) || containsText needle cs

/-- The words of a text: its longest parts without a blank. -/
def words (cs : List Char) : List (List Char) :=
  (cs.splitOnP isBlank).filter fun word => !word.isEmpty

/-- What stands before and after the first blank, if there is one. -/
def splitBlank (cs : List Char) : Option (List Char × List Char) :=
  match cs.dropWhile fun c => !isBlank c with
  | [] => none
  | _ :: rest => some (cs.takeWhile fun c => !isBlank c, rest)

/-- Replaces every occurrence of `old`, read from the left and without overlap, by `new`. -/
def replaceAll (old new : List Char) (cs : List Char) : List Char :=
  go 0 cs
where
  /-- `skip` characters belong to an occurrence that has been replaced. -/
  go : Nat → List Char → List Char
    | _, [] => []
    | skip + 1, _ :: cs => go skip cs
    | 0, c :: cs =>
      if !old.isEmpty && old.isPrefixOf (c :: cs) then new ++ go (old.length - 1) cs
      else c :: go 0 cs

end Logbook.Text
