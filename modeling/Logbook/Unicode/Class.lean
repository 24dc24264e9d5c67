import Logbook.Unicode.Age
import Logbook.Unicode.Category
import Logbook.Unicode.Property
import Logbook.Unicode.Script
import Logbook.Unicode.Segmentation

namespace Logbook.Unicode

/-- Why a class is not known. -/
inductive UnknownClass where
  | property
  | value
deriving Repr, DecidableEq

/-- A name as it is compared: without blanks, low lines, hyphens and characters that are not ASCII, in
lower case, and without "is" in front unless only a "c" follows. -/
def normalizeName (name : List Char) : String :=
  let keep (cs : List Char) : List Char :=
    (cs.filter fun c => c != ' ' && c != '_' && c != '-' && c.toNat < 0x80).map Char.toLower
  let (hasIs, rest) := match name with
    | i :: s :: rest => if (i = 'i' || i = 'I') && (s = 's' || s = 'S') then (true, rest) else (false, name)
    | _ => (false, name)
  let kept := keep rest
  if hasIs && kept == ['c'] then "isc" else String.ofList kept

def unionAll (sets : List CharSet) : CharSet :=
  CharSet.ofRanges (sets.flatMap CharSet.ranges)

/-- A general category, a group of them, or one of the classes that stand beside them. -/
def category? (name : String) : Option CharSet :=
  if name = "any" then some CharSet.all
  else if name = "ascii" then some (CharSet.range 0 0x7F)
  else if name = "assigned" then (lookup categories "cn").map CharSet.complement
  else
    match categoryGroups.find? fun g => g.1.contains name with
    | some (_, members) => some (unionAll (members.filterMap (lookup categories)))
    | none => lookup categories name

/-- A script with what its extensions add and take away. -/
def scriptExtended? (name : String) : Option CharSet := do
  let row ← scripts.find? fun e => e.names.contains name
  let extra := (scriptExtensions.find? fun e => e.names.any row.names.contains).map Entry.set
  let fewer := (scriptExceptions.find? fun e => e.names.any row.names.contains).map Entry.set
  some ((row.set.union (extra.getD CharSet.empty)).diff (fewer.getD CharSet.empty))

/-- The characters of a version of Unicode, which has those of the versions before it. -/
def age? (name : String) : Option CharSet :=
  let older := ages.takeWhile fun e => !e.names.contains name
  match ages.drop older.length with
  | [] => none
  | e :: _ => some (unionAll ((older ++ [e]).map Entry.set))

/-- The class with a name alone: a property, else a category, else a script. Three short names that
would be properties are categories. -/
def named (name : List Char) : Except UnknownClass CharSet :=
  let name := normalizeName name
  let property :=
    if name = "cf" || name = "sc" || name = "lc" then none else lookup binaryProperties name
  match property <|> category? name <|> lookup scripts name with
  | some s => .ok s
  | none => .error .property

def withOther (table : List Entry) (names : List String) (name : String) : Option CharSet :=
  if names.contains name then some (unionAll (table.map Entry.set)).complement else lookup table name

def valued (property value : List Char) : Except UnknownClass CharSet :=
  let value := normalizeName value
  let found : Except UnknownClass (Option CharSet) :=
    match normalizeName property with
    | "gc" | "generalcategory" => .ok (category? value)
    | "sc" | "script" => .ok (lookup scripts value)
    | "scx" | "scriptextensions" => .ok (scriptExtended? value)
    | "age" => .ok (age? value)
    | "gcb" | "graphemeclusterbreak" => .ok (withOther graphemeBreaks ["other", "xx"] value)
    | "wb" | "wordbreak" => .ok (withOther wordBreaks ["other", "xx"] value)
    | "sb" | "sentencebreak" => .ok (withOther sentenceBreaks ["other", "xx"] value)
    | name => if (lookup binaryProperties name).isSome then .ok none else .error .property
  match found with
  | .ok (some s) => .ok s
  | .ok none => .error .value
  | .error e => .error e

def decimalDigits : CharSet :=
  (lookup categories "nd").getD CharSet.empty

def whiteSpace : CharSet :=
  (lookup binaryProperties "whitespace").getD CharSet.empty

/-- The letters of all scripts. -/
def alphabetic : CharSet :=
  (lookup binaryProperties "alphabetic").getD CharSet.empty

/-- The characters of words: letters, marks, decimal digits, connectors and joiners. -/
def wordChars : CharSet :=
  unionAll
    ([alphabetic, (category? "m").getD CharSet.empty, decimalDigits] ++
      [(lookup categories "pc").getD CharSet.empty,
        (lookup binaryProperties "joincontrol").getD CharSet.empty])

def alphanumeric : CharSet :=
  alphabetic.union ((category? "n").getD CharSet.empty)

end Logbook.Unicode
