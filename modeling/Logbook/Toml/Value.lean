namespace Logbook.Toml

inductive Real where
  | decimal (digits exponent : Int)
  | infinity (negative : Bool)
  | notANumber
deriving Repr, DecidableEq

/-- A TOML value. Dates and times are kept as they are written. -/
inductive Value where
  | string (s : String)
  | integer (n : Int)
  | real (x : Real)
  | boolean (b : Bool)
  | moment (written : String)
  | array (items : List Value)
  | table (entries : List (String × Value))
deriving Repr

abbrev Table : Type := List (String × Value)

namespace Table

def get? (t : Table) (name : String) : Option Value :=
  t.lookup name

/-- The text under a name, if there is one and it is a text. -/
def string? (t : Table) (name : String) : Option String :=
  match t.get? name with
  | some (.string s) => some s
  | _ => none

def boolean? (t : Table) (name : String) : Option Bool :=
  match t.get? name with
  | some (.boolean b) => some b
  | _ => none

def table? (t : Table) (name : String) : Option Table :=
  match t.get? name with
  | some (.table entries) => some entries
  | _ => none

end Table

end Logbook.Toml
