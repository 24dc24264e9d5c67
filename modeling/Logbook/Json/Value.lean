namespace Logbook.Json

inductive Value where
  | null
  | bool (b : Bool)
  | number (written : String)
  | string (s : String)
  | array (items : List Value)
  | object (fields : List (String × Value))
deriving Repr

def Value.fieldsNamed (name : String) (fields : List (String × Value)) : List Value :=
  (fields.filter fun f => f.1 = name).map (·.2)

end Logbook.Json
