import Logbook.Chat.Client

namespace Logbook.Chat

/-- Whether a character can stand in the value of a header. -/
def isHeaderChar (c : Char) : Bool :=
  c == '\t' || (0x20 ≤ c.toNat && c.toNat != 0x7F)

/-- The scheme of an address: letters, digits and a few marks before the first colon, a letter first. -/
def scheme? (url : String) : Option String :=
  match Text.splitFirst ':' url.toList with
  | some (c :: cs, _) =>
    if c.isAlpha && cs.all fun d => d.isAlphanum || d == '+' || d == '-' || d == '.' then
      some (String.ofList ((c :: cs).map Char.toLower))
    else none
  | _ => none

/-- Why a request cannot be made of an address and a key, before anything is sent. -/
def buildFault? (url key : String) : Option String :=
  match scheme? url with
  | none => some "builder error"
  | some scheme =>
    if !key.toList.all isHeaderChar then some "builder error"
    else if scheme ≠ "http" ∧ scheme ≠ "https" then some ("builder error for url (" ++ url ++ ")")
    else none

def unanswered (url : String) : Delivery :=
  .failed ("error sending request for url (" ++ url ++ ")")

/-- What is sent over the network: the line of the request, its headers and its body. -/
structure Wire where
  line : String
  headers : List (String × String)
  body : String
deriving Repr, DecidableEq

/-- The form in which a request is sent to a path of a server. -/
def Request.wire (r : Request) (path key : String) : Wire :=
  { line := "POST " ++ path ++ " HTTP/1.1", headers := headers key, body := r.body }

end Logbook.Chat
