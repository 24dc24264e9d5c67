import Logbook.Chat.Request
import Logbook.Chat.Response
import Logbook.Environment
import Logbook.Text.Basic

namespace Logbook

namespace Chat

def defaultBase : String := "https://api.perplexity.ai"

/-- The variables that may hold the key, in the order in which they count. -/
def keyVariables : List String := ["PERPLEXITY_API_KEY", "PERPLEXITY_API", "PPLX_API_KEY"]

/-- The variable that replaces the default address. -/
def baseVariable : String := "LETSGO_API_BASE"

def isGiven (s : String) : Bool :=
  !Text.allBlank s.toList

/-- A key, if there is one, and the address that paths are added to. -/
structure Client where
  key : Option String
  base : String
deriving Repr, DecidableEq

/-- A client. A blank key is none, and slashes at the end of the address are dropped. -/
def Client.create (key : Option String) (base : String) : Client :=
  { key := key.filter isGiven
    base := String.ofList (Text.dropEndWhile (· == '/') base.toList) }

/-- The client that the environment describes: the first key variable that is not blank, and the
address unless it is blank. -/
def Client.ofEnvironment (env : Environment) : Client :=
  Client.create ((keyVariables.filterMap env).find? isGiven)
    (((env baseVariable).filter isGiven).getD defaultBase)

def Client.hasKey (c : Client) : Bool :=
  c.key.isSome

def Client.url (c : Client) : String :=
  c.base ++ "/chat/completions"

def headers (key : String) : List (String × String) :=
  [("authorization", "Bearer " ++ key), ("content-type", "application/json")]

/-- Asks the model, if there is a key to ask with. -/
def Client.complete (c : Client) (deliver : Request → Delivery) (r : Request) : Except Fault String :=
  if c.hasKey then (deliver r).answer else .error .missingKey

end Chat

end Logbook
