namespace Logbook.Chat

inductive Fault where
  | missingKey
  | http (detail : String)
  | api (status : Nat) (body : String)
  | invalidResponse (detail : String)
deriving Repr, DecidableEq

def Fault.message : Fault → String
  | .missingKey => "PERPLEXITY_API_KEY not set"
  | .http detail => "HTTP error: " ++ detail
  | .api status body => "API error: " ++ toString status ++ " - " ++ body
  | .invalidResponse detail => "Invalid response: " ++ detail

end Logbook.Chat
