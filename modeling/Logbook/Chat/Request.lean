import Logbook.Json.Printer
import Logbook.Persona
import Logbook.Text.Decimal

namespace Logbook.Chat

structure Message where
  role : String
  content : String
deriving Repr, DecidableEq

/-- A request. The extra fields come after all others, in the order of their names. -/
structure Request where
  model : String
  messages : List Message
  temperature : Tenths
  maxTokens : Nat
  extra : List (String × Json.Value)

def Message.json (m : Message) : Json.Value :=
  .object [("role", .string m.role), ("content", .string m.content)]

def tenthsText (t : Tenths) : String :=
  String.ofList (Decimal.digits (t.tenths / 10) ++ '.' :: Decimal.digits (t.tenths % 10))

def Request.json (r : Request) : Json.Value :=
  .object
    ([("model", .string r.model), ("messages", .array (r.messages.map Message.json)),
        ("temperature", .number (tenthsText r.temperature)),
        ("max_tokens", .number (String.ofList (Decimal.digits r.maxTokens)))]
      ++ r.extra)

def Request.body (r : Request) : String :=
  r.json.compact

def extraFields : Persona → List (String × Json.Value)
  | .johny =>
    [("return_citations", .bool false), ("search_domain_filter", .array []),
      ("search_recency_filter", .string "month")]
  | .tony => []

def request (p : Persona) (text : String) : Request :=
  let profile := p.profile
  { model := profile.model
    messages := [⟨"system", profile.systemPrompt⟩, ⟨"user", text⟩]
    temperature := profile.temperature
    maxTokens := profile.maxTokens
    extra := extraFields p }

end Logbook.Chat
