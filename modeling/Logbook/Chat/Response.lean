import Logbook.Chat.Fault
import Logbook.Json.Reader
import Logbook.Text.Utf8

/-!
Responses of a chat model. A response is a record of choices, a choice is a record of a message, and a
message is a record of a content. A record may be written as an object, in which other fields count for
nothing, or as an array of its one field.
-/

namespace Logbook.Chat

/-- What a record holds under the name of its field. -/
inductive Member where
  /-- The value is no record, or it names the field twice. -/
  | wrong
  | absent
  | given (v : Json.Value)

def member (name : String) : Json.Value → Member
  | .object fields =>
    match Json.Value.fieldsNamed name fields with
    | [] => .absent
    | [v] => .given v
    | _ => .wrong
  | .array [v] => .given v
  | _ => .wrong

def contentOf? (message : Json.Value) : Option (Option String) :=
  match member "content" message with
  | .absent => some none
  | .given .null => some none
  | .given (.string s) => some (some s)
  | _ => none

def choiceContent? (choice : Json.Value) : Option (Option String) :=
  match member "message" choice with
  | .given message => contentOf? message
  | _ => none

/-- The contents of a response's choices in order. One wrong choice makes the response wrong. -/
def contentsOf? (response : Json.Value) : Option (List (Option String)) :=
  match member "choices" response with
  | .given (.array choices) => choices.mapM choiceContent?
  | _ => none

inductive Delivery where
  | failed (detail : String)
  | answered (status : Nat) (body : List UInt8)

/-- The text of a body that is shown to the user, without a byte order mark. -/
def bodyText (body : List UInt8) : String :=
  Utf8.decodeLossy (if [0xEF, 0xBB, 0xBF].isPrefixOf body then body.drop 3 else body)

/-- The answer in the body of a successful response: the content of its first choice. -/
def answerOf (body : List UInt8) : Except Fault String :=
  match (Utf8.decode? body).bind Json.decode? |>.bind contentsOf? with
  | none => .error (.invalidResponse "error decoding response body")
  | some (some content :: _) => .ok content
  | some _ => .error (.invalidResponse "No choices in response")

def Delivery.answer : Delivery → Except Fault String
  | .failed detail => .error (.http detail)
  | .answered status body =>
    if 200 ≤ status ∧ status < 300 then answerOf body else .error (.api status (bodyText body))

end Logbook.Chat
