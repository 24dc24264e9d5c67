import Logbook.Chat.Request
import Logbook.Proofs.Json.RoundTrip

namespace Logbook.Chat

open Json (Value)

theorem isDecimal_tenthsText (t : Tenths) : Json.IsDecimal (tenthsText t).toList := by
  rw [tenthsText, String.toList_ofList]
  exact Json.IsDecimal.positive (Json.isWhole_digits _)
    (Json.IsFraction.places (Decimal.areDigits_digits _))

theorem isDecimal_digits (n : Nat) : Json.IsDecimal (Decimal.digits n) := by
  rw [← List.append_nil (Decimal.digits n)]
  exact Json.IsDecimal.positive (Json.isWhole_digits n) Json.IsFraction.absent

theorem Message.isWellFormed_json (m : Message) : m.json.IsWellFormed := by
  refine Value.IsWellFormed.object ?_
  simp [Value.IsWellFormed.string]

theorem Request.isWellFormed_json {r : Request} (h : ∀ f ∈ r.extra, f.2.IsWellFormed) :
    r.json.IsWellFormed := by
  have hmessages : (Value.array (r.messages.map Message.json)).IsWellFormed := by
    refine Value.IsWellFormed.array fun v hv => ?_
    obtain ⟨m, -, rfl⟩ := List.mem_map.mp hv
    exact m.isWellFormed_json
  have hnumber := Value.IsWellFormed.number (isDecimal_tenthsText r.temperature)
  have hcount : (Value.number (String.ofList (Decimal.digits r.maxTokens))).IsWellFormed :=
    Value.IsWellFormed.number (by rw [String.toList_ofList]; exact isDecimal_digits r.maxTokens)
  refine Value.IsWellFormed.object fun f hf => ?_
  rcases List.mem_append.mp hf with hf | hf
  · fin_cases hf
    · exact Value.IsWellFormed.string _
    · exact hmessages
    · exact hnumber
    · exact hcount
  · exact h f hf

theorem isWellFormed_extraFields (p : Persona) : ∀ f ∈ extraFields p, f.2.IsWellFormed := by
  cases p <;> simp [extraFields, Value.IsWellFormed.bool, Value.IsWellFormed.string,
    Value.IsWellFormed.array]

def otherFields (p : Persona) : List (String × Value) :=
  ("temperature", .number (tenthsText p.profile.temperature)) ::
    ("max_tokens", .number (String.ofList (Decimal.digits p.profile.maxTokens))) :: extraFields p

/-- Whatever is asked, a reader of JSON finds the persona's fields in the body of a request, each of them
once, with the prompt as the first message. The text is the content of the second message and stands nowhere
else. -/
theorem body_read_back (p : Persona) :
    ("model" :: "messages" :: (otherFields p).map Prod.fst).Nodup ∧
      ∀ text, Json.decode? (request p text).body =
        some (.object
          (("model", .string p.profile.model) ::
            ("messages", .array
              [.object [("role", .string "system"), ("content", .string p.profile.systemPrompt)],
                .object [("role", .string "user"), ("content", .string text)]]) ::
            otherFields p)) := by
  refine ⟨by cases p <;> decide, fun text => ?_⟩
  exact Json.decode?_compact (Request.isWellFormed_json (isWellFormed_extraFields p))

end Logbook.Chat
