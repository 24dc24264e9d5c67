import Logbook.Reply.Alias
import Logbook.Reply.Length
import Logbook.Reply.Links
import Logbook.Reply.Reasoning

namespace Logbook

inductive Persona where
  | johny
  | tony
deriving Repr, DecidableEq

structure Tenths where
  tenths : Nat
deriving Repr, DecidableEq

structure Profile where
  displayName : String
  tag : String
  model : String
  systemPrompt : String
  temperature : Tenths
  maxTokens : Nat
  maxLines : Nat
  maxChars : Nat
  cleansReasoning : Bool
  aliases : Reply.Alias
  replyPrefix : String
  errorPrefix : String
deriving Repr, DecidableEq

namespace Persona

def name : Persona → String
  | .johny => "johny"
  | .tony => "tony"

def ofName? : String → Option Persona
  | "johny" => some .johny
  | "tony" => some .tony
  | _ => none

open Reply (AliasPart)

def profile : Persona → Profile
  | .johny =>
    { displayName := "Johny"
      tag := "johny"
      model := "sonar-pro"
      systemPrompt := "You are Johny, resonant guardian spirit of the terminal. "
        ++ "When users invoke /dive, respond concisely. Avoid links, citations and meta-comments. "
        ++ "No preambles and no explanations of your process."
      temperature := ⟨5⟩
      maxTokens := 700
      maxLines := 10
      maxChars := 650
      cleansReasoning := false
      aliases :=
        [[.words "sonar", .gap, .words "pro"], [.words "sonar reasoning pro"], [.words "tony"]]
      replyPrefix := "🔍 Johny:\n"
      errorPrefix := "❌ Johny Error: " }
  | .tony =>
    { displayName := "Tony"
      tag := "tony"
      model := "sonar-reasoning"
      systemPrompt := "You are Tony, chief reasoner of the terminal and an expert in "
        ++ "Linux commands, programming, mathematics and system design. "
        ++ "Deliver direct answers about commands, code and operating systems. "
        ++ "Never include meta-comments, process explanations or statements like "
        ++ "'the user is asking...' or 'let's consider...'. Only the answer, clear and to the point."
      temperature := ⟨6⟩
      maxTokens := 1500
      maxLines := 40
      maxChars := 4000
      cleansReasoning := true
      aliases :=
        [[.words "sonar", .gap, .words "reasoning", .gap, .words "pro"],
          [.words "sonar", .gap, .words "reasoning"], [.words "sonar", .gap, .words "pro"]]
      replyPrefix := "🧠 Tony deep reasoning: "
      errorPrefix := "❌ Tony deep reasoning ERROR: " }

end Persona

namespace Profile

def shapeChars (p : Profile) (cs : List Char) : List Char :=
  let cs := Reply.stripLinks cs
  let cs := if p.cleansReasoning then Reply.stripReasoning cs else cs
  let cs := Reply.cut p.maxLines p.maxChars cs
  Reply.finish (Reply.replaceAlias p.aliases p.displayName.toList 0 cs)

/-- An answer as the persona gives it: without links, and without reasoning where the profile says so;
cut to its length, under the persona's name, and with a notice where a sentence stops short. -/
def shape (p : Profile) (raw : String) : String :=
  String.ofList (p.shapeChars raw.toList)

end Profile

end Logbook
