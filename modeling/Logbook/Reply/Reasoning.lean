import Logbook.Pattern.Regex
import Logbook.Reply.Letters

namespace Logbook.Reply

def hasLineEnd (cs : List Char) : Bool :=
  cs.contains '\n'

/-- Whether a remark about the user starts here. It holds a full stop, and its line has an end. -/
def startsUserRemark (cs : List Char) : Bool :=
  match (afterPhrase "the user ".toList cs).bind
      (afterAnyPhrase ["is asking", "wants", "is interested in"]) with
  | some rest => (rest.takeWhile (· != '\n')).contains '.' && hasLineEnd rest
  | none => false

/-- Whether a remark with the given start and one of the given verbs starts here, on a line that has an
end. -/
def startsRemark (start : String) (verbs : List String) (cs : List Char) : Bool :=
  match (afterPhrase start.toList cs).bind (afterAnyPhrase verbs) with
  | some rest => hasLineEnd rest
  | none => false

/-- Removes remarks up to the end of their line and with it. -/
def dropRemarks (starts : List Char → Bool) : (inside : Bool) → List Char → List Char
  | _, [] => []
  | true, c :: cs => dropRemarks starts (c != '\n') cs
  | false, c :: cs =>
    if starts (c :: cs) then dropRemarks starts true cs else c :: dropRemarks starts false cs

/-- The words that mark a line as one about the process. -/
def processWords : List String := ["reasoning", "analysis", "thought process"]

def mentionsProcess (line : List Char) : Bool :=
  processWords.any fun w => containsPhrase w.toList line

/-- Removes the lines with an end that speak of the process. -/
def dropProcessLines (cs : List Char) : List Char :=
  let (complete, rest) := Text.cutLines '\n' cs
  (complete.filter fun line => !mentionsProcess line).flatMap (· ++ ['\n']) ++ rest

/-- A line without a connective at its start, the comma after it and the blanks after that. -/
def dropConnective (line : List Char) : List Char :=
  match afterAnyPhrase ["thus", "in summary", "in conclusion", "so"] line with
  | some rest =>
    if Pattern.isWord? false rest.head? then line
    else
      let rest := match rest with
        | ',' :: rest => rest
        | _ => rest
      rest.dropWhile fun c => c == ' ' || c == '\t'
  | none => line

/-- Removes connectives at the start of lines. -/
def dropConnectives (cs : List Char) : List Char :=
  let (complete, rest) := Text.cutLines '\n' cs
  (complete.map dropConnective).flatMap (· ++ ['\n']) ++ dropConnective rest

def metaBeginnings : List String :=
  ["the user", "let's", "i need to", "reasoning", "analysis", "thought process"]

/-- Whether a line begins like reasoning. Only ASCII letters have the letters of these beginnings for
their lower case. -/
def isMetaLine (line : List Char) : Bool :=
  metaBeginnings.any fun b => b.toList.isPrefixOf (line.map Char.toLower)

/-- The lines of an answer: trimmed, without blank ones and without lines that begin like reasoning. -/
def answerLines (cs : List Char) : List (List Char) :=
  ((Text.lines cs).map Text.trim).filter fun line => !line.isEmpty && !isMetaLine line

/-- The answer in a text, without the reasoning around it. -/
def stripReasoning (cs : List Char) : List Char :=
  let cs := dropRemarks startsUserRemark false cs
  let cs := dropRemarks (startsRemark "let's " ["break down", "consider", "analyze"]) false cs
  let cs := dropRemarks (startsRemark "i need to " ["think", "consider", "analyze"]) false cs
  Text.joinWith ['\n'] (answerLines (dropConnectives (dropProcessLines cs)))

def cleanReasoning (text : String) : String :=
  String.ofList (stripReasoning text.toList)

end Logbook.Reply
