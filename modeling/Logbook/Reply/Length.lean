import Logbook.Text.Basic

namespace Logbook.Reply

/-- What stands before the last blank of a text, or the whole text if it has none. -/
def beforeLastSpace (cs : List Char) : List Char :=
  match Text.splitFirst ' ' cs.reverse with
  | some (_, before) => before.reverse
  | none => cs

/-- The text cut to a number of lines and characters. Past the limit of characters the cut goes back to
the last space, and three points follow. -/
def cut (maxLines maxChars : Nat) (cs : List Char) : List Char :=
  let kept := Text.joinWith ['\n'] ((Text.lines (Text.trim cs)).take maxLines)
  if kept.length ≤ maxChars then Text.trim kept
  else Text.trim (beforeLastSpace (kept.take maxChars) ++ ['.', '.', '.'])

/-- The text cut to a number of lines and characters. -/
def trimAnswer (text : String) (maxLines maxChars : Nat) : String :=
  String.ofList (cut maxLines maxChars text.toList)

/-- What a reply gets that stops in the middle of a sentence. -/
def truncationNotice : String := " [truncated]"

def endsSentence (c : Char) : Bool :=
  c == '.' || c == '!' || c == '?' || c == '…'

/-- Whether a character may stand between the end of a sentence and the end of a reply. -/
def isCloser (c : Char) : Bool :=
  c == '"' || c == '\'' || c == ')' || c == ']' || c == '»' || c == '”'

/-- Whether a text ends a sentence, closing characters aside. -/
def isComplete (cs : List Char) : Bool :=
  match cs.reverse.dropWhile isCloser with
  | c :: _ => endsSentence c
  | [] => false

/-- The text without blanks at its end, and with the notice unless it ends a sentence or is empty. -/
def finish (cs : List Char) : List Char :=
  let cs := Text.trimEnd cs
  if cs.isEmpty || isComplete cs then cs else cs ++ truncationNotice.toList

/-- The text with a notice if it stops in the middle of a sentence. -/
def ensureSentenceEnd (text : String) : String :=
  String.ofList (finish text.toList)

end Logbook.Reply
