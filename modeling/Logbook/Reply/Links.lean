import Logbook.Text.Basic
import Logbook.Unicode.Class

namespace Logbook.Reply

/-- What follows the scheme of a web address at the start of a text. -/
def afterScheme : List Char → Option (List Char)
  | 'h' :: 't' :: 't' :: 'p' :: ':' :: '/' :: '/' :: rest => some rest
  | 'h' :: 't' :: 't' :: 'p' :: 's' :: ':' :: '/' :: '/' :: rest => some rest
  | _ => none

/-- Whether a web address starts here: a scheme and at least one character that is not blank. -/
def startsAddress (cs : List Char) : Bool :=
  match afterScheme cs with
  | some (c :: _) => !Text.isBlank c
  | _ => false

/-- Removes web addresses, which run to the next blank. -/
def dropAddresses : (inside : Bool) → List Char → List Char
  | _, [] => []
  | true, c :: cs => if Text.isBlank c then c :: dropAddresses false cs else dropAddresses true cs
  | false, c :: cs =>
    if startsAddress (c :: cs) then dropAddresses true cs else c :: dropAddresses false cs

/-- What follows a citation mark at the start of a text: digits in brackets. -/
def afterCitation : List Char → Option (List Char)
  | '[' :: cs =>
    match cs.takeWhile Unicode.decimalDigits.contains, cs.dropWhile Unicode.decimalDigits.contains with
    | _ :: _, ']' :: rest => some rest
    | _, _ => none
  | _ => none

/-- What follows a text in brackets at the start of a text, on one line. -/
def afterBracketed : List Char → Option (List Char)
  | '[' :: cs =>
    match cs.dropWhile fun c => c != ']' && c != '\n' with
    | ']' :: rest => some rest
    | _ => none
  | _ => none

/-- Removes what `after` skips over, from the left. The first argument counts the characters of a part
removed that are still to be passed over. -/
def dropParts (after : List Char → Option (List Char)) : Nat → List Char → List Char
  | _, [] => []
  | pending + 1, _ :: cs => dropParts after pending cs
  | 0, c :: cs =>
    match after (c :: cs) with
    | some rest => dropParts after (cs.length - rest.length) cs
    | none => c :: dropParts after 0 cs

/-- The text without web addresses, citation marks and texts in brackets, trimmed. -/
def stripLinks (cs : List Char) : List Char :=
  Text.trim (dropParts afterBracketed 0 (dropParts afterCitation 0 (dropAddresses false cs)))

def removeLinks (text : String) : String :=
  String.ofList (stripLinks text.toList)

end Logbook.Reply
