import Logbook.Text.Basic

namespace Logbook.Reply

/-- Whether a character is the given lower-case letter in either case. The long s and the Kelvin sign
count as an s and a k; no other characters outside ASCII have ASCII letters for their other case. -/
def sameLetter (letter c : Char) : Bool :=
  c.toLower == letter || (letter == 's' && c == '\u017F') || (letter == 'k' && c == '\u212A')

/-- What follows a phrase, written in lower case, at the start of a text, if it stands there. -/
def afterPhrase : List Char → List Char → Option (List Char)
  | [], cs => some cs
  | _ :: _, [] => none
  | letter :: phrase, c :: cs => if sameLetter letter c then afterPhrase phrase cs else none

/-- What follows the first of several phrases that stands at the start of a text. -/
def afterAnyPhrase (phrases : List String) (cs : List Char) : Option (List Char) :=
  phrases.findSome? fun p => afterPhrase p.toList cs

/-- Whether a phrase stands somewhere in a text. -/
def containsPhrase (phrase : List Char) : List Char → Bool
  | [] => phrase.isEmpty
  | c :: cs => (afterPhrase phrase (c :: cs)).isSome || containsPhrase phrase cs

end Logbook.Reply
