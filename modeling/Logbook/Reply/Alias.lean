import Logbook.Reply.Letters

namespace Logbook.Reply

inductive AliasPart where
  /-- Words in lower case, which may stand in either case. -/
  | words (text : String)
  /-- One blank or hyphen, or none. -/
  | gap
deriving Repr, DecidableEq

/-- The spellings of a name, of which the first that fits counts. -/
abbrev Alias : Type := List (List AliasPart)

/-- What follows a separator at the start of a text, or the text itself if there is none. -/
def afterGap : List Char → List Char
  | [] => []
  | c :: cs => if Text.isBlank c || c == '-' then cs else c :: cs

/-- What follows a spelling at the start of a text, if it stands there. -/
def afterSpelling : List AliasPart → List Char → Option (List Char)
  | [], cs => some cs
  | .words text :: parts, cs => (afterPhrase text.toList cs).bind (afterSpelling parts)
  | .gap :: parts, cs => afterSpelling parts (afterGap cs)

/-- What follows a name at the start of a text, if it stands there. -/
def afterAlias (name : Alias) (cs : List Char) : Option (List Char) :=
  name.findSome? fun spelling => afterSpelling spelling cs

/-- Whether the name stands somewhere in a text. -/
def containsAlias (name : Alias) : List Char → Bool
  | [] => false
  | c :: cs => (afterAlias name (c :: cs)).isSome || containsAlias name cs

/-- Replaces every occurrence of the name, from the left. The first argument counts the characters of an
occurrence that are still to be passed over. -/
def replaceAlias (name : Alias) (new : List Char) : Nat → List Char → List Char
  | _, [] => []
  | pending + 1, _ :: cs => replaceAlias name new pending cs
  | 0, c :: cs =>
    match afterAlias name (c :: cs) with
    | some rest => new ++ replaceAlias name new (cs.length - rest.length) cs
    | none => c :: replaceAlias name new 0 cs

/-- The text with every occurrence of the name replaced. -/
def substituteAlias (text : String) (name : Alias) (new : String) : String :=
  String.ofList (replaceAlias name new.toList 0 text.toList)

end Logbook.Reply
