import Logbook.Search

namespace Logbook

structure Summary where
  query : Query
  source : Source
deriving Repr, DecidableEq

namespace Summary

def defaultLimit : Nat := 5

def maxLimit : Nat := Decimal.countLimit - 1

def historyFlag : String := "--history"

def regexFlag : String := "--regex"

/-- The summary of given words, where no words match every line. -/
def ofWords (words : List String) (limit : Nat) (history regex : Bool) : Summary :=
  { query :=
      { pattern := if words.isEmpty then none else some (" ".intercalate words)
        limit
        mode := if regex then .regex else .substring }
    source := if history then .history else .logs }

/-- The limit that a word stands for, if it has digits only. -/
def limit? (word : String) : Option Nat :=
  if !word.toList.isEmpty && word.toList.all Char.isDigit then
    some (min (Decimal.value word.toList) maxLimit)
  else none

/-- Takes the last word for the limit, if it is one. -/
def splitLimit (words : List String) : List String × Nat :=
  match words.getLast?.bind limit? with
  | some limit => (words.dropLast, limit)
  | none => (words, defaultLimit)

/-- The summary that arguments ask for. Flags may stand anywhere, and the last word that is no flag is
the limit if it has digits only. -/
def parse (args : String) : Summary :=
  let tokens := (Text.words args.toList).map String.ofList
  let words := tokens.filter fun t => t ≠ historyFlag ∧ t ≠ regexFlag
  let (words, limit) := splitLimit words
  ofWords words limit (tokens.contains historyFlag) (tokens.contains regexFlag)

end Summary

end Logbook
