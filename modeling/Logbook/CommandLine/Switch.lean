import Logbook.Persona
import Logbook.Text.Decimal

namespace Logbook.CommandLine

inductive Fault where
  | unknownArgument
  /-- A value is missing, empty, or not one of those that are allowed. -/
  | invalidValue
  | valueValidation
  | argumentConflict
  | tooManyValues
  | invalidSubcommand
  | displayHelp
  | displayVersion
deriving Repr, DecidableEq

inductive ValueKind where
  | path
  | count
  | integer
  | persona
  | text
deriving Repr, DecidableEq

def ValueKind.fault? (kind : ValueKind) (value : String) : Option Fault :=
  match kind with
  | .path => if value.isEmpty then some .invalidValue else none
  | .count => if (Decimal.parseCount? value.toList).isSome then none else some .valueValidation
  | .integer => if (Decimal.parseInteger? value.toList).isSome then none else some .valueValidation
  | .persona => if (Persona.ofName? value).isSome then none else some .invalidValue
  | .text => none

inductive SwitchKind where
  | flag
  | takes (kind : ValueKind)
  | help
  | version
deriving Repr, DecidableEq

/-- A switch: its long name, a letter if it has one, and what it does. -/
structure Switch where
  long : String
  short : Option Char := none
  kind : SwitchKind
deriving Repr, DecidableEq

inductive Arguments where
  | none
  /-- At most one, which may be a number below zero. -/
  | optional (kind : ValueKind)
  | many
deriving Repr, DecidableEq

structure Grammar where
  switches : List Switch
  arguments : Arguments
  subcommands : List String
deriving Repr, DecidableEq

namespace Grammar

def long? (g : Grammar) (name : String) : Option Switch :=
  g.switches.find? fun s => s.long = name

def short? (g : Grammar) (letter : Char) : Option Switch :=
  g.switches.find? fun s => s.short = some letter

end Grammar

end Logbook.CommandLine
