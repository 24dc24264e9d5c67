import Logbook.Command.Summary
import Logbook.CommandLine.Reading
import Logbook.Settings.Basic

namespace Logbook

inductive Action where
  | session
  | summarize (term : List String) (limit : Nat) (history regex : Bool)
  | history (count : Option Int)
deriving Repr, DecidableEq

structure CommandLine where
  config : Option Path := none
  logDir : Option Path := none
  historyFile : Option Path := none
  maxLogFiles : Option Nat := none
  lenient : Bool := false
  noColor : Bool := false
  persona : Option Persona := none
  verbose : Bool := false
  action : Action := .session
deriving Repr, DecidableEq

namespace CommandLine

def helpSwitch : Switch := { long := "help", short := some 'h', kind := .help }

def topGrammar : Grammar where
  switches :=
    [{ long := "config", kind := .takes .path }, { long := "log-dir", kind := .takes .path },
      { long := "history-file", kind := .takes .path },
      { long := "max-log-files", kind := .takes .count }, { long := "lenient", kind := .flag },
      { long := "no-color", kind := .flag }, { long := "persona", kind := .takes .persona },
      { long := "verbose", short := some 'v', kind := .flag }, helpSwitch,
      { long := "version", short := some 'V', kind := .version }]
  arguments := .none
  subcommands := ["summarize", "history", "help"]

def summarizeGrammar : Grammar where
  switches :=
    [{ long := "limit", short := some 'n', kind := .takes .count },
      { long := "history", kind := .flag }, { long := "regex", kind := .flag }, helpSwitch]
  arguments := .many
  subcommands := []

def historyGrammar : Grammar where
  switches := [helpSwitch]
  arguments := .optional .integer
  subcommands := []

def readAll (g : Grammar) (args : List String) : Except Fault Reading := do
  let (r, _) ← Reading.takeAll g {} args
  r.settle

/-- The answer to a call for help: only the name of a command can follow. -/
def helpFault : List String → Fault
  | [] => .displayHelp
  | [name] => if topGrammar.subcommands.contains name then .displayHelp else .invalidSubcommand
  | _ => .invalidSubcommand

def actionOf (name : String) (args : List String) : Except Fault Action :=
  if name = "summarize" then do
    let r ← readAll summarizeGrammar args
    let limit := (r.value? "limit").bind fun v => Decimal.parseCount? v.toList
    .ok (.summarize r.arguments (limit.getD Summary.defaultLimit) (r.isSet "history")
      (r.isSet "regex"))
  else if name = "history" then do
    let r ← readAll historyGrammar args
    .ok (.history (r.arguments.head?.bind fun v => Decimal.parseInteger? v.toList))
  else .error (helpFault args)

/-- Reads the arguments of a call. What is wrong after the name of a command comes before what is
pending in front of it. -/
def parse (args : List String) : Except Fault CommandLine := do
  let (r, below) ← Reading.takeAll topGrammar {} args
  let action ← match below with
    | none => .ok Action.session
    | some (name, rest) => actionOf name rest
  let r ← r.settle
  let path? := fun long => (r.value? long).map Path.mk
  .ok
    { config := path? "config"
      logDir := path? "log-dir"
      historyFile := path? "history-file"
      maxLogFiles := (r.value? "max-log-files").bind fun v => Decimal.parseCount? v.toList
      lenient := r.isSet "lenient"
      noColor := r.isSet "no-color"
      persona := (r.value? "persona").bind Persona.ofName?
      verbose := r.isSet "verbose"
      action }

/-- The layer of settings that a call gives. It can turn colours off and not on. -/
def overrides (c : CommandLine) : Overrides :=
  { logDir := c.logDir
    historyFile := c.historyFile
    maxLogFiles := c.maxLogFiles
    color := if c.noColor then some false else none }

end CommandLine

end Logbook
