import Logbook.CommandLine.Switch

/-!
Reading of arguments from left to right. A value is looked at when the next switch or argument comes, so
that of two wrong values the first one counts.
-/

namespace Logbook.CommandLine

/-- A switch or argument that has been read and whose value has not been looked at. -/
inductive Pending where
  | nothing
  | awaits (s : Switch)
  | value (s : Switch) (v : String)
  | argument (kind : ValueKind) (v : String)
deriving Repr, DecidableEq

/-- What has been read of the arguments. -/
structure Reading where
  /-- Switches with their values, in the order in which they were given; flags have an empty one. -/
  switches : List (String × String) := []
  arguments : List String := []
  pending : Pending := .nothing
  /-- Whether two dashes have been read, after which there are no switches. -/
  afterDashes : Bool := false
deriving Repr, DecidableEq

namespace Reading

/-- Adds a switch, which must not have been given before and whose value must be of its kind. -/
def addSwitch (r : Reading) (s : Switch) (v : String) : Except Fault Reading :=
  if r.switches.any fun given => given.1 = s.long then .error .argumentConflict
  else
    let r := { r with switches := r.switches ++ [(s.long, v)] }
    match s.kind with
    | .takes kind =>
      match kind.fault? v with
      | some fault => .error fault
      | none => .ok r
    | _ => .ok r

def settle (r : Reading) : Except Fault Reading :=
  let done := { r with pending := .nothing }
  match r.pending with
  | .nothing => .ok done
  | .awaits _ => .error .invalidValue
  | .value s v => done.addSwitch s v
  | .argument kind v =>
    match kind.fault? v with
    | some fault => .error fault
    | none => .ok { done with arguments := done.arguments ++ [v] }

def takeFlag (r : Reading) (s : Switch) : Except Fault Reading := do
  let r ← r.settle
  match s.kind with
  | .help => .error .displayHelp
  | .version => .error .displayVersion
  | _ => r.addSwitch s ""

/-- Reads a switch that takes a value, with the value if it is attached. -/
def takeValued (r : Reading) (s : Switch) (attached : Option String) : Except Fault Reading := do
  let r ← r.settle
  match attached with
  | some v => r.addSwitch s v
  | none => .ok { r with pending := .awaits s }

/-- The error of an argument that is not known. A wrong value before it comes first. -/
def refuse (r : Reading) (fault : Fault) : Except Fault Reading := do
  let _ ← r.settle
  .error fault

/-- Reads a switch by its long name, with a value after an equals sign. -/
def takeLong (g : Grammar) (r : Reading) (body : List Char) : Except Fault Reading :=
  let (name, attached) := match Text.splitFirst '=' body with
    | some (name, v) => (name, some (String.ofList v))
    | none => (body, none)
  match g.long? (String.ofList name) with
  | none => r.refuse .unknownArgument
  | some s =>
    match s.kind, attached with
    | .takes _, _ => r.takeValued s attached
    | _, some _ => r.refuse .tooManyValues
    | _, none => r.takeFlag s

/-- Reads switches by their letters. What follows the letter of a switch that takes a value is the
value, with or without an equals sign. -/
def takeShort (g : Grammar) (r : Reading) : List Char → Except Fault Reading
  | [] => .ok r
  | c :: rest =>
    match g.short? c with
    | none => r.refuse .unknownArgument
    | some s =>
      match s.kind with
      | .takes _ =>
        match rest with
        | [] => r.takeValued s none
        | '=' :: v => r.takeValued s (some (String.ofList v))
        | v => r.takeValued s (some (String.ofList v))
      | _ => do
        let r ← r.takeFlag s
        takeShort g r rest

/-- Whether the characters after a dash are a number: digits with at most one point and at most one
exponent, neither of which comes first. -/
def looksNumeric (cs : List Char) : Bool :=
  let whole := cs.takeWhile (· != 'e')
  let exponent := cs.dropWhile (· != 'e')
  let digitsOnly := fun (ds : List Char) => ds.all Char.isDigit
  digitsOnly (whole.filter (· != '.')) && whole.count '.' ≤ 1 && whole.head? != some '.'
    && match exponent with
      | [] => true
      | _ :: ds => !whole.isEmpty && !ds.isEmpty && digitsOnly ds

def isAwaiting (r : Reading) : Bool :=
  match r.pending with
  | .awaits _ => true
  | _ => false

def hasRoom (g : Grammar) (r : Reading) : Bool :=
  match g.arguments, r.pending with
  | .none, _ => false
  | .many, _ => true
  | .optional _, .argument _ _ => false
  | .optional _, _ => r.arguments.isEmpty

def takeArgument (g : Grammar) (r : Reading) (arg : String) : Except Fault Reading :=
  if r.hasRoom g then do
    let r ← r.settle
    let kind := match g.arguments with
      | .optional kind => kind
      | _ => .text
    .ok { r with pending := .argument kind arg }
  else if g.subcommands.isEmpty || (r.afterDashes && g.subcommands.contains arg) then
    r.refuse .unknownArgument
  else r.refuse .invalidSubcommand

/-- Reads the value that a switch waits for, or an argument. -/
def takePlain (g : Grammar) (r : Reading) (arg : String) : Except Fault Reading :=
  match r.afterDashes, r.pending with
  | false, .awaits s => .ok { r with pending := .value s arg }
  | _, _ => r.takeArgument g arg

def take (g : Grammar) (r : Reading) (arg : String) : Except Fault Reading :=
  if r.afterDashes then r.takeArgument g arg
  else match arg.toList with
    | ['-', '-'] => .ok { r with afterDashes := true }
    | '-' :: '-' :: body => r.takeLong g body
    | ['-'] => r.takePlain g arg
    | '-' :: body =>
      let numberFits := match g.arguments with
        | .optional _ => r.hasRoom g
        | _ => false
      if numberFits && looksNumeric body then r.takePlain g arg else r.takeShort g body
    | _ => r.takePlain g arg

def calls (g : Grammar) (r : Reading) (arg : String) : Bool :=
  !r.afterDashes && !r.isAwaiting && g.subcommands.contains arg

/-- Reads arguments up to the name of a command below, which is returned with the arguments after it. -/
def takeAll (g : Grammar) (r : Reading) : List String → Except Fault (Reading × Option (String × List String))
  | [] => .ok (r, none)
  | arg :: rest =>
    if r.calls g arg then .ok (r, some (arg, rest))
    else do
      let r ← r.take g arg
      takeAll g r rest

def isSet (r : Reading) (long : String) : Bool :=
  (r.switches.lookup long).isSome

def value? (r : Reading) (long : String) : Option String :=
  r.switches.lookup long

end Reading

end Logbook.CommandLine
