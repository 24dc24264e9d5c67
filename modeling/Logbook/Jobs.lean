import Logbook.Shell

/-!
Background jobs. A job collects the lines of its command until they are asked for; the end of a job is
told once, after all its lines, and then the job is forgotten.
-/

namespace Logbook

structure Job where
  id : Nat
  command : String
  /-- The lines that have not been told, oldest first. -/
  pending : List String
  /-- How the job has ended, if it has. -/
  outcome : Option ShellOutcome
deriving Repr, DecidableEq

inductive JobEvent where
  | output (id : Nat) (line : String)
  | finished (id : Nat) (outcome : ShellOutcome)
deriving Repr, DecidableEq

namespace JobEvent

def id : JobEvent → Nat
  | .output id _ => id
  | .finished id _ => id

def endText : ShellOutcome → String
  | .completed _ => "done"
  | .failed _ code => ShellOutcome.statusText code
  | outcome => outcome.describe

def text : JobEvent → String
  | .output id line => "[" ++ toString id ++ "] " ++ line
  | .finished id outcome => "[" ++ toString id ++ "] " ++ endText outcome

end JobEvent

/-- The jobs that run or whose end has not been told, in the order of their numbers. -/
structure Jobs where
  /-- The number of the job started last; numbers count from one. -/
  last : Nat
  jobs : List Job
deriving Repr, DecidableEq

/-- What a job does while it runs. -/
inductive JobStep where
  | output (id : Nat) (line : String)
  | finish (id : Nat) (outcome : ShellOutcome)
deriving Repr, DecidableEq

namespace Job

def events (j : Job) : List JobEvent :=
  j.pending.map (.output j.id) ++ j.outcome.toList.map (.finished j.id)

/-- The job once its events have been told, unless it has ended. -/
def rest? (j : Job) : Option Job :=
  match j.outcome with
  | none => some { j with pending := [] }
  | some _ => none

def isRunning (j : Job) : Bool :=
  j.outcome.isNone

end Job

namespace Jobs

def empty : Jobs :=
  { last := 0, jobs := [] }

def spawn (js : Jobs) (command : String) : Nat × Jobs :=
  let id := js.last + 1
  (id, { last := id, jobs := js.jobs ++ [{ id, command, pending := [], outcome := none }] })

def update (js : Jobs) (id : Nat) (f : Job → Job) : Jobs :=
  { js with jobs := js.jobs.map fun j => if j.id = id then f j else j }

def step (js : Jobs) : JobStep → Jobs
  | .output id line => js.update id fun j => { j with pending := j.pending ++ [line] }
  | .finish id outcome => js.update id fun j => { j with outcome := some outcome }

/-- Tells all events, job by job, and forgets the jobs that have ended. -/
def poll (js : Jobs) : List JobEvent × Jobs :=
  (js.jobs.flatMap Job.events, { js with jobs := js.jobs.filterMap Job.rest? })

/-- The jobs that have not ended, by number and command. -/
def running (js : Jobs) : List (Nat × String) :=
  (js.jobs.filter Job.isRunning).map fun j => (j.id, j.command)

def isEmpty (js : Jobs) : Bool :=
  js.jobs.isEmpty

end Jobs

end Logbook
