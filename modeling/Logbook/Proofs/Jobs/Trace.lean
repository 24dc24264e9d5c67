import Mathlib.Tactic
import Logbook.Jobs

namespace Logbook

def JobStep.id : JobStep → Nat
  | .output id _ => id
  | .finish id _ => id

/-- Something that happens to a table of jobs. -/
inductive JobAction where
  | spawn (command : String)
  | step (s : JobStep)
  /-- All events are told. -/
  | poll
deriving DecidableEq

namespace JobAction

def command? : JobAction → Option String
  | spawn command => some command
  | step _ | poll => none

def line? (id : Nat) : JobAction → Option String
  | step (.output n line) => if n = id then some line else none
  | spawn _ | step (.finish _ _) | poll => none

def outcome? (id : Nat) : JobAction → Option ShellOutcome
  | step (.finish n outcome) => if n = id then some outcome else none
  | spawn _ | step (.output _ _) | poll => none

/-- The commands that have been started, in order. The first one is the command of job 1. -/
def spawned (as : List JobAction) : List String :=
  as.filterMap command?

def written (id : Nat) (as : List JobAction) : List String :=
  as.filterMap (line? id)

def ended? (id : Nat) (as : List JobAction) : Option ShellOutcome :=
  as.findSome? (outcome? id)

/-- All there is to tell of a job: its lines, and then its end if it has ended. -/
def due (id : Nat) (as : List JobAction) : List JobEvent :=
  (written id as).map (.output id) ++ (ended? id as).toList.map (.finished id)

/-- The command of a job, if it has been started. Numbers count from one. -/
def commandOf? (id : Nat) (as : List JobAction) : Option String :=
  if id = 0 then none else (spawned as)[id - 1]?

/-- A job takes steps from its start on, and none after its end. -/
def IsDue (before : List JobAction) : JobAction → Prop
  | spawn _ | poll => True
  | step s => (commandOf? s.id before).isSome = true ∧ ended? s.id before = none

/-- Whether actions can happen in this order after some others. -/
def FollowsUp : List JobAction → List JobAction → Prop
  | _, [] => True
  | before, a :: as => IsDue before a ∧ FollowsUp (before ++ [a]) as

def IsTrace (as : List JobAction) : Prop :=
  FollowsUp [] as

instance (before : List JobAction) : DecidablePred (IsDue before)
  | spawn _ | poll => isTrue trivial
  | step _ => inferInstanceAs (Decidable (_ = true ∧ _ = none))

instance decidableFollowsUp (before : List JobAction) : DecidablePred (FollowsUp before)
  | [] => isTrue trivial
  | a :: as =>
      have := decidableFollowsUp (before ++ [a]) as
      inferInstanceAs (Decidable (IsDue before a ∧ _))

instance : DecidablePred IsTrace :=
  fun as => decidableFollowsUp [] as

theorem followsUp_append {before as bs : List JobAction} :
    FollowsUp before (as ++ bs) ↔ FollowsUp before as ∧ FollowsUp (before ++ as) bs := by
  induction as generalizing before with
  | nil => simp [FollowsUp]
  | cons a as ih => simp [FollowsUp, ih, and_assoc]

theorem isTrace_concat {as : List JobAction} {a : JobAction} :
    IsTrace (as ++ [a]) ↔ IsTrace as ∧ IsDue as a := by
  rw [IsTrace, followsUp_append]
  simp [FollowsUp, IsTrace]

theorem isTrace_of_append {as bs : List JobAction} (h : IsTrace (as ++ bs)) : IsTrace as :=
  (followsUp_append.mp h).1

theorem spawned_concat (as : List JobAction) (a : JobAction) :
    spawned (as ++ [a]) = spawned as ++ a.command?.toList := by
  rw [spawned, List.filterMap_append]
  cases h : a.command? <;> simp [spawned, h]

theorem written_concat (id : Nat) (as : List JobAction) (a : JobAction) :
    written id (as ++ [a]) = written id as ++ (line? id a).toList := by
  rw [written, List.filterMap_append]
  cases h : line? id a <;> simp [written, h]

theorem ended?_concat (id : Nat) (as : List JobAction) (a : JobAction) :
    ended? id (as ++ [a]) = (ended? id as).or (outcome? id a) := by
  rw [ended?, List.findSome?_append]
  cases h : outcome? id a <;> simp [ended?, h]

theorem written_append (id : Nat) (as bs : List JobAction) :
    written id (as ++ bs) = written id as ++ written id bs :=
  List.filterMap_append

theorem ended?_append (id : Nat) (as bs : List JobAction) :
    ended? id (as ++ bs) = (ended? id as).or (ended? id bs) :=
  List.findSome?_append

theorem commandOf?_isSome_iff {id : Nat} {as : List JobAction} :
    (commandOf? id as).isSome = true ↔ 1 ≤ id ∧ id ≤ (spawned as).length := by
  rw [commandOf?]
  split
  · simp
    omega
  · simp
    omega

theorem commandOf?_concat {id : Nat} {as : List JobAction} (a : JobAction)
    (h : (commandOf? id as).isSome = true) : commandOf? id (as ++ [a]) = commandOf? id as := by
  obtain ⟨hpos, hle⟩ := commandOf?_isSome_iff.mp h
  rw [commandOf?, commandOf?, spawned_concat, List.getElem?_append_left (by omega)]

theorem commandOf?_concat_of_command?_eq_none {a : JobAction} (h : a.command? = none) (id : Nat)
    (as : List JobAction) : commandOf? id (as ++ [a]) = commandOf? id as := by
  simp [commandOf?, spawned_concat, h]

theorem commandOf?_concat_spawn (as : List JobAction) (command : String) :
    commandOf? ((spawned as).length + 1) (as ++ [spawn command]) = some command := by
  simp [commandOf?, spawned_concat, command?]

theorem eq_none_of_ne {id : Nat} {a : JobAction} (h : ∀ s, a = step s → s.id ≠ id) :
    line? id a = none ∧ outcome? id a = none := by
  cases a with
  | spawn command | poll => exact ⟨rfl, rfl⟩
  | step s =>
      have hne := h s rfl
      cases s with
      | output n line => exact ⟨if_neg hne, rfl⟩
      | finish n outcome => exact ⟨rfl, if_neg hne⟩

theorem silent_of_commandOf?_eq_none {id : Nat} {as : List JobAction} (h : IsTrace as)
    (hid : commandOf? id as = none) : written id as = [] ∧ ended? id as = none := by
  induction as using List.reverseRecOn with
  | nil => exact ⟨rfl, rfl⟩
  | append_singleton as a ih =>
      obtain ⟨hbefore, ha⟩ := isTrace_concat.mp h
      have hnone : commandOf? id as = none := by
        by_contra hne
        rw [commandOf?_concat a (Option.isSome_iff_ne_none.mpr hne)] at hid
        exact hne hid
      obtain ⟨hwritten, hended⟩ := ih hbefore hnone
      have hother : ∀ s, a = step s → s.id ≠ id := by
        rintro s rfl rfl
        simp [IsDue, hnone] at ha
      obtain ⟨hline, houtcome⟩ := eq_none_of_ne hother
      simp [written_concat, ended?_concat, hwritten, hended, hline, houtcome]

end JobAction

end Logbook
