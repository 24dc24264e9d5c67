import Logbook.Proofs.Session.Lines
import Logbook.Proofs.Text.Lower

namespace Logbook

namespace Command

theorem of_split_eq {line name args : String} (htrim : Text.trim line.toList = line.toList)
    (hslash : line.toList.head? = some '/') (h : split line = (name, args)) (hargs : args ≠ "") :
    ∃ word blank rest, line.toList = '/' :: (word ++ blank :: rest) ∧ Text.isBlank blank = true ∧
      name = String.ofList (Unicode.lower word) ∧ args = String.ofList (Text.trim rest) := by
  obtain ⟨body, hline⟩ : ∃ body, line.toList = '/' :: body := by
    cases hcs : line.toList with
    | nil => simp [hcs] at hslash
    | cons c body =>
        obtain rfl : c = '/' := by simpa [hcs] using hslash
        exact ⟨body, rfl⟩
  have htrimmed := htrim.trans hline
  simp only [split, htrimmed] at h
  cases hcut : Text.splitBlank body with
  | none =>
      obtain ⟨-, rfl⟩ : _ ∧ String.ofList [] = args := by simpa [hcut] using h
      exact absurd rfl hargs
  | some cut =>
      obtain ⟨word, rest⟩ := cut
      obtain ⟨rfl, rfl⟩ : String.ofList (Unicode.lower word) = name ∧
          String.ofList (Text.trim rest) = args := by simpa [hcut] using h
      obtain ⟨blank, rfl, hblank⟩ := Text.of_splitBlank_eq_some hcut
      exact ⟨word, blank, rest, hline, hblank, rfl, rfl⟩

/-- A name that can be called in any case: its characters have one small form, and none is a blank. -/
def IsName (name : String) : Prop :=
  ∀ c ∈ name.toList, Unicode.IsPlain c ∧ Text.isBlank c = false

instance (name : String) : Decidable (IsName name) :=
  decidable_of_iff ((name.toList.all fun c => decide (Unicode.IsPlain c) && !Text.isBlank c) = true)
    (by simp [IsName])

/-- A line calls a command by its name, in any case, without arguments or with some behind a blank. -/
inductive Calls (name : String) : List Char → List Char → Prop where
  | alone {word : List Char} : word.map Char.toLower = name.toList → Calls name ('/' :: word) []
  | behind {word args : List Char} {blank : Char} : word.map Char.toLower = name.toList →
      Text.isBlank blank = true → Calls name ('/' :: (word ++ blank :: args)) (Text.trim args)

theorem split_of_calls {name line : String} {args : List Char} (hname : IsName name)
    (htrim : Text.trim line.toList = line.toList) (h : Calls name line.toList args) :
    split line = (name, String.ofList args) := by
  have hplain : ∀ c ∈ name.toList, Unicode.IsPlain c := fun c hc => (hname c hc).1
  have hsolid : ∀ c ∈ name.toList, Text.isBlank c = false := fun c hc => (hname c hc).2
  rw [split, htrim]
  generalize line.toList = cs at h
  cases h with
  | @alone word hword =>
      simp only [Text.splitBlank_of_not_isBlank (Text.isBlank_of_map_toLower hword hsolid)]
      rw [(Unicode.lower_eq_iff hplain).mpr hword, String.ofList_toList]
  | @behind word args blank hword hblank =>
      simp only [Text.splitBlank_append_cons (Text.isBlank_of_map_toLower hword hsolid) hblank]
      rw [(Unicode.lower_eq_iff hplain).mpr hword, String.ofList_toList]

theorem Calls.head? {name : String} {cs args : List Char} (h : Calls name cs args) :
    cs.head? = some '/' := by
  cases h with
  | alone => rfl
  | behind => rfl

end Command

def Persona.command : Persona → String
  | .johny => "dive"
  | .tony => "deep"

theorem Persona.isName_command (p : Persona) : Command.IsName p.command := by
  cases p <;> decide

namespace Builtin

theorem get?_command (p : Persona) :
    ∃ description, registry.get? p.command = some (ask p.command description p) := by
  cases p <;> exact ⟨_, rfl⟩

variable {S : Surroundings} {args : String} {s : Session}

theorem recorded_ofOutcome (o : Outcome) : (Answer.ofOutcome o).recorded = false := by
  cases o <;> rfl

theorem recorded_shellAnswer (o : ShellOutcome) : (shellAnswer o).recorded = false := by
  cases o <;> rfl

theorem recorded_jobsAnswer (events : List JobEvent) (running : List (Nat × String)) :
    (jobsAnswer events running).recorded = false := by
  simp only [jobsAnswer]
  split
  · rfl
  · split <;> rfl

theorem recorded_of_mem_quiet {c : Command} (h : c ∈ quiet) :
    (c.run S args s).1.recorded = false := by
  simp only [quiet, List.mem_cons, List.not_mem_nil, or_false] at h
  rcases h with rfl | rfl | rfl | rfl | rfl | rfl | rfl | rfl | rfl | rfl | rfl
  · rfl
  · rfl
  · simp only [bg]
    split <;> rfl
  · exact recorded_jobsAnswer _ _
  · exact recorded_ofOutcome _
  · simp only [history]
    split
    · rfl
    · exact recorded_ofOutcome _
  · simp only [search]
    split
    · rfl
    · exact recorded_ofOutcome _
  · simp only [last]
    split <;> rfl
  · simp only [sessions]
    split <;> rfl
  · simp only [evaluate]
    split <;> rfl
  · rfl

theorem recorded_shell : (shell.run S args s).1.recorded = false := by
  simp only [shell]
  split
  · rfl
  · exact recorded_shellAnswer _

end Builtin

namespace Session

/-- A line asks a persona something: with the persona's command and arguments that are not blank, or,
where the persona listens, with anything that is no command. -/
inductive Asks (persona : Option Persona) (line : String) : Persona → String → Prop where
  | command {p : Persona} {word args : List Char} {blank : Char} :
      line.toList = '/' :: (word ++ blank :: args) → word.map Char.toLower = p.command.toList →
      Text.isBlank blank = true → Text.trim args ≠ [] →
      Asks persona line p (String.ofList (Text.trim args))
  | listening {p : Persona} :
      persona = some p → line.toList.head? ≠ some '/' → Asks persona line p line

variable {S : Surroundings} {persona : Option Persona} {line text : String} {p : Persona} {s : Session}

theorem answerTo_of_calls {name line : String} {args : List Char} {c : Command}
    (hname : Command.IsName name) (hc : Builtin.registry.get? name = some c)
    (htrim : Text.trim line.toList = line.toList) (h : Command.Calls name line.toList args) :
    answerTo Builtin.registry S persona line s = c.run S (String.ofList args) s := by
  simp only [answerTo, h.head?, if_true, Registry.dispatch,
    Command.split_of_calls hname htrim h, hc]

theorem answerTo_of_asks (htrim : Text.trim line.toList = line.toList) (h : Asks persona line p text) :
    answerTo Builtin.registry S persona line s = s.ask S p text := by
  cases h with
  | @command word args blank hline hword hblank hargs =>
      have hcalls : Command.Calls p.command line.toList (Text.trim args) := by
        rw [hline]
        exact Command.Calls.behind hword hblank
      obtain ⟨description, hget⟩ := Builtin.get?_command p
      rw [answerTo_of_calls p.isName_command hget htrim hcalls]
      simp [Builtin.ask, hargs]
  | listening hpersona hslash => simp [answerTo, hslash, hpersona]

theorem args_eq_empty_of_not_asks (htrim : Text.trim line.toList = line.toList)
    (hslash : line.toList.head? = some '/') {args : String}
    (hsplit : Command.split line = (p.command, args)) (h : ∀ p text, ¬Asks persona line p text) :
    args = "" := by
  by_contra hargs
  obtain ⟨word, blank, rest, hline, hblank, hname, rfl⟩ :=
    Command.of_split_eq htrim hslash hsplit hargs
  have hword : Unicode.lower word = p.command.toList := by rw [hname, String.toList_ofList]
  have hplain : ∀ c ∈ p.command.toList, Unicode.IsPlain c := fun c hc => (p.isName_command c hc).1
  refine h p _ (.command hline ((Unicode.lower_eq_iff hplain).mp hword) hblank ?_)
  simpa using hargs

end Session

end Logbook
