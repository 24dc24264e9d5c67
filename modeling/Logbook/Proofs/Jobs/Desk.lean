import Logbook.Proofs.Jobs.Trace

namespace Logbook

namespace JobEvent

def of (id : Nat) (events : List JobEvent) : List JobEvent :=
  events.filter fun e => e.id = id

@[simp] theorem of_append (id : Nat) (l l' : List JobEvent) : of id (l ++ l') = of id l ++ of id l' :=
  List.filter_append l l'

theorem of_eq_nil {id : Nat} {events : List JobEvent} (h : ∀ e ∈ events, e.id ≠ id) :
    of id events = [] := by
  simpa [of] using h

theorem of_eq_self {id : Nat} {events : List JobEvent} (h : ∀ e ∈ events, e.id = id) :
    of id events = events := by
  simpa [of] using h

end JobEvent

namespace Job

open JobAction

def take (a : JobAction) (j : Job) : Job :=
  { j with
    pending := j.pending ++ (line? j.id a).toList
    outcome := j.outcome.or (outcome? j.id a) }

theorem id_of_mem_events {j : Job} {e : JobEvent} (h : e ∈ j.events) : e.id = j.id := by
  simp only [events, List.mem_append, List.mem_map] at h
  rcases h with ⟨line, -, rfl⟩ | ⟨outcome, -, rfl⟩ <;> rfl

theorem rest?_eq_some {j j' : Job} (h : j.rest? = some j') :
    j.outcome = none ∧ j' = { j with pending := [] } := by
  rw [rest?] at h
  split at h
  · exact ⟨‹_›, (Option.some.inj h).symm⟩
  · cases h

theorem take_of_ne {a : JobAction} {j : Job} (h : ∀ s, a = .step s → s.id ≠ j.id) :
    j.take a = j := by
  obtain ⟨hline, houtcome⟩ := eq_none_of_ne h
  simp [take, hline, houtcome]

theorem of_flatMap_events {jobs : List Job} (h : jobs.Pairwise fun i j => i.id < j.id) {j : Job}
    (hj : j ∈ jobs) : JobEvent.of j.id (jobs.flatMap events) = j.events := by
  have hnil : ∀ {l : List Job}, (∀ i ∈ l, i.id ≠ j.id) → JobEvent.of j.id (l.flatMap events) = [] := by
    intro l hl
    apply JobEvent.of_eq_nil
    intro e he
    obtain ⟨i, hi, he⟩ := List.mem_flatMap.mp he
    rw [id_of_mem_events he]
    exact hl i hi
  obtain ⟨front, back, rfl⟩ := List.append_of_mem hj
  obtain ⟨-, hback, hfront⟩ := List.pairwise_append.mp h
  rw [List.flatMap_append, List.flatMap_cons, JobEvent.of_append, JobEvent.of_append,
    hnil fun i hi => (hfront i hi j (by simp)).ne,
    hnil fun i hi => (List.rel_of_pairwise_cons hback hi).ne',
    JobEvent.of_eq_self fun e he => id_of_mem_events he, List.nil_append, List.append_nil]

theorem pairwise_flatMap_events {jobs : List Job} (h : jobs.Pairwise fun i j => i.id < j.id) :
    (jobs.flatMap events).Pairwise fun d e => d.id ≤ e.id := by
  rw [List.pairwise_flatMap]
  constructor
  · intro j _
    apply List.pairwise_of_forall_mem_list
    intro d hd e he
    rw [id_of_mem_events hd, id_of_mem_events he]
  · refine h.imp ?_
    intro i j hlt d hd e he
    rw [id_of_mem_events hd, id_of_mem_events he]
    exact hlt.le

end Job

theorem Jobs.step_eq_take {js : Jobs} {s : JobStep}
    (h : ∀ j ∈ js.jobs, j.id = s.id → j.outcome = none) :
    js.step s = { js with jobs := js.jobs.map (Job.take (.step s)) } := by
  cases s with
  | output id line =>
      simp only [step, update, Jobs.mk.injEq, true_and]
      refine List.map_congr_left fun j _ => ?_
      split
      · simp_all [Job.take, JobAction.line?, JobAction.outcome?]
      · exact (Job.take_of_ne fun _ hs => by cases hs; exact Ne.symm ‹_›).symm
  | finish id outcome =>
      simp only [step, update, Jobs.mk.injEq, true_and]
      refine List.map_congr_left fun j hj => ?_
      split
      · simp [Job.take, JobAction.line?, JobAction.outcome?, h j hj ‹_›, ‹j.id = id›]
      · exact (Job.take_of_ne fun _ hs => by cases hs; exact Ne.symm ‹_›).symm

/-- A table of jobs, the numbers it has given out, and what has been told each time it was asked. -/
structure JobDesk where
  jobs : Jobs := .empty
  numbers : List Nat := []
  told : List (List JobEvent) := []

namespace JobDesk

open JobAction

def act (d : JobDesk) : JobAction → JobDesk
  | .spawn command =>
      let (id, jobs) := d.jobs.spawn command
      { d with jobs, numbers := d.numbers ++ [id] }
  | .step s => { d with jobs := d.jobs.step s }
  | .poll =>
      let (events, jobs) := d.jobs.poll
      { d with jobs, told := d.told ++ [events] }

def run (as : List JobAction) : JobDesk :=
  as.foldl act {}

/-- All that has been told of a job, in order. -/
def toldOf (id : Nat) (d : JobDesk) : List JobEvent :=
  JobEvent.of id d.told.flatten

theorem run_concat (as : List JobAction) (a : JobAction) : run (as ++ [a]) = (run as).act a := by
  simp [run]

theorem toldOf_act_poll (id : Nat) (d : JobDesk) :
    (d.act .poll).toldOf id = d.toldOf id ++ JobEvent.of id (d.jobs.jobs.flatMap Job.events) := by
  simp [act, toldOf, Jobs.poll]

/-- What a job of the table has and what has been told of it make up its trace. -/
structure Keeps (d : JobDesk) (as : List JobAction) (j : Job) : Prop where
  command : commandOf? j.id as = some j.command
  outcome : j.outcome = ended? j.id as
  written : d.toldOf j.id ++ j.pending.map (.output j.id) = (written j.id as).map (.output j.id)

/-- The table has the jobs that have been started and whose ends have not been told. -/
structure Agrees (d : JobDesk) (as : List JobAction) : Prop where
  last : d.jobs.last = (spawned as).length
  numbers : d.numbers = List.range' 1 (spawned as).length
  ascending : d.jobs.jobs.Pairwise fun i j => i.id < j.id
  keeps : ∀ j ∈ d.jobs.jobs, d.Keeps as j
  forgotten : ∀ id, (∀ j ∈ d.jobs.jobs, j.id ≠ id) →
    d.toldOf id = due id as ∧ ((commandOf? id as).isSome = true → ended? id as ≠ none)
  grouped : ∀ events ∈ d.told, events.Pairwise fun e e' => e.id ≤ e'.id

namespace Keeps

variable {d : JobDesk} {as : List JobAction} {j : Job}

theorem toldOf_append_events (h : d.Keeps as j) : d.toldOf j.id ++ j.events = due j.id as := by
  rw [Job.events, ← List.append_assoc, h.written, h.outcome, due]

theorem take (h : d.Keeps as j) (a : JobAction) {e : JobDesk} (htold : e.told = d.told) :
    e.Keeps (as ++ [a]) (j.take a) where
  command := (commandOf?_concat a (Option.isSome_of_eq_some h.command)).trans h.command
  outcome := by simp only [Job.take, ended?_concat, h.outcome]
  written := by
    have hwritten := h.written
    rw [toldOf] at hwritten ⊢
    simp only [Job.take, htold, written_concat, List.map_append, ← List.append_assoc, hwritten]

end Keeps

namespace Agrees

variable {d : JobDesk} {as : List JobAction}

theorem nil : Agrees {} [] where
  last := rfl
  numbers := rfl
  ascending := List.Pairwise.nil
  keeps := by simp [Jobs.empty]
  forgotten := fun _ _ => ⟨rfl, by simp [commandOf?, spawned]⟩
  grouped := by simp

theorem id_le_last (h : d.Agrees as) {j : Job} (hj : j ∈ d.jobs.jobs) : j.id ≤ d.jobs.last := by
  rw [h.last]
  exact (commandOf?_isSome_iff.mp (Option.isSome_of_eq_some (h.keeps j hj).command)).2

theorem spawn (h : d.Agrees as) (htrace : IsTrace as) (command : String) :
    (d.act (.spawn command)).Agrees (as ++ [.spawn command]) := by
  have hspawned : (spawned (as ++ [.spawn command])).length = (spawned as).length + 1 := by
    simp [spawned_concat, command?]
  have hother : ∀ id s, JobAction.spawn command = .step s → s.id ≠ id := by
    intro id s hs
    cases hs
  have hquiet : ∀ id, written id (as ++ [.spawn command]) = written id as ∧
      ended? id (as ++ [.spawn command]) = ended? id as := by
    intro id
    obtain ⟨hline, houtcome⟩ := eq_none_of_ne (hother id)
    simp [written_concat, ended?_concat, hline, houtcome]
  have hnew : ∀ j ∈ d.jobs.jobs, j.id ≠ d.jobs.last + 1 := fun j hj =>
    (Nat.lt_succ_of_le (h.id_le_last hj)).ne
  have hnone : commandOf? (d.jobs.last + 1) as = none := by
    rw [← Option.not_isSome_iff_eq_none, commandOf?_isSome_iff, h.last]
    omega
  obtain ⟨hwritten, hended⟩ := silent_of_commandOf?_eq_none htrace hnone
  have htold : d.toldOf (d.jobs.last + 1) = [] := by
    rw [(h.forgotten _ hnew).1, due, hwritten, hended]
    rfl
  refine ⟨?_, ?_, ?_, ?_, ?_, h.grouped⟩
  · rw [hspawned, ← h.last]
    rfl
  · rw [hspawned, List.range'_1_concat, ← h.numbers, ← h.last, Nat.add_comm]
    rfl
  · refine List.pairwise_append.mpr ⟨h.ascending, List.pairwise_singleton _ _, ?_⟩
    intro i hi j hj
    obtain rfl := List.mem_singleton.mp hj
    exact Nat.lt_succ_of_le (h.id_le_last hi)
  · intro j hj
    rcases List.mem_append.mp hj with hj | hj
    · have hkeeps := (h.keeps j hj).take (.spawn command) (e := d.act (.spawn command)) rfl
      rwa [Job.take_of_ne (hother j.id)] at hkeeps
    · obtain rfl := List.mem_singleton.mp hj
      refine ⟨?_, ?_, ?_⟩
      · rw [h.last]
        exact commandOf?_concat_spawn as command
      · exact (hended ▸ (hquiet _).2).symm
      · rw [(hquiet _).1, hwritten]
        exact (List.append_nil _).trans htold
  · intro id hid
    obtain ⟨hold, hends⟩ := h.forgotten id fun j hj => hid j (List.mem_append_left _ hj)
    rw [due, (hquiet id).1, (hquiet id).2]
    refine ⟨hold, fun hsome => hends ?_⟩
    have hne : d.jobs.last + 1 ≠ id := hid _ (List.mem_append_right _ (List.mem_singleton_self _))
    rw [commandOf?_isSome_iff, hspawned] at hsome
    rw [commandOf?_isSome_iff]
    have := h.last
    omega

theorem step (h : d.Agrees as) {s : JobStep} (hs : IsDue as (.step s)) :
    (d.act (.step s)).Agrees (as ++ [.step s]) := by
  obtain ⟨hstarted, hrunning⟩ := hs
  have hspawned : spawned (as ++ [.step s]) = spawned as := by simp [spawned_concat, command?]
  have hact : d.act (.step s) =
      { d with jobs := { d.jobs with jobs := d.jobs.jobs.map (Job.take (.step s)) } } := by
    rw [act, Jobs.step_eq_take]
    rintro j hj hid
    rw [(h.keeps j hj).outcome, hid, hrunning]
  rw [hact]
  refine ⟨by rw [hspawned]; exact h.last, by rw [hspawned]; exact h.numbers, ?_, ?_, ?_, h.grouped⟩
  · exact List.pairwise_map.mpr h.ascending
  · intro j hj
    obtain ⟨i, hi, rfl⟩ := List.mem_map.mp hj
    exact (h.keeps i hi).take _ rfl
  · intro id hid
    have hgone : ∀ j ∈ d.jobs.jobs, j.id ≠ id := fun j hj =>
      hid (j.take (.step s)) (List.mem_map_of_mem hj)
    obtain ⟨htold, hends⟩ := h.forgotten id hgone
    have hother : ∀ s', JobAction.step s = .step s' → s'.id ≠ id := by
      rintro s' heq rfl
      cases heq
      exact hends hstarted hrunning
    obtain ⟨hline, houtcome⟩ := eq_none_of_ne hother
    rw [due, written_concat, ended?_concat, hline, houtcome, commandOf?_concat_of_command?_eq_none rfl]
    simpa using ⟨htold, hends⟩

theorem toldOf_job (h : d.Agrees as) {j : Job} (hj : j ∈ d.jobs.jobs) :
    (d.act .poll).toldOf j.id = due j.id as := by
  rw [toldOf_act_poll, Job.of_flatMap_events h.ascending hj, (h.keeps j hj).toldOf_append_events]

theorem toldOf_act_poll (h : d.Agrees as) (id : Nat) : (d.act .poll).toldOf id = due id as := by
  by_cases hgone : ∀ j ∈ d.jobs.jobs, j.id ≠ id
  · rw [JobDesk.toldOf_act_poll, (h.forgotten id hgone).1, JobEvent.of_eq_nil, List.append_nil]
    intro e he
    obtain ⟨j, hj, he⟩ := List.mem_flatMap.mp he
    rw [Job.id_of_mem_events he]
    exact hgone j hj
  · push Not at hgone
    obtain ⟨j, hj, rfl⟩ := hgone
    exact h.toldOf_job hj

theorem poll (h : d.Agrees as) : (d.act .poll).Agrees (as ++ [.poll]) := by
  have hspawned : spawned (as ++ [.poll]) = spawned as := by simp [spawned_concat, command?]
  have hquiet : ∀ id, written id (as ++ [.poll]) = written id as ∧
      ended? id (as ++ [.poll]) = ended? id as ∧ commandOf? id (as ++ [.poll]) = commandOf? id as := by
    intro id
    rw [commandOf?_concat_of_command?_eq_none rfl]
    simp [written_concat, ended?_concat, line?, outcome?]
  have hdue : ∀ id, due id (as ++ [.poll]) = due id as := by
    intro id
    rw [due, (hquiet id).1, (hquiet id).2.1, due]
  refine ⟨by rw [hspawned]; exact h.last, by rw [hspawned]; exact h.numbers, ?_, ?_, ?_, ?_⟩
  · refine List.Pairwise.filterMap _ ?_ h.ascending
    intro i j hlt i' hi j' hj
    rw [(Job.rest?_eq_some hi).2, (Job.rest?_eq_some hj).2]
    exact hlt
  · intro j' hj'
    obtain ⟨j, hj, hrest⟩ := List.mem_filterMap.mp hj'
    obtain ⟨hnone, rfl⟩ := Job.rest?_eq_some hrest
    have hkeeps := h.keeps j hj
    refine ⟨(hquiet _).2.2.trans hkeeps.command, hkeeps.outcome.trans (hquiet _).2.1.symm, ?_⟩
    rw [(hquiet _).1]
    dsimp only
    rw [h.toldOf_job hj, due, ← hkeeps.outcome, hnone]
    simp
  · intro id hid
    rw [hdue, (hquiet id).2.1, (hquiet id).2.2]
    refine ⟨h.toldOf_act_poll id, ?_⟩
    by_cases hgone : ∀ j ∈ d.jobs.jobs, j.id ≠ id
    · exact (h.forgotten id hgone).2
    · push Not at hgone
      obtain ⟨j, hj, rfl⟩ := hgone
      intro _ hnone
      rw [← (h.keeps j hj).outcome] at hnone
      exact hid { j with pending := [] } (List.mem_filterMap.mpr ⟨j, hj, by rw [Job.rest?, hnone]⟩) rfl
  · intro events hevents
    rcases List.mem_append.mp hevents with hevents | hevents
    · exact h.grouped events hevents
    · obtain rfl := List.mem_singleton.mp hevents
      exact Job.pairwise_flatMap_events h.ascending

theorem toldOf_isPrefix (h : d.Agrees as) (id : Nat) : d.toldOf id <+: due id as := by
  rw [← h.toldOf_act_poll id, JobDesk.toldOf_act_poll]
  exact List.prefix_append _ _

theorem mem_running (h : d.Agrees as) {id : Nat} {command : String} :
    (id, command) ∈ d.jobs.running ↔ commandOf? id as = some command ∧ ended? id as = none := by
  simp only [Jobs.running, List.mem_map, List.mem_filter, Job.isRunning, Option.isNone_iff_eq_none,
    Prod.mk.injEq]
  constructor
  · rintro ⟨j, ⟨hj, hnone⟩, rfl, rfl⟩
    exact ⟨(h.keeps j hj).command, (h.keeps j hj).outcome ▸ hnone⟩
  · rintro ⟨hcommand, hended⟩
    by_contra hnot
    refine (h.forgotten id ?_).2 (Option.isSome_of_eq_some hcommand) hended
    rintro j hj rfl
    obtain rfl := Option.some.inj ((h.keeps j hj).command.symm.trans hcommand)
    exact hnot ⟨j, ⟨hj, (h.keeps j hj).outcome.trans hended⟩, rfl, rfl⟩

theorem ascending_running (h : d.Agrees as) :
    d.jobs.running.Pairwise fun r r' => r.1 < r'.1 :=
  List.pairwise_map.mpr (h.ascending.sublist List.filter_sublist)

theorem finished_not_told (h : d.Agrees as) {j : Job} (hj : j ∈ d.jobs.jobs) (outcome : ShellOutcome) :
    .finished j.id outcome ∉ d.told.flatten := by
  intro hmem
  have htold : .finished j.id outcome ∈ d.toldOf j.id :=
    List.mem_filter.mpr ⟨hmem, by simp [JobEvent.id]⟩
  have hline := List.mem_append_left (j.pending.map (.output j.id)) htold
  rw [(h.keeps j hj).written] at hline
  simp at hline

theorem isEmpty_iff (h : d.Agrees as) :
    d.jobs.isEmpty = true ↔
      ∀ id, 1 ≤ id → id ≤ (spawned as).length →
        ∃ outcome, .finished id outcome ∈ d.told.flatten := by
  rw [Jobs.isEmpty, List.isEmpty_iff]
  constructor
  · intro hnil id hpos hle
    obtain ⟨htold, hends⟩ := h.forgotten id (by simp [hnil])
    obtain ⟨outcome, houtcome⟩ :=
      Option.ne_none_iff_exists'.mp (hends (commandOf?_isSome_iff.mpr ⟨hpos, hle⟩))
    refine ⟨outcome, List.mem_of_mem_filter (p := fun e => e.id = id) ?_⟩
    rw [← JobEvent.of, ← toldOf, htold, due, houtcome]
    simp
  · intro hall
    rw [List.eq_nil_iff_forall_not_mem]
    intro j hj
    obtain ⟨hpos, hle⟩ :=
      commandOf?_isSome_iff.mp (Option.isSome_of_eq_some (h.keeps j hj).command)
    obtain ⟨outcome, hmem⟩ := hall j.id hpos hle
    exact h.finished_not_told hj outcome hmem

theorem act (h : d.Agrees as) {a : JobAction} (htrace : IsTrace (as ++ [a])) :
    (d.act a).Agrees (as ++ [a]) := by
  obtain ⟨hbefore, ha⟩ := isTrace_concat.mp htrace
  cases a with
  | spawn command => exact h.spawn hbefore command
  | step s => exact h.step ha
  | poll => exact h.poll

end Agrees

theorem agrees_run {as : List JobAction} (h : IsTrace as) : (run as).Agrees as := by
  induction as using List.reverseRecOn with
  | nil => exact Agrees.nil
  | append_singleton as a ih =>
      rw [run_concat]
      exact (ih (isTrace_concat.mp h).1).act h

/-- Jobs get the numbers from one on. What has been told of a job is the beginning of all there is to
tell of it, and all of it right after the jobs are asked for; each answer goes through the jobs in
order. The running jobs are those that have been started and have not ended, and the table is empty when
the end of every job has been told. -/
theorem run_tells_all_once (as : List JobAction) (h : IsTrace as) :
    (run as).numbers = List.range' 1 (spawned as).length ∧
      (∀ id, (run as).toldOf id <+: due id as) ∧
      (∀ id, (run (as ++ [.poll])).toldOf id = due id as) ∧
      (∀ events ∈ (run as).told, events.Pairwise fun e e' => e.id ≤ e'.id) ∧
      ((run as).jobs.running.Pairwise fun r r' => r.1 < r'.1) ∧
      (∀ id command, (id, command) ∈ (run as).jobs.running ↔
        commandOf? id as = some command ∧ ended? id as = none) ∧
      ((run as).jobs.isEmpty = true ↔
        ∀ id, 1 ≤ id → id ≤ (spawned as).length →
          ∃ outcome, .finished id outcome ∈ (run as).told.flatten) := by
  have hagrees := agrees_run h
  refine ⟨hagrees.numbers, hagrees.toldOf_isPrefix, ?_, hagrees.grouped, hagrees.ascending_running,
    fun _ _ => hagrees.mem_running, hagrees.isEmpty_iff⟩
  intro id
  rw [run_concat]
  exact hagrees.toldOf_act_poll id

/-- Two jobs. The second one ends first, and a line of the first one waits when the jobs are asked
for. -/
def twoJobs : List JobAction :=
  [.spawn "sleep 1; echo a; false", .spawn "echo b", .step (.output 2 "b"), .poll,
    .step (.finish 2 (.completed "b\n")), .step (.output 1 "a"), .poll,
    .step (.finish 1 (.timedOut 300000))]

theorem two_jobs_told_once :
    IsTrace twoJobs ∧ (run twoJobs).numbers = [1, 2] ∧
      (run (twoJobs ++ [.poll])).toldOf 1 = [.output 1 "a", .finished 1 (.timedOut 300000)] ∧
      (run (twoJobs ++ [.poll])).toldOf 2 = [.output 2 "b", .finished 2 (.completed "b\n")] := by
  have htrace : IsTrace twoJobs := by decide
  obtain ⟨hnumbers, -, hdue, -⟩ := run_tells_all_once twoJobs htrace
  exact ⟨htrace, hnumbers, hdue 1, hdue 2⟩

end JobDesk

end Logbook
