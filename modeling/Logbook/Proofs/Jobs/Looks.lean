import Logbook.Command.Builtin
import Logbook.Proofs.Jobs.Desk

/-!
The two looks at a table of jobs when a session is asked for them: one at what there is to tell, and one
at the jobs that run. Jobs may go on in between. The answer that there are no jobs says that all had been
told at the first look and that none runs at the second one; a job that has ended in between is still to
be told of.
-/

namespace Logbook

namespace Jobs

def entries (js : Jobs) : List (Nat × String) :=
  js.jobs.map fun j => (j.id, j.command)

theorem entries_step (js : Jobs) (s : JobStep) : (js.step s).entries = js.entries := by
  cases s with
  | output id line =>
      simp only [step, update, entries, List.map_map]
      apply List.map_congr_left
      intro j _
      rw [Function.comp_apply]
      split <;> rfl
  | finish id outcome =>
      simp only [step, update, entries, List.map_map]
      apply List.map_congr_left
      intro j _
      rw [Function.comp_apply]
      split <;> rfl

theorem entries_foldl_step (js : Jobs) (during : List JobStep) :
    (during.foldl step js).entries = js.entries := by
  induction during generalizing js with
  | nil => rfl
  | cons s during ih => rw [List.foldl_cons, ih, entries_step]

theorem entries_poll (js : Jobs) : js.poll.2.entries = js.running := by
  simp only [poll, entries, running, List.map_filterMap]
  rw [← List.filterMap_eq_filter, List.map_filterMap]
  apply List.filterMap_congr
  intro j _
  cases h : j.outcome <;> simp [Job.rest?, Job.isRunning, h]

end Jobs

namespace JobEvent

theorem eq_nil_of_of_eq_nil {events : List JobEvent} (h : ∀ id, of id events = []) : events = [] := by
  rw [List.eq_nil_iff_forall_not_mem]
  intro e he
  have hmem : e ∈ of e.id events := List.mem_filter.mpr ⟨he, by simp⟩
  rw [h] at hmem
  exact List.not_mem_nil hmem

end JobEvent

namespace Builtin

theorem head?_runningText (r : Nat × String) (running : List (Nat × String)) :
    ("\n".intercalate ((r :: running).map fun (id, command) =>
      "[" ++ toString id ++ "] running: " ++ command)).toList.head? = some '[' := by
  cases running with
  | nil =>
      rw [List.map_cons, List.map_nil, String.intercalate_singleton]
      simp [String.toList_append]
  | cons r' running =>
      rw [List.map_cons, List.map_cons, String.intercalate_cons_cons]
      simp [String.toList_append]

theorem jobsAnswer_eq_iff {events : List JobEvent} {running : List (Nat × String)} :
    jobsAnswer events running = .info "no jobs" ↔ events = [] ∧ running = [] := by
  constructor
  · intro h
    cases events with
    | cons e events => simp [jobsAnswer, Answer.success, Answer.info] at h
    | nil =>
        cases running with
        | nil => exact ⟨rfl, rfl⟩
        | cons r running =>
            have htext := congrArg (fun a => a.text.toList.head?) h
            have hhead := head?_runningText r running
            exact absurd (hhead.symm.trans htext) (by decide)
  · rintro ⟨rfl, rfl⟩
    rfl

end Builtin

namespace JobDesk

open JobAction

variable {as : List JobAction} {during : List JobStep}

/-- The first look, and what the jobs do until the second one, are parts of a trace. -/
theorem run_looks (as : List JobAction) (during : List JobStep) :
    run (as ++ .poll :: during.map .step) =
      { (run as).act .poll with jobs := (Builtin.tellJobs during (run as).jobs).2 } := by
  induction during using List.reverseRecOn with
  | nil =>
      rw [List.map_nil, run_concat]
      rfl
  | append_singleton during s ih =>
      rw [List.map_append, List.map_singleton, ← List.cons_append, ← List.append_assoc, run_concat,
        ih, act]
      simp [Builtin.tellJobs]

theorem written_looks (id : Nat) (as : List JobAction) (during : List JobStep) :
    written id (as ++ .poll :: during.map .step) = written id as ++ written id (during.map .step) :=
  written_append id as _

theorem ended?_looks (id : Nat) (as : List JobAction) (during : List JobStep) :
    ended? id (as ++ .poll :: during.map .step) =
      (ended? id as).or (ended? id (during.map .step)) :=
  ended?_append id as _

theorem commandOf?_looks (id : Nat) (as : List JobAction) (during : List JobStep) :
    commandOf? id (as ++ .poll :: during.map .step) = commandOf? id as := by
  have hnone : spawned (.poll :: during.map .step) = [] := by
    simp [spawned, command?]
  rw [commandOf?, commandOf?, spawned, List.filterMap_append, ← spawned, ← spawned, hnone,
    List.append_nil]

namespace Agrees

theorem events_eq_nil_iff (h : (run as).Agrees as) :
    (run as).jobs.poll.1 = [] ↔ ∀ id, (run as).toldOf id = due id as := by
  have hdue : ∀ id, (run as).toldOf id ++ JobEvent.of id (run as).jobs.poll.1 = due id as := by
    intro id
    rw [← h.toldOf_act_poll id, JobDesk.toldOf_act_poll, Jobs.poll]
  constructor
  · intro hnil id
    rw [← hdue id, hnil]
    exact (List.append_nil _).symm
  · intro htold
    apply JobEvent.eq_nil_of_of_eq_nil
    intro id
    have hsame := hdue id
    rw [← htold id] at hsame
    exact List.append_right_eq_self.mp hsame

theorem running_eq_nil_iff {d : JobDesk} (h : d.Agrees as) :
    d.jobs.running = [] ↔ ∀ id, (commandOf? id as).isSome = true → ended? id as ≠ none := by
  rw [List.eq_nil_iff_forall_not_mem]
  constructor
  · intro hnone id hsome hended
    obtain ⟨command, hcommand⟩ := Option.isSome_iff_exists.mp hsome
    exact hnone (id, command) (h.mem_running.mpr ⟨hcommand, hended⟩)
  · rintro hall ⟨id, command⟩ hmem
    obtain ⟨hcommand, hended⟩ := h.mem_running.mp hmem
    exact hall id (Option.isSome_of_eq_some hcommand) hended

/-- What is left in the table has been running at the first look, and only what it has done since then is
to be told. -/
theorem left (h : (run as).Agrees as)
    (hlooks : (run (as ++ .poll :: during.map .step)).Agrees (as ++ .poll :: during.map .step))
    {j : Job} (hj : j ∈ (Builtin.tellJobs during (run as).jobs).2.jobs) :
    ended? j.id as = none ∧ j.outcome = ended? j.id (during.map .step) ∧
      j.events = due j.id (during.map .step) := by
  have htold : (run (as ++ .poll :: during.map .step)).toldOf j.id = due j.id as := by
    rw [← h.toldOf_act_poll j.id, run_looks]
    rfl
  have hmem : j ∈ (run (as ++ .poll :: during.map .step)).jobs.jobs := by
    rw [run_looks]
    exact hj
  have hended : ended? j.id as = none := by
    by_contra hsome
    obtain ⟨outcome, houtcome⟩ := Option.ne_none_iff_exists'.mp hsome
    have hdue : .finished j.id outcome ∈ due j.id as := by simp [due, houtcome]
    rw [← htold] at hdue
    exact hlooks.finished_not_told hmem outcome (List.mem_of_mem_filter hdue)
  obtain ⟨-, houtcome, hwritten⟩ := hlooks.keeps j hmem
  rw [ended?_looks, hended, Option.none_or] at houtcome
  refine ⟨hended, houtcome, ?_⟩
  rw [htold, due, hended, written_looks, List.map_append] at hwritten
  rw [Job.events, houtcome, due]
  congr 1
  simpa using hwritten

end Agrees

theorem isEmpty_tellJobs (during : List JobStep) (js : Jobs) :
    (Builtin.tellJobs during js).2.isEmpty = true ↔ js.running = [] := by
  rw [← Jobs.entries_poll, ← Jobs.entries_foldl_step _ during, Jobs.isEmpty, List.isEmpty_iff,
    Jobs.entries, List.map_eq_nil_iff]
  rfl

/-- The answer that there are no jobs is given if all had been told at the first look and every job has
ended by the second one. What is left in the table has run at the first look, and only what it has done in
between is to be told. So the table is empty if no job has ended in between. -/
theorem no_jobs_told_iff (as : List JobAction) (during : List JobStep)
    (h : IsTrace (as ++ .poll :: during.map .step)) :
    let told := Builtin.tellJobs during (run as).jobs
    (told.1 = .info "no jobs" ↔
      (∀ id, (run as).toldOf id = due id as) ∧
        ∀ id, (commandOf? id as).isSome = true → ended? id (as ++ .poll :: during.map .step) ≠ none) ∧
      (∀ j ∈ told.2.jobs, ended? j.id as = none ∧ j.events = due j.id (during.map .step)) ∧
      (told.2.isEmpty = true ↔ ∀ id, (commandOf? id as).isSome = true → ended? id as ≠ none) ∧
      (told.1 = .info "no jobs" → (∀ id, ended? id (during.map .step) = none) →
        told.2.isEmpty = true) := by
  have hbefore := agrees_run (isTrace_of_append h)
  have hlooks := agrees_run h
  have hrunning : (Builtin.tellJobs during (run as).jobs).2.running = [] ↔
      ∀ id, (commandOf? id as).isSome = true →
        ended? id (as ++ .poll :: during.map .step) ≠ none := by
    have hiff := hlooks.running_eq_nil_iff
    simp only [run_looks, commandOf?_looks] at hiff
    exact hiff
  have hanswer : (Builtin.tellJobs during (run as).jobs).1 = .info "no jobs" ↔
      (∀ id, (run as).toldOf id = due id as) ∧
        ∀ id, (commandOf? id as).isSome = true →
          ended? id (as ++ .poll :: during.map .step) ≠ none := by
    rw [← hbefore.events_eq_nil_iff, ← hrunning]
    exact Builtin.jobsAnswer_eq_iff
  refine ⟨hanswer, ?_, ?_, ?_⟩
  · intro j hj
    obtain ⟨hended, -, hevents⟩ := hbefore.left hlooks hj
    exact ⟨hended, hevents⟩
  · rw [isEmpty_tellJobs, hbefore.running_eq_nil_iff]
  · intro hnone hquiet
    rw [isEmpty_tellJobs, hbefore.running_eq_nil_iff]
    intro id hsome hended
    apply (hanswer.mp hnone).2 id hsome
    rw [ended?_looks, hended, hquiet id, Option.none_or]

theorem third_job_left :
    let as := twoJobs ++ [.poll, .spawn "cat"]
    let during := [JobStep.output 3 "c", JobStep.finish 3 (.completed "c\n")]
    let told := Builtin.tellJobs during (run as).jobs
    IsTrace (as ++ .poll :: during.map .step) ∧ told.1 = .info "no jobs" ∧ told.2.isEmpty = false ∧
      ∀ j ∈ told.2.jobs, j.events = due j.id (during.map .step) := by
  intro as during told
  have htrace : IsTrace (as ++ .poll :: during.map .step) := by decide
  obtain ⟨-, hleft, hempty, -⟩ := no_jobs_told_iff as during htrace
  refine ⟨htrace, by decide, ?_, fun j hj => (hleft j hj).2⟩
  rw [Bool.eq_false_iff]
  intro hnone
  exact hempty.mp hnone 3 (by decide) (by decide)

/-- A job that ends between the two looks is neither told of nor among those that run: there are said to
be no jobs, and its end is still to be told. -/
theorem end_between_looks_not_told :
    let as := [JobAction.spawn "true"]
    let during := [JobStep.finish 1 (.completed "")]
    let told := Builtin.tellJobs during (run as).jobs
    IsTrace (as ++ .poll :: during.map .step) ∧ told.1 = .info "no jobs" ∧
      told.2.isEmpty = false ∧ told.2.poll.1 = [.finished 1 (.completed "")] := by
  decide

end JobDesk

end Logbook
