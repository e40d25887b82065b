/-
Coordination.Proofs.Histories — the built-in engine with any number of jobs.

`Proofs.Scripts` says what one job can do. Here jobs are accepted and
canceled at any time, and the engine may be shut down. Jobs go on when time
passes, by the clock of the runner, and each of them may also be given a
turn at any time (`Action.turn`), so that nothing depends on how the clock
goes. A job that ends in its turn has its entry until it takes it out
(`Action.leave`).

The clock lets one task after the other go on and then puts all reports in
the order of time. This changes nothing of what is reported of one job
(`phases_advance`), and what is reported of one job depends on nothing that
is done with another (`phases_alone`).

  §1 Actions — `Action`, `Note`, `actAll`: a history of a runner.
  §2 Tasks   — what tasks report that go on side by side.
  §3 Order   — reports in the order of time.
  §4 Alone   — a job goes on as if it were the only one.
-/
import Coordination.Proofs.Roster
import Coordination.Proofs.Scripts
import Mathlib.Data.List.Sort

namespace Coordination.Job.Runner

/-! ## §1 Actions -/

/-- What is done with a runner. -/
inductive Action where
  | start (request : Request)
  | cancel (job : JobId)
  | shutDown
  /-- Some milliseconds pass. -/
  | pass (ms : Nat)
  /-- A job has its turn, whatever the clock says. -/
  | turn (job : JobId)
  /-- A job takes its entry out. -/
  | leave (job : JobId)

/-- What comes of it. -/
inductive Note where
  | accepted (request : Request)
  | refused (request : Request) (problem : Problem)
  | reported (report : Report)

namespace Note

/-- The jobs that were accepted, in order. -/
def jobs (notes : List Note) : List Request :=
  notes.filterMap fun
    | accepted request => some request
    | _ => none

/-- The jobs that were refused, in order. -/
def refusals (notes : List Note) : List (Request × Problem) :=
  notes.filterMap fun
    | refused request problem => some (request, problem)
    | _ => none

/-- What was reported of a job, in order. -/
def phases (job : JobId) (notes : List Note) : List Phase :=
  notes.filterMap fun
    | reported report => if report.job = job then some report.phase else none
    | _ => none

@[simp] theorem jobs_append (notes more : List Note) :
    jobs (notes ++ more) = jobs notes ++ jobs more := List.filterMap_append

@[simp] theorem refusals_append (notes more : List Note) :
    refusals (notes ++ more) = refusals notes ++ refusals more := List.filterMap_append

@[simp] theorem phases_append (job : JobId) (notes more : List Note) :
    phases job (notes ++ more) = phases job notes ++ phases job more := List.filterMap_append

@[simp] theorem jobs_reported (reports : List Report) : jobs (reports.map reported) = [] := by
  simp [jobs]

@[simp] theorem refusals_reported (reports : List Report) :
    refusals (reports.map reported) = [] := by
  simp [refusals]

theorem phases_reported (job : JobId) (reports : List Report) :
    phases job (reports.map reported) = (reports.filter (·.job = job)).map (·.phase) := by
  induction reports with
  | nil => rfl
  | cons report rest ih =>
    simp only [phases, List.map_cons, List.filterMap_cons] at ih ⊢
    by_cases same : report.job = job <;> simp [same, ih]

end Note

/-- Lets each task go on; also gives what the tasks report, one task after the other. -/
def goOn (f : Task → List Phase × Option Stage) (tasks : List Task) : List Task × List Report :=
  (tasks.filterMap fun task => (f task).2.map fun stage => { task with stage := stage },
    tasks.flatMap fun task => (f task).1.map (Report.mk task.request.job))

/-- Gives a job its turn; also gives what it reports. -/
def turn (runner : Runner) (job : JobId) : Runner × List Report :=
  let (tasks, reports) := goOn (byTurn runner.settings job) runner.tasks
  ({ runner with tasks := tasks }, reports)

/-- Does something; also gives what comes of it. -/
def act (runner : Runner) : Action → Runner × List Note
  | .start request => match runner.accept request with
    | .ok next => (next, [.accepted request])
    | .error problem => (runner, [.refused request problem])
  | .cancel job => (runner.cancel job, [])
  | .shutDown => (runner.shutDown, [])
  | .pass ms =>
    let (next, reports) := runner.advance ms
    (next, reports.map .reported)
  | .turn job =>
    let (next, reports) := runner.turn job
    (next, reports.map .reported)
  | .leave job => (runner.leave job, [])

/-- Does one thing after the other; also gives what comes of it. -/
def actAll (runner : Runner) : List Action → Runner × List Note
  | [] => (runner, [])
  | action :: rest =>
    let (next, notes) := runner.act action
    let (last, more) := next.actAll rest
    (last, notes ++ more)

theorem actAll_append (runner : Runner) (before after : List Action) :
    runner.actAll (before ++ after) =
      (((runner.actAll before).1.actAll after).1,
        (runner.actAll before).2 ++ ((runner.actAll before).1.actAll after).2) := by
  induction before generalizing runner with
  | nil => rfl
  | cons action rest ih => simp only [List.cons_append, actAll, ih, List.append_assoc]

/-- A history of a new runner. -/
def history (settings : Settings) (actions : List Action) : Runner × List Note :=
  Runner.actAll { settings := settings } actions

/-- The jobs that a history would start. -/
def starts (actions : List Action) : List Request :=
  actions.filterMap fun
    | .start request => some request
    | _ => none

@[simp] theorem starts_append (actions more : List Action) :
    starts (actions ++ more) = starts actions ++ starts more := List.filterMap_append

theorem starts_cons (action : Action) (rest : List Action) :
    starts (action :: rest) = starts [action] ++ starts rest :=
  starts_append [action] rest

/-- Whether the engine is shut down by something. -/
def Action.shuts : Action → Bool
  | shutDown => true
  | _ => false

/-! ## §2 Tasks -/

instance : Keyed Task JobId := ⟨fun task => task.request.job⟩

section Tasks

open Roster (keys)

variable {settings : Settings} {f : Task → List Phase × Option Stage} {tasks : List Task}

theorem mem_goOn {task : Task} (h : task ∈ (goOn f tasks).1) :
    ∃ old ∈ tasks, (f old).2 = some task.stage ∧ task.request = old.request ∧
      task.canceled = old.canceled := by
  obtain ⟨old, ho, same⟩ := List.mem_filterMap.1 h
  obtain ⟨stage, hs, rfl⟩ := Option.map_eq_some_iff.1 same
  exact ⟨old, ho, hs, rfl, rfl⟩

theorem goOn_mem {task : Task} {stage : Stage} (ht : task ∈ tasks)
    (left : (f task).2 = some stage) :
    { task with stage := stage } ∈ (goOn f tasks).1 :=
  List.mem_filterMap.2 ⟨task, ht, by rw [left]; rfl⟩

/-- Tasks that go on are among those that there were, in the same order. -/
theorem goOn_requests_sublist (f : Task → List Phase × Option Stage) (tasks : List Task) :
    ((goOn f tasks).1.map (·.request)).Sublist (tasks.map (·.request)) := by
  induction tasks with
  | nil => exact .slnil
  | cons task rest ih =>
    simp only [goOn, List.filterMap_cons] at ih ⊢
    cases (f task).2 with
    | none => exact ih.cons _
    | some stage => exact ih.cons_cons _

/-- What is put together for one job is put together from the tasks of this job. -/
theorem filter_flatMap_job {α : Type} {jobOf : α → JobId} {g : Task → List α}
    (own : ∀ task, ∀ a ∈ g task, jobOf a = task.request.job) (job : JobId) (tasks : List Task) :
    (tasks.flatMap g).filter (jobOf · = job) =
      (tasks.filter (·.request.job = job)).flatMap g := by
  induction tasks with
  | nil => rfl
  | cons task rest ih =>
    rw [List.flatMap_cons, List.filter_append, ih, List.filter_cons]
    by_cases same : task.request.job = job
    · have all : (g task).filter (jobOf · = job) = g task := by
        refine List.filter_eq_self.2 fun a ha => ?_
        simpa [own task a ha] using same
      rw [all, if_pos (by simpa using same), List.flatMap_cons]
    · have none : (g task).filter (jobOf · = job) = [] := by
        refine List.filter_eq_nil_iff.2 fun a ha => ?_
        simpa [own task a ha] using same
      rw [none, if_neg (by simpa using same), List.nil_append]

/-- One job reports what its tasks report. -/
theorem phases_goOn (f : Task → List Phase × Option Stage) (tasks : List Task) (job : JobId) :
    Note.phases job ((goOn f tasks).2.map .reported) =
      (tasks.filter (·.request.job = job)).flatMap fun task => (f task).1 := by
  have own : ∀ task, ∀ report ∈ (f task).1.map (Report.mk task.request.job),
      report.job = task.request.job := by simp
  rw [Note.phases_reported, goOn, filter_flatMap_job own, List.map_flatMap]
  simp [Function.comp_def]

theorem filter_own (apart : (keys tasks).Nodup) {task : Task} (ht : task ∈ tasks) {job : JobId}
    (own : task.request.job = job) : tasks.filter (·.request.job = job) = [task] := by
  subst own
  exact Roster.filter_key apart ht

theorem filter_absent {job : JobId} (absent : job ∉ keys tasks) :
    tasks.filter (·.request.job = job) = [] := by
  refine List.filter_eq_nil_iff.2 ?_
  intro task ht same
  exact absent (Roster.mem_keys.2 ⟨task, ht, of_decide_eq_true same⟩)

/-- Where jobs are apart, one job reports what its task reports. -/
theorem phases_goOn_of_mem (apart : (keys tasks).Nodup) {task : Task} (ht : task ∈ tasks) :
    Note.phases task.request.job ((goOn f tasks).2.map .reported) = (f task).1 := by
  rw [phases_goOn, filter_own apart ht rfl, List.flatMap_singleton]

theorem phases_goOn_of_not_mem {job : JobId} (absent : job ∉ keys tasks) :
    Note.phases job ((goOn f tasks).2.map .reported) = [] := by
  rw [phases_goOn, filter_absent absent, List.flatMap_nil]

/-- The clock lets the tasks go on one after the other, and keeps the times. -/
theorem runTasks_eq (settings : Settings) (now limit : Nat) (tasks : List Task) :
    runTasks settings now limit tasks =
      (tasks.flatMap fun task => (task.run settings now limit).1.map fun timed =>
        ⟨timed.time, ⟨task.request.job, timed.phase⟩⟩,
        (goOn (byClock settings now limit) tasks).1) := by
  induction tasks with
  | nil => rfl
  | cons task rest ih =>
    simp only [runTasks, ih, goOn, byClock]
    cases hs : (task.run settings now limit).2 <;> simp [hs]

end Tasks

/-! ## §3 Order -/

section Order

variable {entries : List TimedReport}

theorem insertReport_of_le {entry : TimedReport}
    (first : ∀ other ∈ entries, entry.time ≤ other.time) :
    insertReport entry entries = entry :: entries := by
  cases entries with
  | nil => rfl
  | cons other rest => rw [insertReport, if_pos (first other List.mem_cons_self)]

theorem sortReports_eq (entries : List TimedReport) :
    sortReports entries = entries.insertionSort (·.time ≤ ·.time) := by
  have insert : ∀ entry sorted, insertReport entry sorted =
      sorted.orderedInsert (·.time ≤ ·.time) entry := by
    intro entry sorted
    induction sorted with
    | nil => rfl
    | cons other rest ih => rw [insertReport, List.orderedInsert_cons, ih]
  rw [sortReports, funext fun entry => funext (insert entry)]
  rfl

theorem sortReports_of_sorted (sorted : entries.Pairwise (·.time ≤ ·.time)) :
    sortReports entries = entries := by
  rw [sortReports_eq, sorted.insertionSort_eq]

theorem sorted_sortReports (entries : List TimedReport) :
    (sortReports entries).Pairwise (·.time ≤ ·.time) := by
  have total : Std.Total fun a b : TimedReport => a.time ≤ b.time :=
    ⟨fun a b => Nat.le_total a.time b.time⟩
  have trans : IsTrans TimedReport fun a b => a.time ≤ b.time :=
    ⟨fun _ _ _ => Nat.le_trans⟩
  rw [sortReports_eq]
  exact List.pairwise_insertionSort _ entries

theorem filter_insertReport (p : TimedReport → Bool) (entry : TimedReport)
    (sorted : entries.Pairwise (·.time ≤ ·.time)) :
    (insertReport entry entries).filter p =
      if p entry then insertReport entry (entries.filter p) else entries.filter p := by
  induction entries with
  | nil => simp [insertReport, List.filter_cons]
  | cons other rest ih =>
    obtain ⟨first, later⟩ := List.pairwise_cons.1 sorted
    rw [insertReport]
    split
    · rename_i before
      have first : ∀ third ∈ (other :: rest).filter p, entry.time ≤ third.time := by
        intro third ht
        rcases List.mem_cons.1 (List.mem_of_mem_filter ht) with rfl | ht
        · exact before
        · exact Nat.le_trans before (first third ht)
      rw [List.filter_cons, insertReport_of_le first]
    · rename_i after
      rw [List.filter_cons, List.filter_cons, ih later]
      cases p other <;> cases p entry <;> simp [insertReport, after]

/-- Reports that are put into order of time are in order also when only some are looked at. -/
theorem filter_sortReports (p : TimedReport → Bool) (entries : List TimedReport) :
    (sortReports entries).filter p = sortReports (entries.filter p) := by
  induction entries with
  | nil => rfl
  | cons entry rest ih =>
    rw [List.filter_cons]
    refine (filter_insertReport p entry (sorted_sortReports rest)).trans ?_
    rw [ih]
    split <;> rfl

end Order

/-- The reports of the tasks of one job are in the order of time. -/
theorem phases_advance (runner : Runner) (ms : Nat) (job : JobId) :
    Note.phases job ((runner.advance ms).2.map .reported) =
      (sortReports ((runner.tasks.filter (·.request.job = job)).flatMap fun task =>
        (task.run runner.settings runner.now (runner.now + ms)).1.map fun timed =>
          ⟨timed.time, ⟨task.request.job, timed.phase⟩⟩)).map (·.report.phase) := by
  have own : ∀ task : Task, ∀ entry ∈
      (task.run runner.settings runner.now (runner.now + ms)).1.map (fun timed =>
        (⟨timed.time, ⟨task.request.job, timed.phase⟩⟩ : TimedReport)),
      entry.report.job = task.request.job := by simp
  rw [← filter_flatMap_job own, ← filter_sortReports, Note.phases_reported, advance, runUntil,
    runTasks_eq]
  simp [List.filter_map, Function.comp_def]

/-- Where jobs are apart, the order of time is also the order in which a task gives its reports. -/
theorem phases_advance_of_apart {runner : Runner} (apart : (Roster.keys runner.tasks).Nodup)
    (reached : ∀ task ∈ runner.tasks, ∀ since, task.stage = .fresh since → since ≤ runner.now)
    (ms : Nat) (job : JobId) :
    Note.phases job ((runner.advance ms).2.map .reported) = Note.phases job
      ((goOn (byClock runner.settings runner.now (runner.now + ms)) runner.tasks).2.map
        .reported) := by
  rw [phases_advance, phases_goOn]
  by_cases had : job ∈ Roster.keys runner.tasks
  · obtain ⟨task, ht, own⟩ := Roster.mem_keys.1 had
    have sorted := sorted_run runner.settings (runner.now + ms) (reached task ht)
    rw [filter_own apart ht own, List.flatMap_singleton, List.flatMap_singleton,
      sortReports_of_sorted (List.pairwise_map.2 sorted)]
    simp [byClock, Function.comp_def]
  · rw [filter_absent had]
    rfl

/-- In whatever order they come, the reports are those that the tasks give. -/
theorem perm_phases_advance (runner : Runner) (ms : Nat) (job : JobId) :
    (Note.phases job ((runner.advance ms).2.map .reported)).Perm (Note.phases job
      ((goOn (byClock runner.settings runner.now (runner.now + ms)) runner.tasks).2.map
        .reported)) := by
  rw [phases_advance, phases_goOn, sortReports_eq]
  refine ((List.perm_insertionSort _ _).map _).trans (.of_eq ?_)
  simp [List.map_flatMap, byClock, Function.comp_def]

/-! ## §4 Alone -/

/-- Whether something is done with a job, or with all of them. -/
def Action.concerns (job : JobId) : Action → Bool
  | .start request => request.job = job
  | .cancel other | .turn other | .leave other => other = job
  | .shutDown | .pass _ => true

/-- The runner as far as one job goes. What a job does, does not depend on the entries. -/
def only (job : JobId) (runner : Runner) : Runner :=
  { runner with tasks := runner.tasks.filter (·.request.job = job), entries := [] }

section Alone

variable {runner other : Runner} {job : JobId} {action : Action}

/-- Where a job takes its entry out, nothing else changes. -/
theorem leave_eq (runner : Runner) (job : JobId) :
    runner.leave job = { runner with entries := (runner.leave job).entries } := by
  unfold leave
  split <;> rfl

theorem only_leave (runner : Runner) (i : JobId) :
    (runner.leave i).only job = runner.only job := by
  rw [leave_eq]
  rfl

theorem goOn_filter (f : Task → List Phase × Option Stage) (tasks : List Task) (job : JobId) :
    (goOn f (tasks.filter (·.request.job = job))).1 =
      (goOn f tasks).1.filter (·.request.job = job) := by
  induction tasks with
  | nil => rfl
  | cons task rest ih =>
    simp only [goOn] at ih ⊢
    by_cases same : task.request.job = job <;> cases hs : (f task).2 <;> simp [same, hs, ih]

/-- A change that leaves the requests alone does not move a task to another job. -/
theorem map_filter {f : Task → Task} (keeps : ∀ task, (f task).request = task.request)
    (tasks : List Task) (job : JobId) :
    (tasks.map f).filter (·.request.job = job) =
      (tasks.filter (·.request.job = job)).map f := by
  simp [List.filter_map, Function.comp_def, keeps]

theorem request_marked (task : Task) (job : JobId) :
    (if task.request.job = job then { task with canceled := true } else task).request =
      task.request := by
  split <;> rfl

theorem byTurn_of_ne {task : Task} (other : task.request.job ≠ job) (settings : Settings) :
    byTurn settings job task = ([], some task.stage) := if_neg other

/-- When the clock moves, the tasks go on, and then those that have ended are taken out. -/
theorem advance_fst (runner : Runner) (ms : Nat) :
    (runner.advance ms).1 =
      { runner with
          tasks := (goOn (byClock runner.settings runner.now (runner.now + ms)) runner.tasks).1
          now := runner.now + ms }.leaveAll := by
  rw [advance, runUntil, runTasks_eq]

/-- What is done with a job has to do with its tasks only. -/
theorem act_only (runner : Runner) (concerned : action.concerns job = true) :
    ((runner.only job).act action).1.only job = (runner.act action).1.only job ∧
      Note.phases job ((runner.only job).act action).2 =
        Note.phases job (runner.act action).2 := by
  cases action with
  | start request =>
    have same : request.job = job := by simpa [Action.concerns] using concerned
    cases hc : runner.closed <;> simp [act, accept, only, hc, same, Note.phases]
  | cancel other =>
    refine ⟨?_, rfl⟩
    simp only [act, cancel, only, map_filter (request_marked · other), List.filter_filter,
      Bool.and_self]
  | shutDown =>
    refine ⟨?_, rfl⟩
    have marked (tasks : List Task) :=
      map_filter (f := fun task => { task with canceled := true }) (fun _ => rfl) tasks job
    simp only [act, shutDown, only, marked, List.filter_filter, Bool.and_self]
  | pass ms =>
    refine ⟨?_, ?_⟩
    · simp only [act, advance_fst, leaveAll, only, goOn_filter, List.filter_filter,
        Bool.and_self]
    · simp only [act, phases_advance, only, List.filter_filter, Bool.and_self]
  | turn other =>
    refine ⟨?_, ?_⟩
    · simp only [act, turn, only, goOn_filter, List.filter_filter, Bool.and_self]
    · simp only [act, turn, phases_goOn, only, List.filter_filter, Bool.and_self]
  | leave other =>
    refine ⟨?_, rfl⟩
    simp only [act, only_leave]
    simp only [only, List.filter_filter, Bool.and_self]

/-- What is done with another job has nothing to do with it. -/
theorem act_of_unconcerned (runner : Runner) (apart : action.concerns job = false) :
    (runner.act action).1.only job = runner.only job ∧
      Note.phases job (runner.act action).2 = [] := by
  cases action with
  | start request =>
    have other : request.job ≠ job := by simpa [Action.concerns] using apart
    cases hc : runner.closed <;> simp [act, accept, only, hc, other, Note.phases]
  | cancel i =>
    have other : i ≠ job := by simpa [Action.concerns] using apart
    refine ⟨?_, rfl⟩
    simp only [act, cancel, only, map_filter (request_marked · i), Runner.mk.injEq, true_and,
      and_true]
    refine Roster.map_eq_self fun task ht => ?_
    have own : task.request.job = job := by simpa using List.of_mem_filter ht
    exact if_neg (own ▸ other.symm)
  | shutDown => cases apart
  | pass ms => cases apart
  | turn i =>
    have other : i ≠ job := by simpa [Action.concerns] using apart
    have stays : ∀ task ∈ runner.tasks.filter (·.request.job = job),
        byTurn runner.settings i task = ([], some task.stage) := by
      intro task ht
      have own : task.request.job = job := by simpa using List.of_mem_filter ht
      exact byTurn_of_ne (own ▸ other.symm) _
    refine ⟨?_, ?_⟩
    · simp only [act, turn, only, ← goOn_filter, Runner.mk.injEq, true_and, and_true]
      refine (List.filterMap_congr ?_).trans List.filterMap_some
      intro task ht
      rw [stays task ht]
      rfl
    · rw [act, turn, phases_goOn]
      exact List.flatMap_eq_nil_iff.2 fun task ht => by rw [stays task ht]
  | leave i => exact ⟨runner.only_leave i, rfl⟩

/-- Two runners that are the same as far as a job goes report the same of it, also when nothing is
done with the other jobs of one of them. -/
theorem phases_of_only (same : runner.only job = other.only job) (actions : List Action) :
    Note.phases job (runner.actAll actions).2 =
      Note.phases job (other.actAll (actions.filter (·.concerns job))).2 := by
  induction actions generalizing runner other with
  | nil => rfl
  | cons action rest ih =>
    cases hc : action.concerns job with
    | true =>
      obtain ⟨next, phases⟩ := act_only runner hc
      obtain ⟨next', phases'⟩ := act_only other hc
      have later : (runner.act action).1.only job = (other.act action).1.only job := by
        rw [← next, same, next']
      rw [List.filter_cons, if_pos hc, actAll, actAll, Note.phases_append, Note.phases_append,
        ← phases, ← phases', same, ih later]
    | false =>
      obtain ⟨next, phases⟩ := act_of_unconcerned runner hc
      rw [List.filter_cons, if_neg (by simp [hc]), actAll, Note.phases_append, phases,
        List.nil_append, ih (next.trans same)]

/-- A job goes on as if it were the only one. -/
theorem phases_alone (runner : Runner) (job : JobId) (actions : List Action) :
    Note.phases job (runner.actAll actions).2 =
      Note.phases job (runner.actAll (actions.filter (·.concerns job))).2 :=
  phases_of_only rfl actions

end Alone

end Coordination.Job.Runner
