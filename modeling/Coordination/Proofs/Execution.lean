/-
Coordination.Proofs.Execution — what the built-in engine reports of its jobs.

Every job that the engine has accepted keeps to its script, whatever is done
with it and with other jobs and however the clock goes (`jobs_keep_to_scripts`).
It is asked only that no two jobs have the same identifier.

A runner forgets a job that has ended. So what holds of a job is stated of
the runner together with what was reported before (`Kept`): a job that has a
task has reported what belongs to the stage of the task, and one that has no
task any more has gone through its script.

A job counts as running as long as it is entered, and it takes its entry out
only after it has reported its end. So the count may be ahead of the reports,
by the jobs that are between the two (`Entered`, `Kept.running`).

  §1 Quiet   — after a cancellation there are no more steps.
  §2 Kept    — what one action preserves, and so any history.
  §3 Entries — `Entered`, and how many jobs count as running.
  §4 Runs    — `Executes`, and the theorem.
-/
import Coordination.Proofs.Histories

namespace Coordination.Job.Runner

/-! ## §1 Quiet -/

/-- A job was asked to stop, as far as it has not ended. -/
def Stopped (job : JobId) (tasks : List Task) : Prop :=
  ∀ task ∈ tasks, task.request.job = job → task.canceled = true

section Quiet

variable {settings : Settings} {f : Task → List Phase × Option Stage} {tasks : List Task}
  {runner : Runner} {job : JobId} {action : Action}

theorem Stopped.goOn (h : Stopped job tasks) (f : Task → List Phase × Option Stage) :
    Stopped job (goOn f tasks).1 := by
  intro task ht own
  obtain ⟨old, ho, -, request, canceled⟩ := mem_goOn ht
  rw [canceled]
  exact h old ho (request ▸ own)

theorem Stopped.quiet (h : Stopped job tasks) (proper : Proper settings f) (done total : Nat) :
    .progress done total ∉ Note.phases job ((Runner.goOn f tasks).2.map .reported) := by
  rw [phases_goOn]
  intro progress
  obtain ⟨task, ht, step⟩ := List.mem_flatMap.1 progress
  obtain ⟨ht, own⟩ := List.mem_filter.1 ht
  exact (proper task).quiet (h task ht (of_decide_eq_true own)) done total step

theorem Stopped.map (h : Stopped job tasks) {g : Task → Task}
    (keeps : ∀ task, (g task).request = task.request)
    (marks : ∀ task, task.canceled = true → (g task).canceled = true) :
    Stopped job (tasks.map g) := by
  intro task ht own
  obtain ⟨old, ho, rfl⟩ := List.mem_map.1 ht
  exact marks old (h old ho (keeps old ▸ own))

theorem stopped_cancel (runner : Runner) (job : JobId) : Stopped job (runner.cancel job).tasks := by
  intro task ht own
  obtain ⟨old, -, rfl⟩ := List.mem_map.1 ht
  rw [request_marked] at own
  rw [if_pos own]

theorem stopped_shutDown (runner : Runner) (job : JobId) : Stopped job runner.shutDown.tasks := by
  intro task ht _
  obtain ⟨old, -, rfl⟩ := List.mem_map.1 ht
  rfl

/-- Nothing opens the engine again. -/
theorem closed_act (h : runner.closed = true) (action : Action) :
    (runner.act action).1.closed = true := by
  cases action with
  | start request => simp [act, accept, h]
  | cancel other => exact h
  | shutDown => rfl
  | pass ms => exact h
  | turn other => exact h
  | leave other =>
    rw [act, leave_eq]
    exact h

theorem stopped_act (h : Stopped job runner.tasks)
    (unstarted : runner.closed = true ∨ ∀ request, action = .start request → request.job ≠ job) :
    Stopped job (runner.act action).1.tasks ∧
      ∀ done total, .progress done total ∉ Note.phases job (runner.act action).2 := by
  cases action with
  | start request =>
    cases hc : runner.closed with
    | true => simpa [act, accept, hc, Note.phases] using h
    | false =>
      have other : request.job ≠ job := by simpa [hc] using unstarted
      refine ⟨?_, by simp [act, accept, hc, Note.phases]⟩
      intro task ht own
      simp only [act, accept, hc, Bool.false_eq_true, if_false, List.mem_append,
        List.mem_singleton] at ht
      rcases ht with ht | rfl
      · exact h task ht own
      · exact absurd own other
  | cancel other =>
    refine ⟨h.map (request_marked · other) ?_, by simp [act, Note.phases]⟩
    intro task canceled
    split
    · rfl
    · exact canceled
  | shutDown => exact ⟨stopped_shutDown runner job, by simp [act, Note.phases]⟩
  | pass ms =>
    have proper := proper_byClock runner.settings runner.now (runner.now + ms)
    refine ⟨?_, ?_⟩
    · simp only [act, advance_fst, leaveAll]
      exact h.goOn _
    · intro done total
      exact mt (perm_phases_advance runner ms job).mem_iff.1 (h.quiet proper done total)
  | turn other => exact ⟨h.goOn _, h.quiet (proper_byTurn _ _)⟩
  | leave other =>
    refine ⟨?_, by simp [act, Note.phases]⟩
    rw [act, leave_eq]
    exact h

theorem quiet_actAll {actions : List Action} (h : Stopped job runner.tasks)
    (unstarted : runner.closed = true ∨ job ∉ (starts actions).map (·.job)) (done total : Nat) :
    .progress done total ∉ Note.phases job (runner.actAll actions).2 := by
  induction actions generalizing runner with
  | nil => simp [actAll, Note.phases]
  | cons action rest ih =>
    have first : runner.closed = true ∨ ∀ request, action = .start request → request.job ≠ job := by
      refine unstarted.imp_right ?_
      rintro unstarted request rfl rfl
      exact unstarted (by simp [starts])
    have later : (runner.act action).1.closed = true ∨ job ∉ (starts rest).map (·.job) := by
      refine unstarted.imp (closed_act · action) ?_
      intro unstarted started
      refine unstarted ?_
      obtain ⟨request, hr, same⟩ := List.mem_map.1 started
      have kept := ((List.sublist_cons_self action rest).filterMap _).subset hr
      exact List.mem_map.2 ⟨request, kept, same⟩
    obtain ⟨stopped, quiet⟩ := stopped_act h first
    rw [actAll, Note.phases_append, List.mem_append, not_or]
    exact ⟨quiet done total, ih stopped later⟩

end Quiet

/-! ## §2 Kept -/

section Runs

open Roster (keys)

variable {settings : Settings} {runner next : Runner} {notes : List Note}

/-- The engine takes all jobs until it is shut down, and none afterwards. -/
theorem jobs_actAll (runner : Runner) (actions : List Action) :
    Note.jobs (runner.actAll actions).2 =
        (if runner.closed then [] else starts (actions.takeWhile (!·.shuts))) ∧
      Note.refusals (runner.actAll actions).2 =
        (if runner.closed then starts actions else starts (actions.dropWhile (!·.shuts))).map
          (·, .shutDown) := by
  induction actions generalizing runner with
  | nil => simp [actAll, Note.jobs, Note.refusals, starts]
  | cons action rest ih =>
    obtain ⟨jobs, refusals⟩ := ih (runner.act action).1
    rw [actAll, Note.jobs_append, Note.refusals_append, jobs, refusals]
    cases action with
    | start request =>
      cases hc : runner.closed <;>
        simp [act, accept, hc, Note.jobs, Note.refusals, starts, Action.shuts]
    | cancel job =>
      cases hc : runner.closed <;>
        simp [act, cancel, hc, Note.jobs, Note.refusals, starts, Action.shuts]
    | shutDown =>
      cases runner.closed <;> simp [act, shutDown, Note.jobs, Note.refusals, starts, Action.shuts]
    | pass ms =>
      cases hc : runner.closed <;> simp [act, advance_fst, leaveAll, hc, starts, Action.shuts]
    | turn job => cases hc : runner.closed <;> simp [act, turn, hc, starts, Action.shuts]
    | leave job =>
      rw [act, leave_eq]
      cases runner.closed <;> simp [Note.jobs, Note.refusals, starts, Action.shuts]

theorem jobs_act_sublist (runner : Runner) (action : Action) :
    (Note.jobs (runner.act action).2).Sublist (starts [action]) := by
  have all := (jobs_actAll runner [action]).1
  simp only [actAll, List.append_nil] at all
  rw [all]
  split
  · exact List.nil_sublist _
  · exact (List.takeWhile_sublist _).filterMap _

theorem act_start_of_ok {request : Request} (h : runner.accept request = .ok next) :
    runner.act (.start request) = (next, [.accepted request]) := by
  rw [act, h]

theorem act_start_of_error {request : Request} {problem : Problem}
    (h : runner.accept request = .error problem) :
    runner.act (.start request) = (runner, [.refused request problem]) := by
  rw [act, h]

theorem act_pass (runner : Runner) (ms : Nat) :
    runner.act (.pass ms) = ((runner.advance ms).1, (runner.advance ms).2.map .reported) := rfl

/-- What holds of a runner and of what came of its history. -/
structure Kept (settings : Settings) (runner : Runner) (notes : List Note) : Prop where
  same : runner.settings = settings
  /-- The tasks are those of accepted jobs, in the same order. -/
  listed : (runner.tasks.map (·.request)).Sublist (Note.jobs notes)
  apart : ((Note.jobs notes).map (·.job)).Nodup
  told : ∀ task ∈ runner.tasks,
    Told settings task.request (Note.phases task.request.job notes) (some task.stage)
  /-- A job that has no task any more has ended. -/
  ended : ∀ request ∈ Note.jobs notes, request.job ∉ keys runner.tasks →
    Script settings request (Note.phases request.job notes)
  unknown : ∀ job ∉ (Note.jobs notes).map (·.job), Note.phases job notes = []
  reached : ∀ task ∈ runner.tasks, ∀ since, task.stage = .fresh since → since ≤ runner.now
  due : ∀ task ∈ runner.tasks,
    task.stage.due settings ≤ runner.now + settings.steps * settings.delay

namespace Kept

theorem request_mem (h : Kept settings runner notes) {task : Task} (ht : task ∈ runner.tasks) :
    task.request ∈ Note.jobs notes :=
  h.listed.subset (List.mem_map_of_mem ht)

theorem mem_jobs (h : Kept settings runner notes) {job : JobId} (hj : job ∈ keys runner.tasks) :
    job ∈ (Note.jobs notes).map (·.job) := by
  obtain ⟨task, ht, rfl⟩ := Roster.mem_keys.1 hj
  exact List.mem_map_of_mem (h.request_mem ht)

theorem nodup_keys (h : Kept settings runner notes) : (keys runner.tasks).Nodup := by
  have jobs := h.apart.sublist (h.listed.map (·.job))
  rwa [List.map_map] at jobs

/-- Tasks go on, and each of them reports what it has to report. -/
theorem goOn {f : Task → List Phase × Option Stage} {reports : List Report}
    (h : Kept settings runner notes) (proper : Proper settings f)
    (same : next.settings = runner.settings) (tasks : next.tasks = (Runner.goOn f runner.tasks).1)
    (later : runner.now ≤ next.now)
    (all : ∀ job, Note.phases job (reports.map .reported) =
      Note.phases job ((Runner.goOn f runner.tasks).2.map .reported)) :
    Kept settings next (notes ++ reports.map .reported) where
  same := same.trans h.same
  listed := by
    rw [tasks, Note.jobs_append, Note.jobs_reported, List.append_nil]
    exact (goOn_requests_sublist f runner.tasks).trans h.listed
  apart := by simpa using h.apart
  told := by
    intro task ht
    rw [tasks] at ht
    obtain ⟨old, ho, stage, request, -⟩ := mem_goOn ht
    rw [request, Note.phases_append, all, phases_goOn_of_mem h.nodup_keys ho, ← stage]
    exact (proper old).told (h.told old ho)
  ended := by
    intro request hr gone
    rw [Note.jobs_append, Note.jobs_reported, List.append_nil] at hr
    rw [Note.phases_append, all]
    by_cases had : request.job ∈ keys runner.tasks
    · obtain ⟨task, ht, own⟩ := Roster.mem_keys.1 had
      have ended : (f task).2 = none := by
        refine Option.eq_none_iff_forall_ne_some.2 ?_
        intro stage left
        exact gone (Roster.mem_keys.2 ⟨{ task with stage := stage }, tasks ▸ goOn_mem ht left, own⟩)
      obtain rfl : task.request = request :=
        List.inj_on_of_nodup_map h.apart (h.request_mem ht) hr own
      have told := (proper task).told (h.told task ht)
      rwa [ended, ← phases_goOn_of_mem h.nodup_keys ht] at told
    · rw [phases_goOn_of_not_mem had, List.append_nil]
      exact h.ended request hr had
  unknown := by
    intro job hj
    rw [Note.jobs_append, Note.jobs_reported, List.append_nil] at hj
    rw [Note.phases_append, all, h.unknown job hj, phases_goOn_of_not_mem (mt h.mem_jobs hj)]
    rfl
  reached := by
    intro task ht since fresh
    rw [tasks] at ht
    obtain ⟨old, ho, stage, -⟩ := mem_goOn ht
    have goes := proper old
    rw [stage, fresh] at goes
    exact Nat.le_trans (h.reached old ho since goes.fresh) later
  due := by
    intro task ht
    rw [tasks] at ht
    obtain ⟨old, ho, stage, -⟩ := mem_goOn ht
    have goes := proper old
    rw [stage] at goes
    have before := h.due old ho
    rw [goes.due]
    omega

/-- To ask jobs to stop changes nothing of what they have reported. -/
theorem mark (h : Kept settings runner notes) {g : Task → Task}
    (keeps : ∀ task, (g task).request = task.request ∧ (g task).stage = task.stage)
    (same : next.settings = runner.settings) (tasks : next.tasks = runner.tasks.map g)
    (now : next.now = runner.now) : Kept settings next notes where
  same := same.trans h.same
  listed := by
    rw [tasks, List.map_map]
    exact (List.map_congr_left fun task _ => (keeps task).1) ▸ h.listed
  apart := h.apart
  told := by
    intro task ht
    rw [tasks] at ht
    obtain ⟨old, ho, rfl⟩ := List.mem_map.1 ht
    rw [(keeps old).1, (keeps old).2]
    exact h.told old ho
  ended := by
    intro request hr gone
    refine h.ended request hr ?_
    rwa [tasks, Roster.keys_map fun task => congrArg Request.job (keeps task).1] at gone
  unknown := h.unknown
  reached := by
    intro task ht since fresh
    rw [tasks] at ht
    obtain ⟨old, ho, rfl⟩ := List.mem_map.1 ht
    exact now ▸ h.reached old ho since ((keeps old).2 ▸ fresh)
  due := by
    intro task ht
    rw [tasks] at ht
    obtain ⟨old, ho, rfl⟩ := List.mem_map.1 ht
    rw [(keeps old).2, now]
    exact h.due old ho

/-- A job that is accepted has not been reported before. -/
theorem accept (h : Kept settings runner notes) {request : Request}
    (new : request.job ∉ (Note.jobs notes).map (·.job))
    (accepted : runner.accept request = .ok next) :
    Kept settings next (notes ++ [.accepted request]) := by
  unfold Runner.accept at accepted
  split at accepted
  · cases accepted
  · obtain rfl := Except.ok.inj accepted
    have phases : ∀ job, Note.phases job (notes ++ [.accepted request]) =
        Note.phases job notes := by
      intro job
      simp [Note.phases]
    have jobs : Note.jobs (notes ++ [.accepted request]) = Note.jobs notes ++ [request] := by
      simp [Note.jobs]
    have silent : Note.phases request.job notes = [] := h.unknown _ new
    constructor
    case same => exact h.same
    case listed =>
      rw [jobs, List.map_append]
      exact h.listed.append (.refl _)
    case apart =>
      rw [jobs, List.map_append]
      refine List.nodup_append.2 ⟨h.apart, by simp, ?_⟩
      rintro job hj _ hr rfl
      obtain rfl : job = request.job := by simpa using hr
      exact new hj
    case told =>
      intro task ht
      rw [phases]
      rcases List.mem_append.1 ht with ht | ht
      · exact h.told task ht
      · obtain rfl := List.mem_singleton.1 ht
        exact silent
    case ended =>
      intro other ho gone
      rw [phases]
      rw [keys, List.map_append, List.mem_append, not_or] at gone
      rw [jobs] at ho
      rcases List.mem_append.1 ho with ho | ho
      · exact h.ended other ho gone.1
      · obtain rfl := List.mem_singleton.1 ho
        exact absurd (List.mem_singleton.2 rfl) gone.2
    case unknown =>
      intro job hj
      rw [phases]
      refine h.unknown job (mt ?_ hj)
      rw [jobs, List.map_append]
      exact List.mem_append_left _
    case reached =>
      intro task ht since fresh
      rcases List.mem_append.1 ht with ht | ht
      · exact h.reached task ht since fresh
      · obtain rfl := List.mem_singleton.1 ht
        cases fresh
        exact Nat.le_refl _
    case due =>
      intro task ht
      rcases List.mem_append.1 ht with ht | ht
      · exact h.due task ht
      · obtain rfl := List.mem_singleton.1 ht
        exact Nat.le_refl _

/-- A refusal is no report. -/
theorem refuse (h : Kept settings runner notes) (request : Request) (problem : Problem) :
    Kept settings runner (notes ++ [.refused request problem]) := by
  have jobs : Note.jobs (notes ++ [.refused request problem]) = Note.jobs notes := by
    simp [Note.jobs]
  have phases : ∀ job, Note.phases job (notes ++ [.refused request problem]) =
      Note.phases job notes := by
    intro job
    simp [Note.phases]
  constructor
  case same => exact h.same
  case listed => simpa only [jobs] using h.listed
  case apart => simpa only [jobs] using h.apart
  case told => simpa only [phases] using h.told
  case ended => simpa only [jobs, phases] using h.ended
  case unknown => simpa only [jobs, phases] using h.unknown
  case reached => exact h.reached
  case due => exact h.due

theorem act (h : Kept settings runner notes) {action : Action}
    (new : ∀ request, action = .start request → request.job ∉ (Note.jobs notes).map (·.job)) :
    Kept settings (runner.act action).1 (notes ++ (runner.act action).2) := by
  cases action with
  | start request =>
    cases ha : runner.accept request with
    | ok next =>
      rw [act_start_of_ok ha]
      exact h.accept (new request rfl) ha
    | error problem =>
      rw [act_start_of_error ha]
      exact h.refuse request problem
  | cancel job =>
    rw [Runner.act, List.append_nil]
    refine h.mark (fun task => ⟨request_marked task job, ?_⟩) rfl rfl rfl
    split <;> rfl
  | shutDown =>
    rw [Runner.act, List.append_nil]
    exact h.mark (g := fun task => { task with canceled := true }) (fun _ => ⟨rfl, rfl⟩) rfl rfl rfl
  | pass ms =>
    have proper := proper_byClock runner.settings runner.now (runner.now + ms)
    refine h.goOn (h.same ▸ proper) ?_ ?_ ?_ (phases_advance_of_apart h.nodup_keys h.reached ms)
    · rw [act_pass, advance_fst, leaveAll]
    · rw [act_pass, advance_fst, leaveAll]
    · rw [act_pass, advance_fst, leaveAll]
      exact Nat.le_add_right _ _
  | turn job =>
    exact h.goOn (h.same ▸ proper_byTurn runner.settings job) rfl rfl (Nat.le_refl _) fun _ => rfl
  | leave job =>
    rw [Runner.act, List.append_nil, leave_eq]
    exact h.mark (g := id) (fun _ => ⟨rfl, rfl⟩) rfl (List.map_id _).symm rfl

theorem actAll (h : Kept settings runner notes) {actions : List Action}
    (distinct : ((Note.jobs notes ++ starts actions).map (·.job)).Nodup) :
    Kept settings (runner.actAll actions).1 (notes ++ (runner.actAll actions).2) := by
  induction actions generalizing runner notes with
  | nil => simpa [Runner.actAll] using h
  | cons action rest ih =>
    have new : ∀ request, action = .start request →
        request.job ∉ (Note.jobs notes).map (·.job) := by
      rintro request rfl again
      rw [List.map_append] at distinct
      exact (List.nodup_append.1 distinct).2.2 _ again _ (by simp [starts]) rfl
    have later : (Note.jobs (notes ++ (runner.act action).2) ++ starts rest).Sublist
        (Note.jobs notes ++ starts (action :: rest)) := by
      rw [Note.jobs_append, List.append_assoc, starts_cons]
      exact (List.Sublist.refl _).append ((jobs_act_sublist runner action).append (.refl _))
    rw [Runner.actAll, ← List.append_assoc]
    exact ih (h.act new) (distinct.sublist (later.map _))

end Kept

theorem kept_history (settings : Settings) {actions : List Action}
    (distinct : ((starts actions).map (·.job)).Nodup) :
    Kept settings (history settings actions).1 (history settings actions).2 := by
  have opened : Kept settings { settings := settings } [] :=
    ⟨rfl, .slnil, .nil, by simp, by simp [Note.jobs], fun _ _ => rfl, by simp, by simp⟩
  exact opened.actAll distinct

/-- When all tasks have had their time, no job is left. -/
theorem Kept.tasks_advance (h : Kept settings runner notes) {ms : Nat}
    (enough : settings.steps * settings.delay ≤ ms) : (runner.advance ms).1.tasks = [] := by
  rw [advance_fst, leaveAll]
  refine List.filterMap_eq_nil_iff.2 ?_
  intro task ht
  have due : task.stage.due runner.settings ≤ runner.now + ms := by
    have := h.due task ht
    rw [h.same]
    omega
  rw [byClock, run_of_due due]
  rfl

/-! ## §3 Entries -/

/-- Whether a job has reported its end. -/
def Note.ended (notes : List Note) (request : Request) : Bool :=
  (Note.phases request.job notes).any (·.status.isFinal)

/-- A job has a task as long as it has not reported its end. -/
theorem Kept.ended_iff (h : Kept settings runner notes) {request : Request}
    (hr : request ∈ Note.jobs notes) :
    Note.ended notes request = true ↔ request.job ∉ keys runner.tasks := by
  constructor
  · intro ended going
    obtain ⟨task, ht, own⟩ := Roster.mem_keys.1 going
    obtain rfl := List.inj_on_of_nodup_map h.apart (h.request_mem ht) hr own
    exact Bool.false_ne_true ((h.told task ht).begun.any_final.symm.trans ended)
  · exact fun gone => (h.ended request hr gone).any_final

theorem hasTask_iff {job : JobId} : runner.hasTask job = true ↔ job ∈ keys runner.tasks := by
  simp [hasTask, Roster.mem_keys, Keyed.key]

/-- What holds of the entries of a runner: the jobs that have not ended are entered, no job is
twice, and only accepted ones are. -/
structure Entered (runner : Runner) (notes : List Note) : Prop where
  nodup : runner.entries.Nodup
  going : ∀ job ∈ keys runner.tasks, job ∈ runner.entries
  known : ∀ job ∈ runner.entries, job ∈ (Note.jobs notes).map (·.job)

namespace Entered

theorem mem_enter {i job : JobId} {entries : List JobId} :
    i ∈ enter job entries ↔ i ∈ entries ∨ i = job := by
  unfold enter
  split
  · next there =>
    refine ⟨.inl, fun h => h.elim id ?_⟩
    rintro rfl
    simpa using there
  · simp

theorem nodup_enter {entries : List JobId} (h : entries.Nodup) (job : JobId) :
    (enter job entries).Nodup := by
  unfold enter
  split
  · exact h
  · next new =>
    refine List.nodup_append.2 ⟨h, by simp, ?_⟩
    rintro i hi _ ho rfl
    obtain rfl := List.mem_singleton.1 ho
    exact new (by simpa using hi)

theorem more (h : Entered runner notes) (others : List Note) :
    Entered runner (notes ++ others) where
  nodup := h.nodup
  going := h.going
  known job hj := by
    rw [Note.jobs_append, List.map_append]
    exact List.mem_append_left _ (h.known job hj)

/-- Where only tasks come to an end, the entries are still those of accepted jobs. -/
theorem fewer (h : Entered runner notes) (entries : next.entries = runner.entries)
    (tasks : ∀ job ∈ keys next.tasks, job ∈ keys runner.tasks) : Entered next notes where
  nodup := entries ▸ h.nodup
  going job hj := entries ▸ h.going job (tasks job hj)
  known := entries ▸ h.known

/-- Entries that are taken out are not those of jobs that have not ended. -/
theorem takeOut (h : Entered runner notes) {kept : JobId → Bool}
    (entries : next.entries = runner.entries.filter kept) (tasks : next.tasks = runner.tasks)
    (going : ∀ job ∈ keys runner.tasks, kept job = true) : Entered next notes where
  nodup := entries ▸ h.nodup.filter _
  going job hj := by
    rw [tasks] at hj
    rw [entries]
    exact List.mem_filter.2 ⟨h.going job hj, going job hj⟩
  known job hj := by
    rw [entries] at hj
    exact h.known job (List.mem_of_mem_filter hj)

theorem keys_goOn {f : Task → List Phase × Option Stage} {tasks : List Task} {job : JobId}
    (hj : job ∈ keys (Runner.goOn f tasks).1) : job ∈ keys tasks := by
  obtain ⟨task, ht, own⟩ := Roster.mem_keys.1 hj
  obtain ⟨old, ho, -, request, -⟩ := mem_goOn ht
  exact Roster.mem_keys.2 ⟨old, ho, (congrArg Request.job request).symm.trans own⟩

theorem act (h : Entered runner notes) (action : Action) :
    Entered (runner.act action).1 (notes ++ (runner.act action).2) := by
  cases action with
  | start request =>
    cases hc : runner.closed with
    | true => simpa [Runner.act, Runner.accept, hc] using h.more _
    | false =>
      simp only [Runner.act, Runner.accept, hc, Bool.false_eq_true, if_false]
      refine ⟨nodup_enter h.nodup _, fun job hj => mem_enter.2 ?_, fun job hj => ?_⟩
      · rw [keys, List.map_append, List.mem_append] at hj
        exact hj.imp (h.going job) List.mem_singleton.1
      · rw [Note.jobs_append, List.map_append, List.mem_append]
        exact (mem_enter.1 hj).imp (h.known job) fun own => by simp [Note.jobs, own]
  | cancel job =>
    have same : keys (runner.act (.cancel job)).1.tasks = keys runner.tasks :=
      Roster.keys_map (fun task => congrArg Request.job (request_marked task job)) _
    exact (h.more _).fewer rfl fun i hi => same ▸ hi
  | shutDown =>
    have same : keys (runner.act .shutDown).1.tasks = keys runner.tasks :=
      Roster.keys_map (f := fun task : Task => { task with canceled := true }) (fun _ => rfl) _
    exact (h.more _).fewer rfl fun i hi => same ▸ hi
  | pass ms =>
    have gone : Entered { runner with
        tasks := (Runner.goOn (byClock runner.settings runner.now (runner.now + ms))
          runner.tasks).1
        now := runner.now + ms } (notes ++ (runner.act (.pass ms)).2) :=
      (h.more _).fewer rfl fun job hj => keys_goOn hj
    rw [act_pass, advance_fst]
    exact gone.takeOut rfl rfl fun job hj => hasTask_iff.2 hj
  | turn job => exact (h.more _).fewer rfl fun i hi => keys_goOn hi
  | leave job =>
    rw [Runner.act, List.append_nil, leave]
    split
    · exact h
    · next ended =>
      refine h.takeOut rfl rfl fun i hi => decide_eq_true ?_
      rintro rfl
      exact ended (hasTask_iff.2 hi)

theorem actAll (h : Entered runner notes) (actions : List Action) :
    Entered (runner.actAll actions).1 (notes ++ (runner.actAll actions).2) := by
  induction actions generalizing runner notes with
  | nil => simpa [Runner.actAll] using h
  | cons action rest ih =>
    rw [Runner.actAll, ← List.append_assoc]
    exact ih (h.act action)

end Entered

theorem entered_history (settings : Settings) (actions : List Action) :
    Entered (history settings actions).1 (history settings actions).2 := by
  have opened : Entered { settings := settings } [] := ⟨.nil, by simp [keys], by simp⟩
  exact opened.actAll actions

/-- The jobs that count as running are those that have not reported an end, and those that have but
are still entered. -/
theorem Kept.running (h : Kept settings runner notes) (entered : Entered runner notes) :
    runner.running = (Note.jobs notes).countP (!Note.ended notes ·) +
      (Note.jobs notes).countP fun request =>
        Note.ended notes request && runner.entries.contains request.job := by
  have listed : runner.entries.Perm
      (((Note.jobs notes).filter fun request => runner.entries.contains request.job).map
        (·.job)) := by
    refine (List.perm_ext_iff_of_nodup entered.nodup
      (h.apart.sublist (List.filter_sublist.map _))).2 fun job => ?_
    rw [List.mem_map]
    constructor
    · intro hj
      obtain ⟨request, hr, rfl⟩ := List.mem_map.1 (entered.known job hj)
      exact ⟨request, List.mem_filter.2 ⟨hr, by simpa using hj⟩, rfl⟩
    · rintro ⟨request, hr, rfl⟩
      simpa using List.of_mem_filter hr
  rw [Runner.running, listed.length_eq, List.length_map, ← List.countP_eq_length_filter,
    List.countP_eq_countP_filter_add _ _ (!Note.ended notes ·), List.countP_filter,
    List.countP_filter]
  congr 1
  · refine List.countP_congr fun request hr => ?_
    rw [Bool.and_eq_true, Bool.not_eq_true', ← Bool.not_eq_true, h.ended_iff hr, not_not]
    refine and_iff_right_of_imp fun going => ?_
    simpa using entered.going _ going
  · refine List.countP_congr fun request _ => ?_
    rw [Bool.not_not, Bool.and_comm]

/-! ## §4 Runs -/

theorem history_concat (settings : Settings) (actions : List Action) (action : Action) :
    history settings (actions ++ [action]) =
      (((history settings actions).1.act action).1,
        (history settings actions).2 ++ ((history settings actions).1.act action).2) := by
  rw [history, actAll_append]
  simp [actAll, history]

theorem kept_history_pass (settings : Settings) {actions : List Action}
    (distinct : ((starts actions).map (·.job)).Nodup) (ms : Nat) :
    Kept settings (history settings (actions ++ [.pass ms])).1
      (history settings (actions ++ [.pass ms])).2 := by
  have same : starts (actions ++ [.pass ms]) = starts actions := by simp [starts]
  exact kept_history settings (same ▸ distinct)

/-- When the clock has moved, only jobs are entered that have a task. -/
theorem mem_tasks_of_mem_entries {actions : List Action} {ms : Nat} {job : JobId}
    (h : job ∈ (history settings (actions ++ [.pass ms])).1.entries) :
    job ∈ keys (history settings (actions ++ [.pass ms])).1.tasks := by
  rw [history_concat, act_pass, advance_fst, leaveAll] at h ⊢
  exact hasTask_iff.1 (List.mem_filter.1 h).2

/-- What comes of the history of an engine. -/
structure Executes (settings : Settings) (actions : List Action) : Prop where
  /-- The jobs are accepted that are started before the engine is shut down. -/
  accepted : Note.jobs (history settings actions).2 = starts (actions.takeWhile (!·.shuts))
  /-- The others are refused, and nothing is reported of them. -/
  refused : Note.refusals (history settings actions).2 =
    (starts (actions.dropWhile (!·.shuts))).map (·, .shutDown)
  unknown : ∀ job ∉ (Note.jobs (history settings actions).2).map (·.job),
    Note.phases job (history settings actions).2 = []
  /-- Each accepted job has gone through its script or through the beginning of it. -/
  script : ∀ request ∈ Note.jobs (history settings actions).2,
    Begun settings request (Note.phases request.job (history settings actions).2) ∨
      Script settings request (Note.phases request.job (history settings actions).2)
  /-- When enough time passes, all jobs go through their scripts to the end. -/
  ends : ∀ ms, settings.steps * settings.delay ≤ ms →
    ∀ request ∈ Note.jobs (history settings actions).2, Script settings request
      (Note.phases request.job (history settings (actions ++ [.pass ms])).2)
  /-- The jobs that count as running are those that have not reported an end, and those that have
  but have not taken their entries out. -/
  running : (history settings actions).1.running =
    (Note.jobs (history settings actions).2).countP
        (!Note.ended (history settings actions).2 ·) +
      (Note.jobs (history settings actions).2).countP fun request =>
        Note.ended (history settings actions).2 request &&
          (history settings actions).1.entries.contains request.job
  /-- A job that has reported its end takes its entry out in its next step, -/
  leaves : ∀ request ∈ Note.jobs (history settings actions).2,
    Note.ended (history settings actions).2 request = true →
      request.job ∉ (history settings (actions ++ [.leave request.job])).1.entries
  /-- and when the clock moves, all jobs have done so that have reported their end. -/
  settled : ∀ ms, (history settings (actions ++ [.pass ms])).1.running =
    (Note.jobs (history settings (actions ++ [.pass ms])).2).countP
      (!Note.ended (history settings (actions ++ [.pass ms])).2 ·)
  /-- A job reports what it would report if nothing were done with the others. -/
  alone : ∀ job, Note.phases job (history settings actions).2 =
    Note.phases job (history settings (actions.filter (·.concerns job))).2
  /-- A job that is canceled takes no more steps. -/
  heeds : ∀ before after job, actions = before ++ .cancel job :: after →
    job ∈ (Note.jobs (history settings before).2).map (·.job) → ∀ done total,
      .progress done total ∉
        Note.phases job ((history settings before).1.actAll (.cancel job :: after)).2
  /-- When the engine is shut down, no job takes any more steps. -/
  rests : ∀ before after job, actions = before ++ .shutDown :: after → ∀ done total,
    .progress done total ∉
      Note.phases job ((history settings before).1.actAll (.shutDown :: after)).2

/-- Whatever is done with an engine and however its clock goes, as long as no two jobs have the same
identifier, all jobs keep to their scripts. -/
theorem jobs_keep_to_scripts (settings : Settings) (actions : List Action)
    (distinct : ((starts actions).map (·.job)).Nodup) : Executes settings actions where
  accepted := (jobs_actAll _ actions).1
  refused := (jobs_actAll _ actions).2
  unknown := (kept_history settings distinct).unknown
  script := by
    intro request hr
    have kept := kept_history settings distinct
    by_cases going : request.job ∈ keys (history settings actions).1.tasks
    · obtain ⟨task, ht, own⟩ := Roster.mem_keys.1 going
      obtain rfl := List.inj_on_of_nodup_map kept.apart (kept.request_mem ht) hr own
      exact .inl (kept.told task ht).begun
    · exact .inr (kept.ended request hr going)
  ends := by
    intro ms enough request hr
    refine (kept_history_pass settings distinct ms).ended request ?_ ?_
    · rw [history_concat, Note.jobs_append]
      exact List.mem_append_left _ hr
    · rw [history_concat, act_pass, (kept_history settings distinct).tasks_advance enough]
      exact List.not_mem_nil
  running := (kept_history settings distinct).running (entered_history settings actions)
  leaves := by
    intro request hr ended entered
    have gone := mt hasTask_iff.1 (((kept_history settings distinct).ended_iff hr).1 ended)
    simp [history_concat, act, leave, gone] at entered
  settled := by
    intro ms
    have kept := kept_history_pass settings distinct ms
    rw [kept.running (entered_history _ _), Nat.add_eq_left, List.countP_eq_zero]
    intro request hr both
    obtain ⟨ended, entered⟩ := Bool.and_eq_true_iff.1 both
    exact (kept.ended_iff hr).1 ended (mem_tasks_of_mem_entries (List.contains_iff_mem.1 entered))
  alone job := phases_alone _ job actions
  heeds := by
    rintro before after job rfl accepted done total
    refine quiet_actAll (stopped_cancel _ job) (.inr ?_) done total
    intro again
    have among : job ∈ (starts before).map (·.job) := by
      rw [history, (jobs_actAll _ _).1] at accepted
      exact (((List.takeWhile_sublist _).filterMap _).map _).subset accepted
    rw [starts_append, List.map_append] at distinct
    refine (List.nodup_append.1 distinct).2.2 job among job ?_ rfl
    simpa [starts] using again
  rests := by
    rintro before after job rfl done total
    exact quiet_actAll (stopped_shutDown _ job) (.inl rfl) done total

/-- A job of the dataset in memory with a scan of four by four frames. -/
def sample (n : Nat) (kind : Analysis.Kind) (parameters : Json) : Request :=
  ⟨.ofNat n, .ofNat n, ⟨.ofNat 1, .memory ⟨.uint8, [8, 8], [4, 4]⟩, [4, 4, 8, 8]⟩,
    ⟨kind, parameters⟩⟩

/-- Jobs that finish, are canceled during a pause and at their start, and have no good region. -/
def sampleActions : List Action :=
  [.start (sample 1 .sumFrames .empty), .start (sample 2 .applyRingMask .empty), .pass 25,
    .start (sample 3 .sumFrames (.obj [("roi", .obj [("shape", .str "rect"), ("x", .int 1),
      ("y", .int 1), ("width", .int 0), ("height", .int 1)])])),
    .start (sample 4 .sumFrames .empty), .cancel (.ofNat 1), .cancel (.ofNat 3),
    .cancel (.ofNat 4), .turn (.ofNat 2), .pass 50, .shutDown, .start (sample 5 .sumFrames .empty)]

theorem jobs_keep_to_scripts_sample :
    Executes { steps := 3, delay := 20 } sampleActions ∧
      (history { steps := 3, delay := 20 } sampleActions).1.running = 0 ∧
      ([1, 2, 3, 4, 5].map fun n =>
          Note.phases (.ofNat n) (history { steps := 3, delay := 20 } sampleActions).2) =
        [[.started, .progress 1 3, .canceled],
          [.started, .progress 1 3, .progress 2 3, .progress 3 3,
            .finished (.obj [("analysisType", .str "APPLY_RING_MASK"),
              ("shape", .arr [.int 4, .int 4])])],
          [.started, .errored "invalid roi: rect size must be positive, got 0x1"],
          [.started, .canceled], []] :=
  ⟨jobs_keep_to_scripts _ _ (by decide), rfl, rfl⟩

/-- A job and its one step, in which it finishes. -/
def briefActions : List Action :=
  [.start (sample 1 .applyRingMask .empty), .turn (.ofNat 1)]

/-- A job that has reported its end counts as running until it takes its entry out. -/
theorem running_counts_ended_job :
    Note.jobs (history { steps := 0 } briefActions).2 = [sample 1 .applyRingMask .empty] ∧
      Note.phases (.ofNat 1) (history { steps := 0 } briefActions).2 =
        [.started, .finished (.obj [("analysisType", .str "APPLY_RING_MASK"),
          ("shape", .arr [.int 4, .int 4])])] ∧
      (history { steps := 0 } briefActions).1.running = 1 ∧
      (history { steps := 0 } (briefActions ++ [.leave (.ofNat 1)])).1.running = 0 :=
  ⟨rfl, rfl, rfl, rfl⟩

end Runs

end Coordination.Job.Runner
