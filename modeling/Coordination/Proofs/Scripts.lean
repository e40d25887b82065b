/-
Coordination.Proofs.Scripts — what one job of the built-in engine reports.

A job reports that it started. Then it either reports that its region is no
good, or one step after the other until it has finished or is canceled
(`Script`).

The runner moves its jobs by a clock (`byClock`), and none of this depends
on how the clock goes. Where jobs run side by side, or a pause ends late, a
job has its turn at another time than the clock would say (`byTurn`). From
one pause to the next a job is not interrupted. What a task can do in either
way is stated once (`Goes`).

  §1 Scripts — `Script`, and `Told`: what was reported at each stage of a job.
  §2 Turns   — `Task.turn`: from one pause to the next.
  §3 Steps   — `Goes`: by the clock and by turns, a task goes on with its script.
  §4 Times   — what a task reports in one go is in the order of time.
-/
import Coordination.Job.Runner

namespace Coordination.Job.Runner

/-! ## §1 Scripts -/

/-- The report of a start and of some steps. -/
def opening (settings : Settings) (steps : Nat) : List Phase :=
  .started :: (List.range steps).map fun done => .progress (done + 1) settings.steps

/-- The shape of a frame for an analysis that gives a frame, else the shape of the scan. -/
def shapeOf (request : Request) : List Nat :=
  if request.details.kind ∈ [.sumFrames, .sdFrames, .pickFrame, .pickFftFrame, .fftSumFrames] then
    request.dataset.detectorSize
  else request.dataset.scanSize

/-- What a job reports from its start to its end. -/
def Script (settings : Settings) (request : Request) (phases : List Phase) : Prop :=
  match regionOf request.details request.dataset settings.wording with
  | .error problem => phases = [.started, .errored problem.text]
  | .ok _ =>
    (∃ steps < settings.steps, phases = opening settings steps ++ [.canceled]) ∨
      phases = opening settings settings.steps ++ [.finished (.obj
        [("analysisType", request.details.kind.toJson),
          ("shape", .ofList .ofNat (shapeOf request))])]

/-- What a job has reported as long as it has not ended. -/
def Begun (settings : Settings) (request : Request) (phases : List Phase) : Prop :=
  phases = [] ∨ (∃ region, regionOf request.details request.dataset settings.wording = .ok region) ∧
    ∃ steps ≤ settings.steps, phases = opening settings steps

/-- What a job has reported when it is at a stage, or at none any more. -/
def Told (settings : Settings) (request : Request) (phases : List Phase) : Option Stage → Prop
  | some (.fresh _) => phases = []
  | some (.pausing _ left) =>
    (∃ region, regionOf request.details request.dataset settings.wording = .ok region) ∧
      left ≤ settings.steps ∧ phases = opening settings (settings.steps - left)
  | none => Script settings request phases

section Scripts

variable {settings : Settings} {request : Request} {phases : List Phase}

theorem opening_succ (settings : Settings) (steps : Nat) :
    opening settings (steps + 1) =
      opening settings steps ++ [.progress (steps + 1) settings.steps] := by
  simp [opening, List.range_succ]

theorem resultShape_eq (request : Request) : resultShape request = shapeOf request := by
  unfold resultShape shapeOf
  cases request.details.kind <;> rfl

theorem script_finished {region : Option Region}
    (fits : regionOf request.details request.dataset settings.wording = .ok region) :
    Script settings request
      (opening settings settings.steps ++ [.finished (result request)]) := by
  unfold Script
  rw [fits, result, resultShape_eq]
  exact .inr rfl

theorem script_canceled {region : Option Region} {steps : Nat}
    (fits : regionOf request.details request.dataset settings.wording = .ok region)
    (less : steps < settings.steps) :
    Script settings request (opening settings steps ++ [.canceled]) := by
  unfold Script
  rw [fits]
  exact .inl ⟨steps, less, rfl⟩

theorem script_errored {problem : Problem}
    (misfit : regionOf request.details request.dataset settings.wording = .error problem) :
    Script settings request [.started, .errored problem.text] := by
  unfold Script
  rw [misfit]

/-- A whole script ends with the only final phase that it has. -/
theorem Script.any_final (h : Script settings request phases) :
    phases.any (·.status.isFinal) = true := by
  unfold Script at h
  split at h
  · simp [h, Phase.status, Status.isFinal]
  · rcases h with ⟨steps, -, rfl⟩ | rfl <;> simp [Phase.status, Status.isFinal]

theorem Told.begun {stage : Stage} (h : Told settings request phases (some stage)) :
    Begun settings request phases := by
  cases stage with
  | fresh since => exact .inl h
  | pausing since left =>
    obtain ⟨fits, -, told⟩ := h
    exact .inr ⟨fits, settings.steps - left, by omega, told⟩

/-- As long as a job has not ended, it has not reported an end. -/
theorem Begun.any_final (h : Begun settings request phases) :
    phases.any (·.status.isFinal) = false := by
  rcases h with rfl | ⟨-, steps, -, rfl⟩
  · rfl
  · simp [opening, Phase.status, Status.isFinal]

end Scripts

/-! ## §2 Turns -/

/-- What comes of the start, or of the end of a pause: the result, or another pause. -/
def arrive (request : Request) (since : Nat) : Nat → List Phase × Option Stage
  | 0 => ([.finished (result request)], none)
  | left + 1 => ([], some (.pausing since (left + 1)))

/-- One turn of a task: it starts, or its pause is over. -/
def Task.turn (settings : Settings) (task : Task) : List Phase × Option Stage :=
  match task.stage with
  | .fresh since => match regionOf task.request.details task.request.dataset settings.wording with
    | .error problem => ([.started, .errored problem.text], none)
    | .ok _ =>
      let (more, stage) := arrive task.request since settings.steps
      (.started :: more, stage)
  | .pausing since 0 => arrive task.request since 0
  | .pausing since (left + 1) =>
    if task.canceled then ([.canceled], none)
    else
      let (more, stage) := arrive task.request (since + settings.delay) left
      (.progress (settings.steps - left) settings.steps :: more, stage)

/-- How tasks go on when one job has its turn. -/
def byTurn (settings : Settings) (job : JobId) (task : Task) : List Phase × Option Stage :=
  if task.request.job = job then task.turn settings else ([], some task.stage)

/-- How tasks go on when time passes. -/
def byClock (settings : Settings) (now limit : Nat) (task : Task) : List Phase × Option Stage :=
  ((task.run settings now limit).1.map (·.phase), (task.run settings now limit).2)

/-! ## §3 Steps -/

/-- The ways in which a task can go on from a stage, with what it reports on its way and the stage
in which it is left. -/
inductive Goes (settings : Settings) (task : Task) : Stage → List Phase → Option Stage → Prop
  | stay (stage : Stage) : Goes settings task stage [] (some stage)
  | misfit {since : Nat} {problem : Problem}
      (misfit : regionOf task.request.details task.request.dataset settings.wording =
        .error problem) :
      Goes settings task (.fresh since) [.started, .errored problem.text] none
  | start {since : Nat} {region : Option Region} {phases : List Phase} {last : Option Stage}
      (fits : regionOf task.request.details task.request.dataset settings.wording = .ok region)
      (rest : Goes settings task (.pausing since settings.steps) phases last) :
      Goes settings task (.fresh since) (.started :: phases) last
  | finish {since : Nat} :
      Goes settings task (.pausing since 0) [.finished (result task.request)] none
  | stop {since left : Nat} (canceled : task.canceled = true) :
      Goes settings task (.pausing since (left + 1)) [.canceled] none
  | step {since left : Nat} {phases : List Phase} {last : Option Stage}
      (going : task.canceled = false)
      (rest : Goes settings task (.pausing (since + settings.delay) left) phases last) :
      Goes settings task (.pausing since (left + 1))
        (.progress (settings.steps - left) settings.steps :: phases) last

/-- When a task is at its end, if it pauses as long as it has to from now on. -/
def Stage.due (settings : Settings) : Stage → Nat
  | fresh since => since + settings.steps * settings.delay
  | pausing since left => since + left * settings.delay

namespace Goes

variable {settings : Settings} {task : Task} {stage : Stage} {new : List Phase}
  {last : Option Stage}

theorem told (h : Goes settings task stage new last) {phases : List Phase}
    (before : Told settings task.request phases (some stage)) :
    Told settings task.request (phases ++ new) last := by
  induction h generalizing phases with
  | stay => simpa using before
  | misfit misfit =>
    obtain rfl : phases = [] := before
    exact script_errored misfit
  | start fits _ ih =>
    obtain rfl : phases = [] := before
    exact @ih [.started] ⟨⟨_, fits⟩, Nat.le_refl _, by simp [opening]⟩
  | finish =>
    obtain ⟨⟨_, fits⟩, -, rfl⟩ := before
    exact script_finished fits
  | stop canceled =>
    obtain ⟨⟨_, fits⟩, bounded, rfl⟩ := before
    exact script_canceled fits (by omega)
  | @step since left _ _ going _ ih =>
    obtain ⟨fits, bounded, rfl⟩ := before
    have next : settings.steps - left = settings.steps - (left + 1) + 1 := by omega
    have told := ih ⟨fits, by omega, rfl⟩
    rw [next, opening_succ, ← next] at told
    simpa using told

/-- A task that is left at a stage is due at the same time as before. -/
theorem due {next : Stage} (h : Goes settings task stage new (some next)) :
    next.due settings = stage.due settings := by
  generalize hl : some next = last at h
  induction h with
  | stay => cases hl; rfl
  | misfit => cases hl
  | start _ _ ih => exact ih hl
  | finish => cases hl
  | stop => cases hl
  | step _ _ ih =>
    rw [ih hl]
    simp only [Stage.due, Nat.succ_mul]
    omega

/-- Nothing has been done with a task that is left in its first stage. -/
theorem fresh {since : Nat} (h : Goes settings task stage new (some (.fresh since))) :
    stage = .fresh since := by
  generalize hl : some (Stage.fresh since) = last at h
  induction h with
  | stay => exact (Option.some.inj hl).symm
  | misfit => cases hl
  | start _ _ ih => exact nomatch ih hl
  | finish => cases hl
  | stop => cases hl
  | step _ _ ih => exact nomatch ih hl

/-- A task that is canceled takes no more steps. -/
theorem quiet (h : Goes settings task stage new last) (canceled : task.canceled = true) :
    ∀ done total, .progress done total ∉ new := by
  induction h with
  | stay => simp
  | misfit => simp
  | start _ _ ih => simpa using ih
  | finish => simp
  | stop => simp
  | step going => simp [canceled] at going

end Goes

/-- Tasks go on properly if each of them does what a task can do. -/
def Proper (settings : Settings) (f : Task → List Phase × Option Stage) : Prop :=
  ∀ task, Goes settings task task.stage (f task).1 (f task).2

theorem goes_proceed (settings : Settings) (task : Task) (now limit left since : Nat) :
    Goes settings task (.pausing since left)
      ((proceed settings task now limit left since).1.map (·.phase))
      (proceed settings task now limit left since).2 := by
  induction left generalizing since with
  | zero => exact .finish
  | succ left ih =>
    unfold proceed
    split
    · rename_i canceled
      exact .stop canceled
    · rename_i going
      split
      · exact .step (by simpa using going) (ih _)
      · exact .stay _

theorem proper_byClock (settings : Settings) (now limit : Nat) :
    Proper settings (byClock settings now limit) := by
  intro task
  unfold byClock Task.run
  cases task.stage with
  | fresh since =>
    dsimp only
    cases hr : regionOf task.request.details task.request.dataset settings.wording with
    | error problem => exact .misfit hr
    | ok region => exact .start hr (goes_proceed ..)
  | pausing since left => exact goes_proceed ..

theorem goes_arrive (settings : Settings) (task : Task) (since left : Nat) :
    Goes settings task (.pausing since left)
      (arrive task.request since left).1 (arrive task.request since left).2 := by
  cases left with
  | zero => exact .finish
  | succ left => exact .stay _

theorem proper_byTurn (settings : Settings) (job : JobId) :
    Proper settings (byTurn settings job) := by
  intro task
  unfold byTurn
  split
  · unfold Task.turn
    cases task.stage with
    | fresh since =>
      dsimp only
      cases hr : regionOf task.request.details task.request.dataset settings.wording with
      | error problem => exact .misfit hr
      | ok region => exact .start hr (goes_arrive ..)
    | pausing since left =>
      cases left with
      | zero => exact .finish
      | succ left =>
        dsimp only
        split
        · rename_i canceled
          exact .stop canceled
        · rename_i going
          exact .step (by simpa using going) (goes_arrive ..)
  · exact .stay _

/-! ## §4 Times -/

section Times

variable {settings : Settings} {task : Task} {now limit : Nat}

/-- A task whose time has come has ended. -/
theorem run_of_due (due : task.stage.due settings ≤ limit) :
    (task.run settings now limit).2 = none := by
  have proceeds : ∀ left since, since + left * settings.delay ≤ limit →
      (proceed settings task now limit left since).2 = none := by
    intro left
    induction left with
    | zero =>
      intro since _
      rfl
    | succ left ih =>
      intro since due
      rw [Nat.succ_mul] at due
      unfold proceed
      split
      · rfl
      · rw [if_pos (by omega)]
        exact ih _ (by omega)
  unfold Task.run
  cases hs : task.stage with
  | fresh since =>
    rw [hs] at due
    cases regionOf task.request.details task.request.dataset settings.wording with
    | error problem => rfl
    | ok region => exact proceeds _ _ due
  | pausing since left =>
    rw [hs] at due
    exact proceeds _ _ due

/-- A cancellation is reported at the present time, which may be before the end of the pause. So it
is asked that a canceled task has not gone on beyond the present. -/
theorem sorted_proceed (settings : Settings) (limit left : Nat) {since : Nat}
    (reached : task.canceled = true → since ≤ now) :
    (proceed settings task now limit left since).1.Pairwise (·.time ≤ ·.time) ∧
      ∀ timed ∈ (proceed settings task now limit left since).1, since ≤ timed.time := by
  induction left generalizing since with
  | zero => simp [proceed]
  | succ left ih =>
    unfold proceed
    split
    · rename_i canceled
      simpa using reached canceled
    · rename_i going
      split
      · obtain ⟨sorted, later⟩ := @ih (since + settings.delay) (absurd · going)
        refine ⟨List.pairwise_cons.2 ⟨later, sorted⟩, ?_⟩
        intro timed ht
        rcases List.mem_cons.1 ht with rfl | ht
        · exact Nat.le_add_right _ _
        · exact Nat.le_trans (Nat.le_add_right _ _) (later timed ht)
      · simp

theorem sorted_run (settings : Settings) (limit : Nat)
    (reached : ∀ since, task.stage = .fresh since → since ≤ now) :
    (task.run settings now limit).1.Pairwise (·.time ≤ ·.time) := by
  unfold Task.run
  cases hs : task.stage with
  | fresh since =>
    dsimp only
    cases regionOf task.request.details task.request.dataset settings.wording with
    | error problem => simp
    | ok region =>
      obtain ⟨sorted, later⟩ :=
        sorted_proceed settings limit settings.steps fun _ => reached since hs
      exact List.pairwise_cons.2 ⟨later, sorted⟩
  | pausing since left =>
    by_cases canceled : task.canceled = true
    · cases left <;> simp [proceed, canceled]
    · exact (sorted_proceed settings limit left (absurd · canceled)).1

end Times

end Coordination.Job.Runner
