/-
Coordination.Proofs.Run — what happens to a core, and the journal of it.

A run is a list of occurrences: commands, reports of the engine, and the
two changes that a server may make for a command whose checks it finished
earlier. The journal of a run is all that passes between the core and the
outside, in order: reports come in; jobs, cancellations and messages go
out. What a job or an observer went through is read off the journal.

Which identifiers the jobs get is decided outside. `Fresh` says that no
two jobs of a journal were handed over under one identifier.

  §1 Journals  — `Entry`, `Entry.messages`, `Entry.starts`, `Fresh`.
  §2 Checks    — commands whose checks are made before anything else.
  §3 Runs      — `Occurrence`, `Core.occur`, `Core.run`.
  §4 A sample  — a short run in which a job is superseded.
-/
import Coordination.Core.Dispatch

namespace Coordination

/-! ## §1 Journals -/

/-- What passes between a core and the outside. -/
inductive Entry where
  /-- The core looks whether something answers at an address. -/
  | probe (address : Connection.Address)
  /-- The engine reports on a job. -/
  | report (report : Job.Report)
  /-- The core hands a job to the engine, which may refuse it. -/
  | start (request : Job.Request) (refusal : Option Job.Problem)
  /-- The core tells the engine to stop a job. -/
  | cancel (job : JobId)
  /-- The core publishes a message. -/
  | publish (message : Message)
  deriving Repr

namespace Entry

/-- An effect as it stands in the journal, given the answer of the engine. -/
def ofEffect (answer : Core.EngineAnswer) : Effect → Entry
  | .probe address => probe address
  | .start request => start request (answer request)
  | .cancel job => cancel job
  | .publish message => publish message

def ofEffects (answer : Core.EngineAnswer) (effects : List Effect) : List Entry :=
  effects.map (ofEffect answer)

/-- The messages of a journal, in the order of publication. -/
def messages (journal : List Entry) : List Message :=
  journal.filterMap fun
    | publish message => some message
    | _ => none

/-- The jobs of a journal, in the order in which they were handed over. -/
def starts (journal : List Entry) : List Job.Request :=
  journal.filterMap fun
    | start request _ => some request
    | _ => none

@[simp] theorem messages_append (journal more : List Entry) :
    messages (journal ++ more) = messages journal ++ messages more := List.filterMap_append

@[simp] theorem starts_append (journal more : List Entry) :
    starts (journal ++ more) = starts journal ++ starts more := List.filterMap_append

/-- The journal has the messages that observers hear. -/
theorem messages_ofEffects (answer : Core.EngineAnswer) (effects : List Effect) :
    messages (ofEffects answer effects) = Effect.messages effects := by
  induction effects with
  | nil => rfl
  | cons effect rest ih =>
    cases effect with
    | publish message => exact congrArg (message :: ·) ih
    | probe address => exact ih
    | start request => exact ih
    | cancel job => exact ih

end Entry

namespace Effect

theorem messages_append (effects more : List Effect) :
    messages (effects ++ more) = messages effects ++ messages more := by
  induction effects with
  | nil => rfl
  | cons effect rest ih => cases effect <;> simp [messages, ih]

theorem messages_publish {α : Type} (message : α → Message) (xs : List α) :
    messages (xs.map fun x => .publish (message x)) = xs.map message := by
  induction xs with
  | nil => rfl
  | cons x rest ih => exact congrArg (message x :: ·) ih

/-- Looking at an address is not published. -/
theorem messages_knocks (command : Command) : messages (Core.knocks command) = [] := by
  unfold Core.knocks
  split
  · split <;> rfl
  · rfl

end Effect

/-- No two jobs of a journal have the same identifier. -/
def Fresh (journal : List Entry) : Prop := ((Entry.starts journal).map (·.job)).Nodup

instance (journal : List Entry) : Decidable (Fresh journal) :=
  inferInstanceAs (Decidable (List.Nodup _))

theorem Fresh.of_append {journal more : List Entry} (h : Fresh (journal ++ more)) :
    Fresh journal := by
  unfold Fresh at h
  rw [Entry.starts_append, List.map_append] at h
  exact h.sublist (List.sublist_append_left _ _)

/-- A job that is handed over has an identifier that no job had before. -/
theorem Fresh.job_ne {journal more : List Entry} (h : Fresh (journal ++ more)) :
    ∀ earlier ∈ Entry.starts journal, ∀ later ∈ Entry.starts more, earlier.job ≠ later.job := by
  unfold Fresh at h
  rw [Entry.starts_append, List.map_append] at h
  intro earlier he later hl
  exact (List.nodup_append.1 h).2.2 _ (List.mem_map_of_mem he) _ (List.mem_map_of_mem hl)

/-! ## §2 Checks -/

namespace Core

theorem dispatch_register_unconnected {core : Core} {context : Context} {id : DatasetId}
    {params : Dataset.Params} {rejection : Rejection}
    (h : core.requireConnected = .error rejection) :
    core.dispatch context (.registerDataset id params) = ⟨core, [], .error rejection⟩ := by
  simp only [dispatch, perform, h, bind, Except.bind, knocks]

theorem dispatch_register_unprepared {core : Core} {context : Context} {id : DatasetId}
    {params : Dataset.Params} {problem : Dataset.Problem} (hc : core.requireConnected = .ok ())
    (hp : Dataset.prepare id params context.facts.file = .error problem) :
    core.dispatch context (.registerDataset id params) =
      ⟨core, [], .error problem.rejection⟩ := by
  have h : core.perform context (.registerDataset id params) = .error problem.rejection := by
    rw [perform, hc, hp]
    rfl
  rw [dispatch, h]
  rfl

/-- A registration whose dataset passes the checks is as the storing of it alone. -/
theorem dispatch_register_prepared (core : Core) (context : Context) {id : DatasetId}
    {params : Dataset.Params} {dataset : Dataset}
    (hp : Dataset.prepare id params context.facts.file = .ok dataset) :
    core.dispatch context (.registerDataset id params) = match core.registerDataset dataset with
      | .ok change =>
        ⟨change.core, change.effects, .ok (.changed (.datasetCreated id change.value))⟩
      | .error rejection => ⟨core, [], .error rejection⟩ := by
  cases hc : core.requireConnected with
  | error rejection =>
    have hr : core.registerDataset dataset = .error rejection := by
      rw [registerDataset, hc]
      rfl
    rw [dispatch_register_unconnected hc, hr]
  | ok _ =>
    have h : core.perform context (.registerDataset id params) = (do
        let change ← core.registerDataset dataset
        return answering change fun dataset => .changed (.datasetCreated id dataset)) := by
      rw [perform, hc, hp]
      rfl
    rw [dispatch, h]
    cases core.registerDataset dataset <;> rfl

theorem dispatch_connect_unverified {core : Core} {context : Context} {spec : Connection.Spec}
    {problem : Connection.Problem}
    (hv : Connection.verify spec context.facts.unreachable = .error problem) :
    core.dispatch context (.connect spec) =
      ⟨core, knocks (.connect spec), .error problem.rejection⟩ := by
  have h : core.perform context (.connect spec) = .error problem.rejection := by
    rw [perform, hv]
    rfl
  rw [dispatch, h]

theorem dispatch_connect_verified {core : Core} {context : Context} {spec : Connection.Spec}
    (hv : Connection.verify spec context.facts.unreachable = .ok ()) :
    core.dispatch context (.connect spec) =
      ⟨(core.connect spec).core, knocks (.connect spec) ++ (core.connect spec).effects,
        .ok (.connection (.connected spec))⟩ := by
  have h : core.perform context (.connect spec) =
      .ok (answering (core.connect spec) fun _ => .connection (.connected spec)) := by
    rw [perform, hv]
    rfl
  rw [dispatch, h]
  rfl

end Core

/-! ## §3 Runs -/

/-- What can happen to a core. -/
inductive Occurrence where
  /-- A command is carried out. -/
  | command (context : Context) (command : Command)
  /-- The core attaches to a spec that was checked before. -/
  | connect (spec : Connection.Spec)
  /-- The core stores a dataset that was prepared before. -/
  | register (dataset : Dataset)
  /-- The engine reports. -/
  | report (report : Job.Report)

namespace Core

/-- An engine that refuses no job. -/
def accepting : EngineAnswer := fun _ => none

/-- Lets something happen; also gives the journal of it. -/
def occur (core : Core) : Occurrence → Core × List Entry
  | .command context command =>
    let outcome := core.dispatch context command
    (outcome.core, Entry.ofEffects context.answer outcome.effects)
  | .connect spec =>
    let change := core.connect spec
    (change.core, Entry.ofEffects accepting change.effects)
  | .register dataset => match core.registerDataset dataset with
    | .ok change => (change.core, Entry.ofEffects accepting change.effects)
    | .error _ => (core, [])
  | .report report =>
    let change := core.applyReport report
    (change.core, .report report :: Entry.ofEffects accepting change.effects)

/-- Lets one thing happen after the other; also gives the journal. -/
def run (core : Core) : List Occurrence → Core × List Entry
  | [] => (core, [])
  | occurrence :: rest =>
    let (next, entries) := core.occur occurrence
    let (last, more) := next.run rest
    (last, entries ++ more)

theorem run_single (core : Core) (occurrence : Occurrence) :
    core.run [occurrence] = core.occur occurrence := by
  simp only [run, List.append_nil]

/-- What follows on a run starts where the run ended. -/
theorem run_append (core : Core) (before after : List Occurrence) :
    core.run (before ++ after) =
      (((core.run before).1.run after).1,
        (core.run before).2 ++ ((core.run before).1.run after).2) := by
  induction before generalizing core with
  | nil => rfl
  | cons occurrence rest ih =>
    simp only [List.cons_append, run, ih, List.append_assoc]

theorem run_concat (core : Core) (before : List Occurrence) (last : Occurrence) :
    core.run (before ++ [last]) =
      (((core.run before).1.occur last).1,
        (core.run before).2 ++ ((core.run before).1.occur last).2) := by
  rw [run_append, run_single]

end Core

/-! ## §4 A sample -/

namespace Occurrence

/-- A command, with the identifier that the next job gets; the engine refuses no job. -/
def plain (nextJob : Nat) (command : Command) : Occurrence :=
  .command ⟨⟨"", "", 0, "", "", []⟩, {}, .ofNat nextJob, Core.accepting, {}⟩ command

/-- One analysis of one dataset is run twice. The second job supersedes the first, which reports
once more when it is no longer heard. -/
def rerun : List Occurrence :=
  [plain 0 (.connect (.pool 2)),
    plain 0 (.registerDataset (.ofNat 1) (.memory ⟨.uint8, [8, 8], [4, 4]⟩)),
    plain 0 (.putCompound (.ofNat 1) (.ofNat 1) ⟨.sumFrames, []⟩),
    plain 0 (.putAnalysis (.ofNat 1) (.ofNat 1) ⟨.sumFrames, .empty⟩),
    plain 1 (.runAnalysis (.ofNat 1)),
    .report ⟨.ofNat 1, .started⟩,
    plain 2 (.runAnalysis (.ofNat 1)),
    .report ⟨.ofNat 1, .finished .null⟩,
    .report ⟨.ofNat 2, .started⟩]

end Occurrence

end Coordination
