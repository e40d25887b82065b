/-
Coordination.Proofs.RejectionCodes — which commands are rejected, with which code.

What speaks against a command can be said before it is carried out. The
objections are listed in the order in which they are looked at, each with a
code of its own (`Core.objections`). A command is rejected iff one of them
holds, and the first that does gives the code.

Some checks further in can fail as well, but only in states that are never
reached: the dataset of an analysis is registered, and a dataset that was
there before its dependents went is there after. Their codes never show.

  §1 Objections  — `RejectedBy`, which goes along a chain of checks.
  §2 Checks      — the objections that each check looks at.
  §3 Commands    — `Core.objections`, `Core.rejectedBy_perform`.
  §4 Replies     — `Core.rejected_by_first_objection`.
-/
import Coordination.Proofs.Cascade
import Coordination.Proofs.Consistency
import Coordination.Proofs.Preparation
import Coordination.Proofs.Rejections

namespace Coordination

/-! ## §1 Objections -/

/-- Something that may speak against a command: whether it does, and the code for it. -/
abbrev Objection := Bool × ErrorCode

/-- The code of the first objection that holds. -/
def Objection.first? (objections : List Objection) : Option ErrorCode :=
  (objections.find? (·.1)).map (·.2)

/-- The code of the rejection in which a check ended. -/
def Rejection.code? {α : Type} : Except Rejection α → Option ErrorCode
  | .ok _ => none
  | .error rejection => some rejection.code

/-- A check goes through if no objection holds, and else fails with the code of the first. -/
def RejectedBy {α : Type} (result : Except Rejection α) (objections : List Objection) : Prop :=
  Rejection.code? result = Objection.first? objections

namespace Objection

theorem first?_cons (holds : Bool) (code : ErrorCode) (rest : List Objection) :
    first? ((holds, code) :: rest) = if holds then some code else first? rest := by
  cases holds <;> rfl

theorem first?_append (objections more : List Objection) :
    first? (objections ++ more) = (first? objections).or (first? more) := by
  rw [first?, List.find?_append]
  cases h : objections.find? (·.1) <;> simp [first?, h]

/-- A code that no objection has is not the code of the first that holds. -/
theorem first?_ne {objections : List Objection} {code : ErrorCode}
    (h : objections.all (·.2 ≠ code) = true) : first? objections ≠ some code := by
  intro first
  obtain ⟨objection, found, same⟩ := Option.map_eq_some_iff.1 first
  have other := List.all_eq_true.1 h objection (List.mem_of_find?_eq_some found)
  exact of_decide_eq_true other same

theorem isSome_first? {objections : List Objection} :
    (first? objections).isSome = true ↔ ∃ objection ∈ objections, objection.1 = true := by
  rw [first?, Option.isSome_map, List.find?_isSome]

end Objection

namespace RejectedBy

variable {α β : Type} {x : Except Rejection α} {f : α → Except Rejection β}
  {objections more : List Objection}

theorem ok (a : α) : RejectedBy (.ok a) [] := rfl

/-- Without an objection that holds a check goes through. -/
theorem eq_ok (h : RejectedBy x objections) (none : ∀ o ∈ objections, o.1 = false) :
    ∃ a, x = .ok a := by
  cases x with
  | ok a => exact ⟨a, rfl⟩
  | error rejection =>
    have held : (Objection.first? objections).isSome = true := h ▸ rfl
    obtain ⟨objection, listed, holds⟩ := Objection.isSome_first?.1 held
    exact absurd (none objection listed) (Bool.not_eq_false _ ▸ holds)

/-- One check after the other: the objections to the second come after those to the first. -/
theorem bind (first : RejectedBy x objections)
    (second : ∀ a, x = .ok a → RejectedBy (f a) more) :
    RejectedBy (x >>= f) (objections ++ more) := by
  unfold RejectedBy at *
  rw [Objection.first?_append, ← first]
  cases x with
  | ok a => exact second a rfl
  | error rejection => rfl

/-- What is made of the result raises no objections. -/
theorem bind_pure (first : RejectedBy x objections) (g : α → β) :
    RejectedBy (do return g (← x)) objections :=
  List.append_nil objections ▸ first.bind fun a _ => ok (g a)

/-- The first objection holds and is the reason for a rejection, or it can be left out. -/
theorem cons {holds : Bool} {code : ErrorCode}
    (fails : holds = true → ∃ rejection, x = .error rejection ∧ rejection.code = code)
    (passes : holds = false → RejectedBy x objections) :
    RejectedBy x ((holds, code) :: objections) := by
  unfold RejectedBy
  rw [Objection.first?_cons]
  cases holds with
  | true =>
    obtain ⟨rejection, rfl, rfl⟩ := fails rfl
    rfl
  | false => exact passes rfl

/-- That a record is missing is a reason for a rejection. -/
theorem absent {κ ρ : Type} [DecidableEq κ] [Keyed ρ κ] {k : κ} {roster : List ρ}
    {code : ErrorCode}
    (missing : Roster.find? k roster = none →
      ∃ rejection, x = .error rejection ∧ rejection.code = code)
    (found : ∀ record, Roster.find? k roster = some record → RejectedBy x objections) :
    RejectedBy x ((!Roster.contains k roster, code) :: objections) := by
  unfold Roster.contains
  cases h : Roster.find? k roster with
  | none => exact cons (fun _ => missing h) nofun
  | some record => exact cons nofun fun _ => found record h

end RejectedBy

/-! ## §2 Checks -/

/-- What may speak against a connection, by the reason why nobody answers at its address. -/
def Connection.Spec.objections (unreachable : Option String) : Connection.Spec → List Objection
  | .pool workers => [(workers == 0, .invalidParameters)]
  | .cluster address =>
    [((Connection.Address.ofString? address).isNone, .invalidParameters),
      (unreachable.isSome, .clusterConnection)]

theorem Connection.rejectedBy_verify (spec : Connection.Spec) (unreachable : Option String) :
    RejectedBy ((Connection.verify spec unreachable).mapError Connection.Problem.rejection)
      (spec.objections unreachable) := by
  cases spec with
  | pool workers => cases workers <;> rfl
  | cluster address =>
    cases read : Connection.Address.ofString? address with
    | none =>
      have target : (Connection.Spec.cluster address).target = .error (.invalidSpec
          ("address '" ++ address ++ "' is not of the form tcp://host:port")) := by
        rw [Connection.Spec.target, read]
      rw [Connection.verify, target, Connection.Spec.objections, read]
      rfl
    | some found =>
      have target : (Connection.Spec.cluster address).target = .ok (some found) := by
        rw [Connection.Spec.target, read]
      rw [Connection.verify, target, Connection.Spec.objections, read]
      cases unreachable <;> rfl

namespace Dataset

/-- Whatever is wrong with a dataset makes the parameters invalid. -/
theorem Params.Fault.code {params : Params} {file : FileStatus} {problem : Problem}
    (fault : params.Fault file problem) : problem.rejection.code = .invalidParameters := by
  cases fault with
  | geometry misshapen => cases misshapen <;> rfl
  | overflow | unavailable | irregular | tooSmall => rfl

theorem rejectedBy_prepare (id : DatasetId) (params : Params) (file : FileStatus) :
    RejectedBy ((prepare id params file).mapError Problem.rejection)
      [(!decide (params.WellShaped ∧ params.Held file), .invalidParameters)] := by
  rcases ready_or_fault params file with ready | ⟨problem, fault⟩
  · rw [prepare_of_held id ready.1 ready.2, decide_eq_true ready]
    rfl
  · rw [prepare_of_fault id fault, decide_eq_false fault.unfit]
    exact .cons (fun _ => ⟨_, rfl, fault.code⟩) nofun

theorem Registry.rejectedBy_remove (registry : Registry) (id : DatasetId) :
    RejectedBy ((registry.remove id).mapError Problem.rejection)
      [(!registry.contains id, .notFound)] := by
  refine .absent (fun missing => ?_) fun dataset found => ?_
  · rw [remove, get?, missing]
    exact ⟨_, rfl, rfl⟩
  · rw [remove, get?, found]
    rfl

end Dataset

namespace Analysis.Workspace

variable (workspace : Workspace)

theorem rejectedBy_putCompound (datasets : Dataset.Registry) (id : CompoundId)
    (dataset : DatasetId) (details : Compound.Details) :
    RejectedBy ((workspace.putCompound datasets id dataset details).mapError Problem.rejection)
      [(!datasets.contains dataset, .datasetNotFound)] := by
  refine .absent (fun missing => ?_) fun record found => ?_
  · have unknown : datasets.contains dataset = false := by
      rw [Dataset.Registry.contains, Roster.contains, missing]
      rfl
    rw [putCompound, unknown]
    exact ⟨_, rfl, rfl⟩
  · have known : datasets.contains dataset = true := by
      rw [Dataset.Registry.contains, Roster.contains, found]
      rfl
    rw [putCompound, if_pos known]
    rfl

theorem rejectedBy_removeCompound (id : CompoundId) :
    RejectedBy ((workspace.removeCompound id).mapError Problem.rejection)
      [(!Roster.contains id workspace.compounds, .notFound)] := by
  refine .absent (fun missing => ?_) fun compound found => ?_
  · rw [removeCompound, compound?, missing]
    exact ⟨_, rfl, rfl⟩
  · rw [removeCompound, compound?, found]
    rfl

theorem rejectedBy_putAnalysis (id : AnalysisId) (compound : CompoundId) (details : Details) :
    RejectedBy ((workspace.putAnalysis id compound details).mapError Problem.rejection)
      [(!details.parameters.isObject, .invalidParameters),
        (!Roster.contains compound workspace.compounds, .compoundAnalysisNotFound)] := by
  refine .cons (fun plain => ?_) fun object => ?_
  · have unfit : ¬details.parameters.isObject = true := by simpa using plain
    rw [putAnalysis, Details.check, if_neg unfit]
    exact ⟨_, rfl, rfl⟩
  · have fit : details.parameters.isObject = true := by simpa using object
    have checked : details.check = .ok () := by rw [Details.check, if_pos fit]
    refine .absent (fun missing => ?_) fun parent found => ?_
    · rw [putAnalysis, checked, compound?, missing]
      exact ⟨_, rfl, rfl⟩
    · rw [putAnalysis_eq checked found]
      rfl

theorem rejectedBy_removeAnalysis (id : AnalysisId) :
    RejectedBy ((workspace.removeAnalysis id).mapError Problem.rejection)
      [(!Roster.contains id workspace.analyses, .notFound)] := by
  refine .absent (fun missing => ?_) fun analysis found => ?_
  · rw [removeAnalysis, analysis?, missing]
    exact ⟨_, rfl, rfl⟩
  · rw [removeAnalysis, analysis?, found]
    rfl

end Analysis.Workspace

/-! ## §3 Commands -/

/-- All commands need a connection but those that make or end one and those that only read. -/
def Command.needsConnection : Command → Bool
  | connect _ | disconnect | getConfig | getConnection | getDataset _ | listDatasets => false
  | _ => true

namespace Core

/-- What may speak against a command once there is a connection, if it needs one. -/
def furtherObjections (core : Core) (facts : Facts) : Command → List Objection
  | .getConfig | .getConnection | .listDatasets | .disconnect => []
  | .connect spec => spec.objections facts.unreachable
  | .registerDataset _ params =>
    [(!decide (params.WellShaped ∧ params.Held facts.file), .invalidParameters)]
  | .getDataset id | .removeDataset id => [(!core.datasets.contains id, .notFound)]
  | .putCompound _ dataset _ => [(!core.datasets.contains dataset, .datasetNotFound)]
  | .putAnalysis _ compound details =>
    [(!details.parameters.isObject, .invalidParameters),
      (!Roster.contains compound core.workspace.compounds, .compoundAnalysisNotFound)]
  | .removeCompound id => [(!Roster.contains id core.workspace.compounds, .notFound)]
  | .removeAnalysis id | .runAnalysis id =>
    [(!Roster.contains id core.workspace.analyses, .notFound)]
  | .cancelJob id => [(!Roster.contains id core.jobs.records, .notFound)]

/-- What may speak against a command, in the order in which it is looked at. -/
def objections (core : Core) (facts : Facts) (command : Command) : List Objection :=
  (if command.needsConnection then [(!core.connection.isConnected, .notConnected)] else []) ++
    core.furtherObjections facts command

variable {core : Core}

theorem rejectedBy_requireConnected (core : Core) :
    RejectedBy core.requireConnected [(!core.connection.isConnected, .notConnected)] := by
  unfold requireConnected
  cases core.connection.isConnected <;> rfl

/-- The dataset of a listed analysis is registered. -/
theorem Sound.dataset_of_analysis (h : core.Sound) {id : AnalysisId} {analysis : Analysis}
    (found : core.workspace.analysis? id = some analysis) :
    ∃ dataset, core.datasets.get? analysis.dataset = some dataset := by
  obtain ⟨compound, listed, -, same⟩ := h.parent (Roster.mem_of_find?_eq_some found)
  exact Roster.mem_keys_iff_find?.1 (same ▸ h.standing.registered compound listed)

theorem rejectedBy_removeDataset (core : Core) (id : DatasetId) :
    RejectedBy (core.removeDataset id)
      [(!core.connection.isConnected, .notConnected), (!core.datasets.contains id, .notFound)] :=
  (rejectedBy_requireConnected core).bind fun _ _ =>
    (core.datasets.rejectedBy_remove id).bind_pure _

theorem Sound.rejectedBy_runAnalysis (h : core.Sound) (fresh : JobId) (answer : EngineAnswer)
    (id : AnalysisId) :
    RejectedBy (core.runAnalysis fresh answer id)
      [(!core.connection.isConnected, .notConnected),
        (!Roster.contains id core.workspace.analyses, .notFound)] := by
  refine (rejectedBy_requireConnected core).bind fun _ _ => ?_
  refine .absent (fun missing => ?_) fun analysis found => ?_
  · rw [Analysis.Workspace.analysis?, missing]
    exact ⟨_, rfl, rfl⟩
  · obtain ⟨dataset, registered⟩ := h.dataset_of_analysis found
    rw [Analysis.Workspace.analysis?, found]
    dsimp only
    rw [registered]
    dsimp only
    split <;> rfl

theorem rejectedBy_cancelJob (core : Core) (id : JobId) :
    RejectedBy (core.cancelJob id)
      [(!core.connection.isConnected, .notConnected),
        (!Roster.contains id core.jobs.records, .notFound)] := by
  refine (rejectedBy_requireConnected core).bind fun _ _ => ?_
  refine .absent (fun missing => ?_) fun record found => ?_
  · rw [Job.Table.get?, missing]
    exact ⟨_, rfl, rfl⟩
  · rw [Job.Table.get?, found]
    dsimp only
    split <;> rfl

/-- Where there is a connection, a prepared dataset is stored. -/
theorem rejectedBy_registerDataset (connected : core.requireConnected = .ok ())
    (dataset : Dataset) : RejectedBy (core.registerDataset dataset) [] := by
  rw [registerDataset, connected]
  rfl

/-- A command is rejected by its objections. That the core is sound matters for a job only: the
dataset of an analysis is looked up, but it cannot be missing. -/
theorem Sound.rejectedBy_perform (h : core.Sound) (context : Context) (command : Command) :
    RejectedBy (core.perform context command) (core.objections context.facts command) := by
  have connection := rejectedBy_requireConnected core
  cases command with
  | getConfig | getConnection | listDatasets | disconnect => exact .ok _
  | connect spec => exact (Connection.rejectedBy_verify spec context.facts.unreachable).bind_pure _
  | getDataset id =>
    refine .absent (fun missing => ?_) fun dataset found => ?_
    · rw [perform, Dataset.Registry.get?, missing]
      exact ⟨_, rfl, rfl⟩
    · rw [perform, Dataset.Registry.get?, found]
      exact .ok _
  | registerDataset id params =>
    refine connection.bind fun _ connected => ?_
    exact (Dataset.rejectedBy_prepare id params context.facts.file).bind fun dataset _ =>
      (rejectedBy_registerDataset connected dataset).bind_pure _
  | removeDataset id =>
    exact (rejectedBy_removeDataset core id).bind_pure _
  | putCompound id dataset details =>
    have stored := core.workspace.rejectedBy_putCompound core.datasets id dataset details
    exact (connection.bind fun _ _ => stored.bind_pure _).bind_pure _
  | removeCompound id =>
    have removed := core.workspace.rejectedBy_removeCompound id
    exact (connection.bind fun _ _ => removed.bind_pure _).bind_pure _
  | putAnalysis id compound details =>
    have stored := core.workspace.rejectedBy_putAnalysis id compound details
    exact (connection.bind fun _ _ => stored.bind_pure _).bind_pure _
  | removeAnalysis id =>
    have removed := core.workspace.rejectedBy_removeAnalysis id
    exact (connection.bind fun _ _ => removed.bind_pure _).bind_pure _
  | runAnalysis id =>
    exact (h.rejectedBy_runAnalysis context.nextJob context.answer id).bind_pure _
  | cancelJob id => exact (rejectedBy_cancelJob core id).bind_pure _

/-! ## §4 Replies -/

end Core

theorem ErrorCode.ofName?_name (code : ErrorCode) : ofName? code.name = some code := by
  cases code <;> rfl

theorem ErrorCode.toJson_injective {a b : ErrorCode} (h : a.toJson = b.toJson) : a = b := by
  have names : a.name = b.name := Json.str.inj h
  have same := congrArg ErrorCode.ofName? names
  rw [ofName?_name, ofName?_name] at same
  exact Option.some.inj same

theorem ErrorCode.ne_name {name : String} (h : ofName? name = none) (code : ErrorCode) :
    name ≠ code.name := by
  rintro rfl
  rw [ofName?_name] at h
  exact nomatch h

/-- The type of an answer is not a code. -/
theorem Reply.messageType_ne_code (reply : Reply) (code : ErrorCode) :
    reply.toJson.field? "messageType" ≠ some code.toJson := by
  have named {name : String} (h : ErrorCode.ofName? name = none) :
      some (Json.str name) ≠ some code.toJson := fun same =>
    code.ne_name h (Json.str.inj (Option.some.inj same))
  cases reply with
  | changed message => exact named (by cases message <;> rfl)
  | connection connection => cases connection <;> exact nofun
  | capabilities | dataset | datasets | running | canceled => exact named rfl

namespace Core

variable {core : Core} {context : Context} {command : Command}

/-- The reply has a code for its type iff the command was rejected with this code. -/
theorem messageType_eq_code_iff {code : ErrorCode} :
    (core.dispatch context command).toJson.field? "messageType" = some code.toJson ↔
      Rejection.code? (core.perform context command) = some code := by
  unfold Outcome.toJson dispatch
  cases made : core.perform context command with
  | error rejection =>
    have type : rejection.toJson.field? "messageType" = some rejection.code.toJson := rfl
    simp only [type, Rejection.code?, Option.some.injEq]
    exact ⟨ErrorCode.toJson_injective, congrArg ErrorCode.toJson⟩
  | ok change =>
    exact iff_of_false (change.value.messageType_ne_code code) (Option.some_ne_none code).symm

theorem status_eq_error_iff_isSome :
    (core.dispatch context command).toJson.field? "status" = some (.str "error") ↔
      (Rejection.code? (core.perform context command)).isSome = true := by
  unfold Outcome.toJson dispatch
  cases made : core.perform context command with
  | error rejection => exact iff_of_true rfl rfl
  | ok change => exact iff_of_false (Reply.status_ne_error (isError_of_perform made)) nofun

/-- That a job fails is no objection to any command. -/
theorem first?_ne_jobExecution (core : Core) (facts : Facts) (command : Command) :
    Objection.first? (core.objections facts command) ≠ some .jobExecution := by
  refine Objection.first?_ne ?_
  cases command with
  | connect spec => cases spec <;> rfl
  | _ => rfl

theorem first?_runAnalysis_ne (core : Core) (facts : Facts) (id : AnalysisId) :
    Objection.first? (core.objections facts (.runAnalysis id)) ≠ some .datasetNotFound :=
  Objection.first?_ne rfl

/-- In place, a registered dataset is removed for sure, also after what depended on it is gone. If
the removal fails, nothing was removed before. -/
theorem Sound.removeDataset_in_place (h : core.Sound) (id : DatasetId) (serials : Serials) :
    (id ∈ core.datasets.ids →
      ∃ dataset draft, Act.removeDataset id ⟨core, serials, []⟩ = .ok dataset draft) ∧
    ∀ rejection draft, Act.removeDataset id ⟨core, serials, []⟩ = .error rejection draft →
      draft = ⟨core, serials, []⟩ := by
  have whole : Act.removeDataset id ⟨core, serials, []⟩ =
      Draft.commit ⟨core, serials, []⟩ (core.removeDataset id) := Act.makes_removeDataset id _
  rw [whole]
  constructor
  · intro registered
    obtain ⟨made, ok⟩ := (rejectedBy_removeDataset core id).eq_ok (by
      have listed : core.datasets.contains id = true := Roster.contains_iff.2 registered
      simp [h.isConnected_of_dataset registered, listed])
    exact ⟨made.value, _, by rw [ok]; rfl⟩
  · intro rejection draft failed
    cases made : core.removeDataset id with
    | ok change =>
      rw [made] at failed
      exact nomatch failed
    | error _ =>
      rw [made] at failed
      exact (EStateM.Result.error.inj failed).2.symm

/-- In every core that a run leads to, the reply to a command is an error iff one of the objections
to it holds, and its type is the code of the first that does. So no command is answered with the
code for failed jobs, whatever the engine says to a job, and no run with the one for missing
datasets. A dataset that is to be removed and is there is removed, also step by step. -/
theorem rejected_by_first_objection (occurrences : List Occurrence) (context : Context) :
    let core := (run {} occurrences).1
    let reply (command : Command) := (core.dispatch context command).toJson
    (∀ command, (reply command).field? "status" = some (.str "error") ↔
      ∃ objection ∈ core.objections context.facts command, objection.1 = true) ∧
    (∀ command code, (reply command).field? "messageType" = some (ErrorCode.toJson code) ↔
      Objection.first? (core.objections context.facts command) = some code) ∧
    (∀ command, (reply command).field? "messageType" ≠ some ErrorCode.jobExecution.toJson) ∧
    (∀ id, (reply (.runAnalysis id)).field? "messageType" ≠
      some ErrorCode.datasetNotFound.toJson) ∧
    ∀ id serials,
      (id ∈ core.datasets.ids →
        ∃ dataset draft, Act.removeDataset id ⟨core, serials, []⟩ = .ok dataset draft) ∧
      ∀ rejection draft, Act.removeDataset id ⟨core, serials, []⟩ = .error rejection draft →
        draft = ⟨core, serials, []⟩ := by
  intro core reply
  have h : core.Sound := sound_run occurrences
  have status (command : Command) : (reply command).field? "status" = some (.str "error") ↔
      ∃ objection ∈ core.objections context.facts command, objection.1 = true := by
    rw [status_eq_error_iff_isSome, h.rejectedBy_perform context command, Objection.isSome_first?]
  have type (command : Command) (code : ErrorCode) :
      (reply command).field? "messageType" = some code.toJson ↔
        Objection.first? (core.objections context.facts command) = some code := by
    rw [messageType_eq_code_iff, h.rejectedBy_perform context command]
  refine ⟨status, type, fun command => ?_, fun id => ?_, h.removeDataset_in_place⟩
  · exact mt (type command _).1 (first?_ne_jobExecution core context.facts command)
  · exact mt (type _ _).1 (first?_runAnalysis_ne core context.facts id)

/-- After the sample run, with an engine that takes no more work. -/
theorem rejected_by_first_objection_rerun :
    let core := (run {} Occurrence.rerun).1
    let context : Context := ⟨⟨"", "", 0, "", "", []⟩, {}, .ofNat 3, fun _ => some .shutDown, {}⟩
    let reply (command : Command) := (core.dispatch context command).toJson
    (reply (.putCompound (.ofNat 1) (.ofNat 7) ⟨.sumFrames, []⟩)).field? "messageType" =
        some ErrorCode.datasetNotFound.toJson ∧
      (reply (.putAnalysis (.ofNat 1) (.ofNat 7) ⟨.sumFrames, .null⟩)).field? "messageType" =
        some ErrorCode.invalidParameters.toJson ∧
      (reply (.runAnalysis (.ofNat 1))).field? "status" ≠ some (.str "error") ∧
      ∃ dataset draft, Act.removeDataset (.ofNat 1) ⟨core, ⟨1, 1, 1⟩, []⟩ = .ok dataset draft := by
  intro core context reply
  obtain ⟨status, type, -, -, removal⟩ := rejected_by_first_objection Occurrence.rerun context
  refine ⟨(type _ _).2 (by rfl), (type _ _).2 (by rfl), mt (status _).1 (by decide),
    (removal (.ofNat 1) ⟨1, 1, 1⟩).1 (by decide)⟩

end Core

end Coordination
