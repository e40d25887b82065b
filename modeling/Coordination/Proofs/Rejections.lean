/-
Coordination.Proofs.Rejections — a rejected request has no effect.

The reply to a request is an error if and only if the request was rejected.
Then the server is as it was: the core, the observers and the engine. All
that may have been done is to knock at the address of a connection. In
place, too, nothing had been changed, numbered or announced when the check
failed.

  §1 Outcomes  — `Core.dispatchValue_in_place`, `Core.dispatchValue_rejected`.
  §2 Replies   — `Core.status_eq_error_iff`.
  §3 Servers   — `Server.rejected_without_effect`.
-/
import Coordination.Proofs.InPlace
import Coordination.Server.State

namespace Coordination

/-! ## §1 Outcomes -/

/-- A draft after the outcome of a command. -/
def Draft.after (draft : Draft) (outcome : Outcome) : Draft :=
  ⟨outcome.core, draft.serials.afterAll outcome.effects, draft.effects ++ outcome.effects⟩

/-- What an act ends with that has the outcome of a command. -/
def Draft.answer (draft : Draft) (outcome : Outcome) : EStateM.Result Rejection Draft Reply :=
  match outcome.reply with
  | .ok reply => .ok reply (draft.after outcome)
  | .error rejection => .error rejection (draft.after outcome)

variable {core : Core} {context : Context}

namespace Core

/-- Nothing is announced and the engine is not called. -/
theorem knocks_probe {command : Command} {effect : Effect} (h : effect ∈ knocks command) :
    ∃ address, effect = .probe address := by
  unfold knocks at h
  split at h
  · split at h
    · exact ⟨_, List.mem_singleton.1 h⟩
    · cases h
  · cases h

/-- Carried out in place, a command comes to what the core gives as a whole. -/
theorem perform_in_place (context : Context) (command : Command) (draft : Draft) :
    Act.perform context command draft = draft.answer (draft.core.dispatch context command) := by
  rw [Act.perform_apply]
  unfold dispatch Draft.answer Draft.after
  cases draft.core.perform context command with
  | ok made => simp [Serials.afterAll_probes fun _ => knocks_probe]
  | error rejection => simp [Serials.afterAll_probes fun _ => knocks_probe]

theorem dispatchValue_in_place (context : Context) (request : Json) (draft : Draft) :
    Act.dispatchValue context request draft =
      draft.answer (draft.core.dispatchValue context request) := by
  unfold Act.dispatchValue dispatchValue
  cases Command.ofJson? request with
  | none => simp [Draft.answer, Draft.after]
  | some command => simpa using perform_in_place context command draft

/-- If a value is rejected, the core stays as it is. At most it was knocked somewhere. -/
theorem dispatchValue_rejected {request : Json} {rejection : Rejection}
    (h : (core.dispatchValue context request).reply = .error rejection) :
    (core.dispatchValue context request).core = core ∧
      ∀ effect ∈ (core.dispatchValue context request).effects,
        ∃ address, effect = .probe address := by
  unfold dispatchValue at h ⊢
  cases hr : Command.ofJson? request with
  | none => simp
  | some command =>
    simp only [hr, dispatch] at h ⊢
    cases hp : core.perform context command with
    | ok made => simp [hp] at h
    | error _ => exact ⟨rfl, fun _ he => knocks_probe he⟩

end Core

/-! ## §2 Replies -/

theorem isError_compoundStored (created : Bool) (compound : Compound) :
    (Message.compoundStored created compound).isError = false := by
  cases created <;> rfl

theorem isError_analysisStored (created : Bool) (analysis : Analysis) :
    (Message.analysisStored created analysis).isError = false := by
  cases created <;> rfl

/-- Of the messages that tell of a change, only the one that a job failed is an error. -/
def Reply.isError : Reply → Bool
  | changed message => message.isError
  | _ => false

namespace Core

theorem isError_answering {α : Type} {result : Except Rejection (Change α)} {reply : α → Reply}
    {made : Change Reply} (h : (do return answering (← result) reply) = Except.ok made)
    (plain : ∀ value, (reply value).isError = false) : made.value.isError = false := by
  cases result with
  | error rejection => cases h
  | ok change =>
    cases h
    exact plain change.value

/-- No command is answered with an error. -/
theorem isError_of_perform {command : Command} {made : Change Reply}
    (h : core.perform context command = .ok made) : made.value.isError = false := by
  cases command with
  | getConfig | getConnection | listDatasets | disconnect =>
    cases h
    rfl
  | connect spec =>
    rw [perform] at h
    cases hv : Connection.verify spec context.facts.unreachable with
    | error problem =>
      rw [hv] at h
      cases h
    | ok _ =>
      rw [hv] at h
      cases h
      rfl
  | registerDataset id params =>
    rw [perform] at h
    cases hc : core.requireConnected with
    | error rejection =>
      rw [hc] at h
      cases h
    | ok _ =>
      cases hp : Dataset.prepare id params context.facts.file with
      | error problem =>
        rw [hc, hp] at h
        cases h
      | ok dataset =>
        rw [hc, hp] at h
        exact isError_answering h fun _ => rfl
  | getDataset id =>
    rw [perform] at h
    split at h
    · cases h
      rfl
    · cases h
  | removeDataset id | removeCompound id | removeAnalysis id | runAnalysis id | cancelJob id =>
    exact isError_answering h fun _ => rfl
  | putCompound id dataset details =>
    exact isError_answering h fun stored => isError_compoundStored stored.created stored.value
  | putAnalysis id compound details =>
    exact isError_answering h fun stored => isError_analysisStored stored.created stored.value

end Core

/-- On the wire, such an answer has another status. -/
theorem Reply.status_ne_error {reply : Reply} (h : reply.isError = false) :
    reply.toJson.field? "status" ≠ some (.str "error") := by
  cases reply with
  | changed message =>
    have ok : message.isError = false := h
    simp [toJson, Message.toJson, Message.envelope, ok, Json.field?, Json.lookup]
  | connection connection =>
    cases connection <;> simp [toJson, Connection.status, Json.field?, Json.lookup]
  | _ => simp [toJson, Message.envelope, Json.field?, Json.lookup]

/-- The replies with the status of an error are the rejections. -/
theorem Core.status_eq_error_iff {request : Json} :
    (core.dispatchValue context request).toJson.field? "status" = some (.str "error") ↔
      ∃ rejection, (core.dispatchValue context request).reply = .error rejection := by
  unfold Outcome.toJson dispatchValue
  cases Command.ofJson? request with
  | none => exact iff_of_true rfl ⟨_, rfl⟩
  | some command =>
    dsimp only
    unfold dispatch
    cases hp : core.perform context command with
    | error rejection => exact iff_of_true rfl ⟨_, rfl⟩
    | ok made =>
      refine iff_of_false (Reply.status_ne_error (isError_of_perform hp)) ?_
      rintro ⟨rejection, h⟩
      cases h

/-! ## §3 Servers -/

namespace Server

theorem carryOutAll_probes {effects : List Effect}
    (h : ∀ effect ∈ effects, ∃ address, effect = .probe address) (server : Server) :
    server.carryOutAll effects = server := by
  induction effects with
  | nil => rfl
  | cons effect rest ih =>
    obtain ⟨address, rfl⟩ := h effect (List.mem_cons_self ..)
    exact ih fun effect he => h effect (List.mem_cons_of_mem _ he)

/-- A request that is rejected leaves a server as it was, with its observers and its engine, and
nothing was done for it but to knock at an address. The same holds in place: no entry got a number,
and nothing had been changed or announced when the check failed. -/
theorem rejected_without_effect (server : Server) (serials : Serials) (facts : Facts)
    (request : Json)
    (h : (server.dispatch facts request).2.toJson.field? "status" = some (.str "error")) :
    (server.dispatch facts request).1 = server ∧
      ∃ rejection knocks, (∀ effect ∈ knocks, ∃ address, effect = .probe address) ∧
        (server.dispatch facts request).2 = ⟨server.core, knocks, .error rejection⟩ ∧
        Act.dispatchValue (server.context facts) request ⟨server.core, serials, []⟩ =
          .error rejection ⟨server.core, serials, knocks⟩ := by
  obtain ⟨rejection, hreply⟩ := Core.status_eq_error_iff.1 h
  obtain ⟨hcore, hprobes⟩ := Core.dispatchValue_rejected hreply
  have hplace :=
    Core.dispatchValue_in_place (server.context facts) request ⟨server.core, serials, []⟩
  unfold dispatch
  generalize server.core.dispatchValue (server.context facts) request = outcome at *
  obtain ⟨core, effects, reply⟩ := outcome
  obtain rfl : core = server.core := hcore
  obtain rfl : reply = .error rejection := hreply
  refine ⟨carryOutAll_probes hprobes server, rejection, effects, hprobes, rfl, ?_⟩
  rw [hplace, Draft.answer, Draft.after, Serials.afterAll_probes hprobes, List.nil_append]

/-- A server with a running job and an observer. -/
def working : Server :=
  { core := (Core.run {} Occurrence.rerun).1
    bus := ((Bus.ofCapacity 8).subscribe (.initialState (Core.run {} Occurrence.rerun).1.snapshot)).1
    engine := .external
    capabilities := ⟨"", "", 0, "", "", []⟩
    jobIds := .ofNat
    started := 2 }

/-- An analysis with a running job is to get parameters that are not an object. -/
theorem rejected_without_effect_update :
    let request := (Command.putAnalysis (.ofNat 1) (.ofNat 1) ⟨.sumFrames, .null⟩).toJson
    (working.dispatch {} request).2.toJson.field? "status" = some (.str "error") ∧
      (working.dispatch {} request).1 = working ∧
      ∃ rejection knocks, (∀ effect ∈ knocks, ∃ address, effect = .probe address) ∧
        (working.dispatch {} request).2 = ⟨working.core, knocks, .error rejection⟩ ∧
        Act.dispatchValue (working.context {}) request ⟨working.core, ⟨1, 2, 2⟩, []⟩ =
          .error rejection ⟨working.core, ⟨1, 2, 2⟩, knocks⟩ := by
  have h : (working.dispatch {}
      (Command.putAnalysis (.ofNat 1) (.ofNat 1) ⟨.sumFrames, .null⟩).toJson).2.toJson.field?
        "status" = some (.str "error") := rfl
  exact ⟨h, rejected_without_effect working ⟨1, 2, 2⟩ {} _ h⟩

end Server

end Coordination
