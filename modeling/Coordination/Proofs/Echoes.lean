/-
Coordination.Proofs.Echoes — who sends a command and who observes it are told the same.

A reply is made from what a change gives, a batch of messages while the
change is made. What both say of a command that was accepted is the same
(`replies_agree_with_batches`): the reply is the wire form of one message of
the batch and of no other, and the record in it is the one that is stored in
the end, after its order was settled and its dataset taken over from its
compound analysis. A connection is answered in the form of a read instead, and
shares its spec with the message.

A batch has other messages, but never one of the type of the reply. So it is
enough to know of every part of a change which types its messages have.

  §1 Types      — `OfTypes`, for each part of a change.
  §2 Agreement  — `Outcome.Echoed`, `Roster.Shown`, `Core.Agrees`.
  §3 Commands   — one lemma for each kind, and the theorem.
-/
import Coordination.Proofs.MessageCodec
import Coordination.Proofs.Upserts

namespace Coordination

open Analysis (Workspace)
open Roster (keys)

/-! ## §1 Types -/

/-- All messages among some effects have listed types. -/
def OfTypes (types : List String) (effects : List Effect) : Prop :=
  ∀ message ∈ Effect.messages effects, message.typeName ∈ types

namespace OfTypes

variable {types more : List String} {effects others : List Effect}

theorem nil : OfTypes types [] := nofun

theorem append (h : OfTypes types effects) (h' : OfTypes types others) :
    OfTypes types (effects ++ others) := by
  intro message hm
  rw [Effect.messages_append] at hm
  exact (List.mem_append.1 hm).elim (h message) (h' message)

theorem cons {message : Message} (first : message.typeName ∈ types) (h : OfTypes types effects) :
    OfTypes types (.publish message :: effects) := by
  intro other ho
  rcases List.mem_cons.1 ho with rfl | ho
  · exact first
  · exact h other ho

theorem mono (h : OfTypes types effects) (wider : types ⊆ more) : OfTypes more effects :=
  fun message hm => wider (h message hm)

/-- Several messages that are made in one way. -/
theorem map {α : Type} {message : α → Message} (each : ∀ a, (message a).typeName ∈ types)
    (xs : List α) : OfTypes types (xs.map fun x => .publish (message x)) := by
  intro other ho
  rw [Effect.messages_publish] at ho
  obtain ⟨x, -, rfl⟩ := List.mem_map.1 ho
  exact each x

end OfTypes

namespace Job.Table

theorem types_retire (table : Table) (analysis : AnalysisId) :
    OfTypes ["CANCEL_JOB_DONE"] (table.retire analysis).2 := by
  rw [retire_snd]
  split
  · split
    · exact .nil
    · exact .cons List.mem_cons_self .nil
  · exact .nil

theorem types_withdrawAnalyses (table : Table) (gone : List Analysis) :
    OfTypes ["CANCEL_JOB_DONE", "ANALYSIS_REMOVED"] (table.withdrawAnalyses gone).2 := by
  induction gone generalizing table with
  | nil => exact .nil
  | cons a rest ih =>
    refine ((table.types_retire a.id).mono ?_).append (.cons ?_ (ih _))
    · simp
    · simp [Message.typeName]

theorem types_withdraw (table : Table) (gone : List Workspace.Removed) :
    OfTypes ["CANCEL_JOB_DONE", "ANALYSIS_REMOVED", "COMPOUND_ANALYSIS_REMOVED"]
      (table.withdraw gone).2 := by
  induction gone generalizing table with
  | nil => exact .nil
  | cons removed rest ih =>
    refine ((table.types_withdrawAnalyses removed.analyses).mono ?_).append (.cons ?_ (ih _))
    · simp
    · simp [Message.typeName]

theorem types_retireEach (table : Table) (analyses : List AnalysisId) :
    OfTypes ["CANCEL_JOB_DONE"] (table.retireEach analyses).2 := by
  induction analyses generalizing table with
  | nil => exact .nil
  | cons a rest ih => exact (table.types_retire a).append (ih _)

theorem types_refresh (table : Table) (changed : List Analysis) :
    OfTypes ["CANCEL_JOB_DONE", "ANALYSIS_UPDATED"] (table.refresh changed).2 := by
  induction changed generalizing table with
  | nil => exact .nil
  | cons a rest ih =>
    refine ((table.types_retire a.id).mono ?_).append (.cons ?_ (ih _))
    · simp
    · simp [Message.typeName, Message.analysisStored]

end Job.Table

namespace Core

variable (core : Core)

theorem types_removeDependents (id : DatasetId) :
    OfTypes ["CANCEL_JOB_DONE", "ANALYSIS_REMOVED", "COMPOUND_ANALYSIS_REMOVED"]
      (core.removeDependents id).2 :=
  core.jobs.types_withdraw _

theorem types_teardown :
    OfTypes ["CANCEL_JOB_DONE", "ANALYSIS_REMOVED", "COMPOUND_ANALYSIS_REMOVED", "DELETE_DATASET"]
      core.teardown.2 := by
  obtain ⟨gone, same⟩ := core.datasets.removeEach_snd core.datasets.ids
  show OfTypes _ (_ ++ (core.datasets.removeEach core.datasets.ids).2 ++ _)
  rw [same]
  refine ((core.jobs.types_withdraw _).mono ?_).append (.map ?_ _) |>.append
    ((Job.Table.types_retireEach _ _).mono ?_)
  all_goals simp [Message.typeName]

end Core

/-! ## §2 Agreement -/

/-- A message is in a list once, and it is the only one of its type. -/
def Message.Alone (message : Message) (messages : List Message) : Prop :=
  ∃ before after, messages = before ++ message :: after ∧
    ∀ other ∈ before ++ after, other.typeName ≠ message.typeName

theorem OfTypes.alone {types : List String} {before after : List Effect} {message : Message}
    (h : OfTypes types before) (h' : OfTypes types after) (new : message.typeName ∉ types) :
    message.Alone (Effect.messages (before ++ .publish message :: after)) := by
  refine ⟨Effect.messages before, Effect.messages after, Effect.messages_append _ _, ?_⟩
  intro other ho same
  exact new (same ▸ (List.mem_append.1 ho).elim (h other) (h' other))

namespace Outcome

/-- The reply is the wire form of exactly one message of the batch. -/
def Echoed (outcome : Outcome) : Prop :=
  ∃ before message after, Effect.messages outcome.effects = before ++ message :: after ∧
    outcome.toJson = message.toJson ∧
    ∀ other ∈ before ++ after, ¬ Json.Same outcome.toJson other.toJson

theorem Echoed.of_alone {outcome : Outcome} {message : Message}
    (reply : outcome.reply = .ok (.changed message))
    (alone : message.Alone (Effect.messages outcome.effects)) : outcome.Echoed := by
  obtain ⟨before, after, batch, others⟩ := alone
  have wire : outcome.toJson = message.toJson := by
    rw [toJson, reply]
    rfl
  refine ⟨before, message, after, batch, wire, fun other ho same => others other ho ?_⟩
  rw [wire] at same
  exact (Json.discerning_same.text (Json.discerning_same.field same "messageType" rfl rfl)).symm

end Outcome

/-- A record is the one that a list has under its key. -/
def Roster.Shown {α κ : Type} [Keyed α κ] (record : α) (records : List α) : Prop :=
  record ∈ records ∧ ∀ other ∈ records, Keyed.key other = Keyed.key record → other = record

theorem Roster.shown_of_find? {α κ : Type} [Keyed α κ] [DecidableEq κ] {records : List α}
    (apart : (keys records).Nodup) {k : κ} {record : α} (h : find? k records = some record) :
    Shown record records :=
  have there := mem_of_find?_eq_some h
  ⟨there, fun _ ho same => eq_of_key apart ho there same⟩

namespace Core

/-- How the reply to an accepted command goes with the batch and with what is read afterwards. -/
def Agrees (core : Core) (outcome : Outcome) : Command → Prop
  | .registerDataset id _ => outcome.Echoed ∧ ∃ dataset, dataset.id = id ∧
      outcome.toJson = (Message.datasetCreated id dataset).toJson ∧
      Roster.Shown dataset outcome.core.snapshot.datasets ∧
      ∀ context, (outcome.core.dispatch context (.getDataset id)).reply = .ok (.dataset dataset)
  | .putCompound id _ _ => outcome.Echoed ∧ ∃ created compound, compound.id = id ∧
      outcome.toJson = (Message.compoundStored created compound).toJson ∧
      Roster.Shown compound outcome.core.snapshot.compounds
  | .putAnalysis id _ _ => outcome.Echoed ∧ ∃ created analysis, analysis.id = id ∧
      outcome.toJson = (Message.analysisStored created analysis).toJson ∧
      Roster.Shown analysis outcome.core.snapshot.analyses
  | .removeDataset _ | .removeCompound _ | .removeAnalysis _ => outcome.Echoed
  | .connect spec =>
      (∀ context, outcome.toJson = (outcome.core.dispatch context .getConnection).toJson) ∧
      (Message.connected spec).Alone (Effect.messages outcome.effects) ∧
      outcome.toJson.field? "connection" = (Message.connected spec).toJson.field? "connection"
  | .disconnect => core.connection.isConnected = true →
      outcome.toJson = Message.disconnected.toJson ∧ outcome.Echoed
  | _ => True

/-! ## §3 Commands -/

variable {core : Core}

theorem alone_registerDataset {dataset : Dataset} {change : Change Dataset}
    (hok : core.registerDataset dataset = .ok change) :
    (Message.datasetCreated dataset.id dataset).Alone (Effect.messages change.effects) ∧
      change.value = dataset ∧ change.core.datasets.get? dataset.id = some dataset := by
  have stored : ((core.datasets.insert dataset).1).get? dataset.id = some dataset := by
    rw [Dataset.Registry.insert, Dataset.Registry.get?, Roster.find?_renew]
    exact if_pos rfl
  obtain ⟨-, ⟨-, rfl⟩ | ⟨-, rfl⟩⟩ := registerDataset_accepted hok
  · exact ⟨(core.types_removeDependents dataset.id).alone .nil (by simp [Message.typeName]),
      rfl, stored⟩
  · exact ⟨(OfTypes.nil : OfTypes [] []).alone .nil List.not_mem_nil, rfl, stored⟩

theorem alone_removeDataset {id : DatasetId} {change : Change Dataset}
    (hok : core.removeDataset id = .ok change) :
    (Message.datasetDeleted id).Alone (Effect.messages change.effects) := by
  obtain ⟨dataset, -, rfl⟩ := removeDataset_accepted hok
  exact (core.types_removeDependents id).alone .nil (by simp [Message.typeName])

theorem alone_removeCompound (h : core.Sound) {id : CompoundId} {change : Change Compound}
    (hok : core.removeCompound id = .ok change) :
    (Message.compoundRemoved id).Alone (Effect.messages change.effects) := by
  obtain ⟨workspace, removed, gone, rfl⟩ := removeCompound_accepted hok
  have found := (Workspace.removeCompound_spec h.workspace gone).found
  obtain rfl : removed.compound.id = id := Roster.key_of_find?_eq_some found
  exact (core.jobs.types_withdrawAnalyses removed.analyses).alone .nil (by simp [Message.typeName])

theorem alone_removeAnalysis {id : AnalysisId} {change : Change Analysis}
    (hok : core.removeAnalysis id = .ok change) :
    (Message.analysisRemoved id).Alone (Effect.messages change.effects) := by
  obtain ⟨workspace, analysis, parent, -, rfl⟩ := removeAnalysis_accepted hok
  have updated : OfTypes ["CANCEL_JOB_DONE", "COMPOUND_ANALYSIS_UPDATED"]
      (parent.toList.map fun parent => .publish (.compoundStored false parent)) :=
    .map (fun _ => by simp [Message.typeName, Message.compoundStored]) _
  exact ((core.jobs.types_retire id).mono (by simp)).alone updated (by simp [Message.typeName])

theorem alone_putCompound (h : core.Sound) {id : CompoundId} {dataset : DatasetId}
    {details : Compound.Details} {change : Change (Stored Compound)}
    (hok : core.putCompound id dataset details = .ok change) :
    (Message.compoundStored change.value.created change.value.value).Alone
        (Effect.messages change.effects) ∧
      change.value.value.id = id ∧
      change.core.workspace.compound? id = some change.value.value := by
  obtain ⟨workspace, stored, put, -, rfl⟩ := putCompound_accepted hok
  have p := Workspace.putCompound_spec h.workspace put
  have own : stored.compound.id = id := by rw [p.compound]
  refine ⟨OfTypes.nil.alone (core.jobs.types_refresh _) ?_, own, ?_⟩
  · cases stored.created <;> simp [Message.compoundStored, Message.typeName]
  · show Roster.find? id workspace.compounds = _
    rw [p.compounds, Roster.find?_set]
    exact if_pos own.symm

theorem alone_putAnalysis (h : core.Sound) {id : AnalysisId} {compound : CompoundId}
    {details : Analysis.Details} {change : Change (Stored Analysis)}
    (hok : core.putAnalysis id compound details = .ok change) :
    (Message.analysisStored change.value.created change.value.value).Alone
        (Effect.messages change.effects) ∧
      change.value.value.id = id ∧
      change.core.workspace.analysis? id = some change.value.value := by
  obtain ⟨workspace, stored, put, -, outcome⟩ := putAnalysis_accepted hok
  have p := Workspace.putAnalysis_spec h.workspace put
  have found : workspace.analysis? id = some stored.analysis := by
    rw [Workspace.analysis?, p.analyses, Roster.find?_set]
    exact if_pos p.id_eq.symm
  have updated : OfTypes ["CANCEL_JOB_DONE", "COMPOUND_ANALYSIS_UPDATED"]
      (stored.reordered.map fun parent => .publish (.compoundStored false parent)) :=
    .map (fun _ => by simp [Message.typeName, Message.compoundStored]) _
  have new : (Message.analysisStored stored.created stored.analysis).typeName ∉
      ["CANCEL_JOB_DONE", "COMPOUND_ANALYSIS_UPDATED"] := by
    cases stored.created <;> simp [Message.analysisStored, Message.typeName]
  obtain ⟨-, rfl⟩ | ⟨-, rfl⟩ := outcome
  · exact ⟨OfTypes.nil.alone updated new, p.id_eq, found⟩
  · exact ⟨((core.jobs.types_retire id).mono (by simp)).alone updated new, p.id_eq, found⟩

theorem alone_connect (spec : Connection.Spec) :
    (Message.connected spec).Alone (Effect.messages (core.connect spec).effects) := by
  have apart : ∀ b : Bool, OfTypes
      ["CANCEL_JOB_DONE", "ANALYSIS_REMOVED", "COMPOUND_ANALYSIS_REMOVED", "DELETE_DATASET"]
      (if b then core.teardown else (core, [])).2 := by
    rintro (_ | _)
    · exact .nil
    · exact core.types_teardown
  exact (apart _).alone .nil (by simp [Message.typeName])

theorem alone_disconnect (connected : core.connection.isConnected = true) :
    Message.disconnected.Alone (Effect.messages core.disconnect.effects) := by
  have batch : core.disconnect.effects = core.teardown.2 ++ [.publish .disconnected] :=
    if_pos connected
  rw [batch]
  exact core.types_teardown.alone .nil (by simp [Message.typeName])

/-- A command that is accepted is answered in agreement with its batch. -/
theorem agrees_perform (h : core.Sound) {context : Context} {command : Command}
    {change : Change Reply} (hok : core.perform context command = .ok change) :
    core.Agrees ⟨change.core, knocks command ++ change.effects, .ok change.value⟩ command := by
  have sound : change.core.Sound := (moved_perform h hok).sound h
  cases command with
  | connect spec =>
    obtain ⟨_, -, hok⟩ := bind_eq_ok.1 hok
    obtain rfl : _ = change := Except.ok.inj hok
    refine ⟨fun _ => rfl, ?_, rfl⟩
    rw [Effect.messages_append, Effect.messages_knocks]
    exact core.alone_connect spec
  | disconnect =>
    obtain rfl : _ = change := Except.ok.inj hok
    exact fun connected => ⟨rfl, .of_alone rfl (alone_disconnect connected)⟩
  | registerDataset id params =>
    obtain ⟨_, -, hok⟩ := bind_eq_ok.1 hok
    obtain ⟨dataset, prepared, hok⟩ := bind_eq_ok.1 hok
    obtain ⟨made, hm, rfl⟩ := answering_accepted hok
    obtain rfl := id_of_prepare (mapError_eq_ok.1 prepared)
    obtain ⟨alone, value, found⟩ := alone_registerDataset hm
    rw [answering, value]
    refine ⟨.of_alone rfl alone, dataset, rfl, rfl,
      Roster.shown_of_find? sound.standing.datasets_nodup found, fun later => ?_⟩
    simp only [dispatch, perform, found]
    rfl
  | removeDataset id =>
    obtain ⟨made, hm, rfl⟩ := answering_accepted hok
    exact .of_alone rfl (alone_removeDataset hm)
  | putCompound id dataset details =>
    obtain ⟨made, hm, rfl⟩ := answering_accepted hok
    obtain ⟨alone, own, found⟩ := alone_putCompound h hm
    exact ⟨.of_alone rfl alone, made.value.created, made.value.value, own, rfl,
      Roster.shown_of_find? sound.workspace.compounds_nodup found⟩
  | removeCompound id =>
    obtain ⟨made, hm, rfl⟩ := answering_accepted hok
    exact .of_alone rfl (alone_removeCompound h hm)
  | putAnalysis id compound details =>
    obtain ⟨made, hm, rfl⟩ := answering_accepted hok
    obtain ⟨alone, own, found⟩ := alone_putAnalysis h hm
    exact ⟨.of_alone rfl alone, made.value.created, made.value.value, own, rfl,
      Roster.shown_of_find? sound.workspace.analyses_nodup found⟩
  | removeAnalysis id =>
    obtain ⟨made, hm, rfl⟩ := answering_accepted hok
    exact .of_alone rfl (alone_removeAnalysis hm)
  | _ => trivial

theorem perform_of_accepted {context : Context} {command : Command} {reply : Reply}
    (accepted : (core.dispatch context command).reply = .ok reply) :
    ∃ change, core.perform context command = .ok change ∧
      core.dispatch context command =
        ⟨change.core, knocks command ++ change.effects, .ok change.value⟩ := by
  unfold dispatch at accepted ⊢
  cases performed : core.perform context command with
  | error rejection =>
    rw [performed] at accepted
    cases accepted
  | ok change => exact ⟨change, rfl, rfl⟩

/-- In every core that a run leads to, whatever a command is told: if it is accepted, its reply and
the batch of its messages agree with each other and with what is stored. -/
theorem replies_agree_with_batches (occurrences : List Occurrence) (context : Context)
    (command : Command) {reply : Reply}
    (accepted : ((run {} occurrences).1.dispatch context command).reply = .ok reply) :
    (run {} occurrences).1.Agrees ((run {} occurrences).1.dispatch context command) command := by
  obtain ⟨change, performed, outcome⟩ := perform_of_accepted accepted
  rw [outcome]
  exact agrees_perform (sound_run occurrences) performed

/-- A compound analysis goes over to another dataset. The order that was asked for is not the one
that is stored, and both the reply and the message have the latter. -/
theorem replies_agree_with_batches_grouped :
    let core := (run {} Occurrence.grouped).1
    let context : Context := ⟨⟨"", "", 0, "", "", []⟩, {}, .ofNat 3, accepting, {}⟩
    let asked : List AnalysisId := [.ofNat 3, .ofNat 9, .ofNat 3, .ofNat 2]
    let command : Command := .putCompound (.ofNat 1) (.ofNat 2) ⟨.sumFrames, asked⟩
    let outcome := core.dispatch context command
    let order : List AnalysisId := [.ofNat 3, .ofNat 2, .ofNat 1]
    outcome.reply = .ok (.changed (.compoundUpdated (.ofNat 1) (.ofNat 2) ⟨.sumFrames, order⟩)) ∧
      core.Agrees outcome command := by
  intro core context asked command outcome order
  have accepted : outcome.reply =
      .ok (.changed (.compoundUpdated (.ofNat 1) (.ofNat 2) ⟨.sumFrames, order⟩)) := rfl
  exact ⟨accepted, replies_agree_with_batches _ _ _ accepted⟩

end Core

end Coordination
