/-
Coordination.Proofs.Keeping — what clients hand in is handed on unchanged, until they replace it.

The parameters of an analysis and of a dataset come from clients and mean
nothing to the core. It stores them, tells observers of them, hands them to
the engine, and rewrites the records around them: an analysis goes over to
another dataset with its compound analysis, an order is renewed, a job is
superseded. None of this touches the parameters (`handed_on_unchanged`).
Whatever happens after a request was accepted, every message, every job and
every snapshot that mentions the analysis or the dataset has what the request
said, as long as no later request under the same identifier is accepted. And
unless a message tells of its removal it is there.

The core changes what observers know only by telling them. So it is enough to
look at messages: which commands tell of analyses or datasets at all, and what
they say.

  §1 Messages  — `Command.types`, `Occurrence.types`: which messages may go out.
  §2 Replicas  — `Moves.heard`: what is kept by whoever hears every message.
  §3 Analyses  — `Core.Upserts`, and that details stay until the next one.
  §4 Datasets  — `Core.Registers`, and that a dataset stays until the next one.
  §5 Requests  — `ParametersKept` and `DatasetKept`, on the wire, and the theorem.
-/
import Coordination.Proofs.Cancellation
import Coordination.Proofs.Echoes
import Coordination.Proofs.Requests

namespace Coordination

open Analysis (Workspace)
open Roster (keys)

/-! ## §1 Messages -/

/-- The types of the messages that a command may publish. -/
def Command.types : Command → List String
  | getConfig | getConnection | getDataset _ | listDatasets => []
  | connect _ => ["CANCEL_JOB_DONE", "ANALYSIS_REMOVED", "COMPOUND_ANALYSIS_REMOVED",
      "DELETE_DATASET", "CONNECT"]
  | disconnect => ["CANCEL_JOB_DONE", "ANALYSIS_REMOVED", "COMPOUND_ANALYSIS_REMOVED",
      "DELETE_DATASET", "DISCONNECT"]
  | registerDataset _ _ => ["CANCEL_JOB_DONE", "ANALYSIS_REMOVED", "COMPOUND_ANALYSIS_REMOVED",
      "CREATE_DATASET"]
  | removeDataset _ => ["CANCEL_JOB_DONE", "ANALYSIS_REMOVED", "COMPOUND_ANALYSIS_REMOVED",
      "DELETE_DATASET"]
  | putCompound _ _ _ => ["COMPOUND_ANALYSIS_CREATED", "COMPOUND_ANALYSIS_UPDATED",
      "CANCEL_JOB_DONE", "ANALYSIS_UPDATED"]
  | removeCompound _ => ["CANCEL_JOB_DONE", "ANALYSIS_REMOVED", "COMPOUND_ANALYSIS_REMOVED"]
  | putAnalysis _ _ _ => ["CANCEL_JOB_DONE", "ANALYSIS_CREATED", "ANALYSIS_UPDATED",
      "COMPOUND_ANALYSIS_UPDATED"]
  | removeAnalysis _ => ["CANCEL_JOB_DONE", "ANALYSIS_REMOVED", "COMPOUND_ANALYSIS_UPDATED"]
  | runAnalysis _ => ["CANCEL_JOB_DONE", "JOB_ERROR"]
  | cancelJob _ => ["CANCEL_JOB_DONE"]

namespace Core

variable {core : Core}

theorem types_connect (spec : Connection.Spec) :
    OfTypes (Command.connect spec).types (core.connect spec).effects := by
  have cleared : OfTypes (Command.connect spec).types
      (if core.connection.isConnected then core.teardown else (core, [])).2 := by
    split
    · exact core.types_teardown.mono (by simp [Command.types])
    · exact .nil
  exact cleared.append (.cons (by simp [Command.types, Message.typeName]) .nil)

theorem types_disconnect : OfTypes Command.disconnect.types core.disconnect.effects := by
  have cleared : OfTypes Command.disconnect.types core.teardown.2 :=
    core.types_teardown.mono (by simp [Command.types])
  show OfTypes _ (if core.connection.isConnected then _ else _)
  split
  · exact cleared.append (.cons (by simp [Command.types, Message.typeName]) .nil)
  · exact cleared

theorem types_registerDataset {dataset : Dataset} {change : Change Dataset}
    (hok : core.registerDataset dataset = .ok change) (params : Dataset.Params) :
    OfTypes (Command.registerDataset dataset.id params).types change.effects := by
  obtain ⟨-, ⟨-, rfl⟩ | ⟨-, rfl⟩⟩ := registerDataset_accepted hok
  · exact ((core.types_removeDependents _).mono (by simp [Command.types])).append
      (.cons (by simp [Command.types, Message.typeName]) .nil)
  · exact .cons (by simp [Command.types, Message.typeName]) .nil

theorem types_applyReport (report : Job.Report) :
    OfTypes ["JOB_STARTED", "TASK_RESULT", "FINISH_JOB", "CANCEL_JOB_DONE", "JOB_ERROR"]
      (core.applyReport report).effects := by
  rw [applyReport]
  split
  · refine .cons ?_ .nil
    cases report.phase <;> simp [Message.ofPhase, Message.typeName]
  · exact .nil

theorem types_perform {context : Context} {command : Command} {change : Change Reply}
    (hok : core.perform context command = .ok change) : OfTypes command.types change.effects := by
  cases command with
  | getConfig | getConnection | listDatasets =>
    obtain rfl : _ = change := Except.ok.inj hok
    exact .nil
  | getDataset id =>
    rw [perform] at hok
    split at hok
    · obtain rfl : _ = change := Except.ok.inj hok
      exact .nil
    · cases hok
  | connect spec =>
    obtain ⟨_, -, hok⟩ := bind_eq_ok.1 hok
    obtain rfl : _ = change := Except.ok.inj hok
    exact types_connect spec
  | disconnect =>
    obtain rfl : _ = change := Except.ok.inj hok
    exact types_disconnect
  | registerDataset id params =>
    obtain ⟨_, -, hok⟩ := bind_eq_ok.1 hok
    obtain ⟨dataset, -, hok⟩ := bind_eq_ok.1 hok
    obtain ⟨_, made, rfl⟩ := answering_accepted hok
    exact types_registerDataset made params
  | removeDataset id =>
    obtain ⟨_, made, rfl⟩ := answering_accepted hok
    obtain ⟨dataset, -, rfl⟩ := removeDataset_accepted made
    exact ((core.types_removeDependents _).mono (by simp [Command.types])).append
      (.cons (by simp [Command.types, Message.typeName]) .nil)
  | putCompound id dataset details =>
    obtain ⟨_, made, rfl⟩ := answering_accepted hok
    obtain ⟨workspace, stored, -, -, rfl⟩ := putCompound_accepted made
    refine .cons ?_ ((core.jobs.types_refresh _).mono (by simp [Command.types]))
    cases stored.created <;> simp [Command.types, Message.typeName, Message.compoundStored]
  | removeCompound id =>
    obtain ⟨_, made, rfl⟩ := answering_accepted hok
    obtain ⟨workspace, removed, -, rfl⟩ := removeCompound_accepted made
    exact core.jobs.types_withdraw _
  | putAnalysis id compound details =>
    obtain ⟨_, made, rfl⟩ := answering_accepted hok
    obtain ⟨workspace, stored, -, -, outcome⟩ := putAnalysis_accepted made
    have told : OfTypes (Command.putAnalysis id compound details).types
        (.publish (.analysisStored stored.created stored.analysis) ::
          stored.reordered.map fun parent => .publish (.compoundStored false parent)) := by
      refine .cons ?_ (.map (fun _ => ?_) _)
      · cases stored.created <;> simp [Command.types, Message.typeName, Message.analysisStored]
      · simp [Command.types, Message.typeName, Message.compoundStored]
    obtain ⟨-, rfl⟩ | ⟨-, rfl⟩ := outcome
    · exact told
    · exact ((core.jobs.types_retire id).mono (by simp [Command.types])).append told
  | removeAnalysis id =>
    obtain ⟨_, made, rfl⟩ := answering_accepted hok
    obtain ⟨workspace, analysis, parent, -, rfl⟩ := removeAnalysis_accepted made
    refine ((core.jobs.types_retire id).mono (by simp [Command.types])).append
      (.cons ?_ (.map (fun _ => ?_) _))
    · simp [Command.types, Message.typeName]
    · simp [Command.types, Message.typeName, Message.compoundStored]
  | runAnalysis id =>
    obtain ⟨_, made, rfl⟩ := answering_accepted hok
    obtain ⟨analysis, dataset, -, -, outcome⟩ := runAnalysis_accepted made
    have retired : OfTypes (Command.runAnalysis id).types (core.jobs.retire id).2 :=
      (core.jobs.types_retire id).mono (by simp [Command.types])
    obtain ⟨-, rfl⟩ | ⟨problem, -, rfl⟩ := outcome
    · exact retired.append .nil
    · refine retired.append ?_
      exact OfTypes.cons (by simp [Command.types, Message.typeName]) .nil
  | cancelJob id =>
    obtain ⟨_, made, rfl⟩ := answering_accepted hok
    obtain ⟨record, -, ⟨-, rfl⟩ | ⟨-, rfl⟩⟩ := cancelJob_accepted made
    · exact .nil
    · exact OfTypes.cons (by simp [Command.types, Message.typeName]) .nil

/-- A message that goes out upon a command is one of the change that the command makes. -/
theorem performed_of_message {context : Context} {command : Command} {message : Message}
    (h : message ∈ Entry.messages (core.occur (.command context command)).2) :
    ∃ change, core.perform context command = .ok change ∧
      message ∈ Effect.messages change.effects := by
  have told : message ∈ Effect.messages (core.dispatch context command).effects := by
    rwa [← Entry.messages_ofEffects context.answer]
  unfold dispatch at told
  cases performed : core.perform context command with
  | error rejection =>
    rw [performed, Effect.messages_knocks] at told
    cases told
  | ok change =>
    rw [performed, Effect.messages_append, Effect.messages_knocks] at told
    exact ⟨change, rfl, told⟩

end Core

/-- The types of the messages that may go out upon what happens. -/
def Occurrence.types : Occurrence → List String
  | .command _ asked => asked.types
  | .connect spec => (Command.connect spec).types
  | .register dataset => (Command.registerDataset dataset.id dataset.details.params).types
  | .report _ => ["JOB_STARTED", "TASK_RESULT", "FINISH_JOB", "CANCEL_JOB_DONE", "JOB_ERROR"]

theorem Core.types_occur {core : Core} {occurrence : Occurrence} {message : Message}
    (h : message ∈ Entry.messages (core.occur occurrence).2) :
    message.typeName ∈ occurrence.types := by
  cases occurrence with
  | command context command =>
    obtain ⟨change, performed, told⟩ := performed_of_message h
    exact types_perform performed message told
  | connect spec =>
    rw [occur, Entry.messages_ofEffects] at h
    exact types_connect spec message h
  | register dataset =>
    rw [occur] at h
    split at h
    · next change registered =>
      rw [Entry.messages_ofEffects] at h
      exact types_registerDataset registered dataset.details.params message h
    · cases h
  | report report =>
    have told : message ∈ Effect.messages (core.applyReport report).effects := by
      rwa [← Entry.messages_ofEffects accepting]
    exact types_applyReport report message told

/-! ## §2 Replicas -/

/-- A property of replicas that every message keeps that may go out and of which something is
known. -/
def KeptBy (P : Replica → Prop) (M : Message → Prop) : Prop :=
  ∀ (s : Standing) (message : Message), s.Fits message → M message → P s.replica →
    P (s.replica.hear message)

section Heard

variable {P : Replica → Prop} {M : Message → Prop} {s t : Standing} {entries : List Entry}

theorem Moves.heard (keeps : KeptBy P M) (moves : Moves s entries t) (start : P s.replica)
    (told : ∀ message ∈ Entry.messages entries, M message) : P t.replica := by
  induction moves with
  | refl s => exact start
  | step move _ ih =>
    simp only [Entry.messages_append, List.mem_append] at told
    refine ih ?_ fun message hm => told message (.inr hm)
    cases move with
    | tell message fits => exact keeps _ message fits (told message (.inl List.mem_cons_self)) start
    | _ => exact start

/-- A job that is handed over on the way is fed from what observers know then. -/
theorem Moves.fed (keeps : KeptBy P M) (moves : Moves s entries t) (start : P s.replica)
    (told : ∀ message ∈ Entry.messages entries, M message) {request : Job.Request}
    (h : request ∈ Entry.starts entries) : ∃ u : Standing, P u.replica ∧ u.Feeds request := by
  obtain ⟨refusal, there⟩ := Entry.mem_starts.1 h
  obtain ⟨before, after, rfl⟩ := List.append_of_mem there
  obtain ⟨u, rest, first, feeds, -⟩ := moves.of_start rfl
  refine ⟨u, first.heard keeps start fun message hm => told message ?_, feeds⟩
  rw [Entry.messages_append]
  exact List.mem_append_left _ hm

end Heard

namespace Core

/-- A condition on what happens, at every point of a run. -/
def Throughout (Q : Core → Occurrence → Prop) : Core → List Occurrence → Prop
  | _, [] => True
  | core, occurrence :: rest =>
    Q core occurrence ∧ (core.occur occurrence).1.Throughout Q rest

/-- If what is told keeps a property wherever the property and a condition hold, then under this
condition it is kept throughout a run. -/
theorem told_run {P : Replica → Prop} {M : Message → Prop} (keeps : KeptBy P M)
    {Q : Core → Occurrence → Prop}
    (told : ∀ {core : Core} {occurrence}, core.Sound → P core.standing.replica →
      Q core occurrence → ∀ message ∈ Entry.messages (core.occur occurrence).2, M message)
    {core : Core} (h : core.Sound) (start : P core.standing.replica) {later : List Occurrence}
    (through : core.Throughout Q later) :
    ∀ message ∈ Entry.messages (core.run later).2, M message := by
  induction later generalizing core with
  | nil => exact nofun
  | cons occurrence rest ih =>
    have moved := moved_occur h occurrence
    have first := told h start through.1
    have next := moved.moves.heard keeps start first
    intro message hm
    rw [run, Entry.messages_append] at hm
    exact (List.mem_append.1 hm).elim (first message) (ih (moved.sound h) next through.2 message)

end Core

/-! ## §3 Analyses -/

/-- The details that a message gives for an analysis. -/
def Message.detailsFor? (id : AnalysisId) : Message → Option Analysis.Details
  | .analysisCreated other _ _ details | .analysisUpdated other _ _ details =>
    if other = id then some details else none
  | _ => none

theorem Message.detailsFor?_eq_none {id : AnalysisId} {message : Message} {types : List String}
    (type : message.typeName ∈ types) (created : "ANALYSIS_CREATED" ∉ types)
    (updated : "ANALYSIS_UPDATED" ∉ types) : message.detailsFor? id = none := by
  cases message with
  | analysisCreated => exact absurd type created
  | analysisUpdated => exact absurd type updated
  | _ => rfl

theorem Message.detailsFor?_analysisStored (id : AnalysisId) (created : Bool)
    (analysis : Analysis) : (analysisStored created analysis).detailsFor? id =
      if analysis.id = id then some analysis.details else none := by
  cases created <;> rfl

/-- All analyses with an identifier have the same details. -/
def Replica.HasDetails (id : AnalysisId) (details : Analysis.Details) (replica : Replica) : Prop :=
  ∀ analysis ∈ replica.analyses, analysis.id = id → analysis.details = details

theorem keptBy_hasDetails (id : AnalysisId) (details : Analysis.Details) :
    KeptBy (Replica.HasDetails id details) fun message =>
      ∀ given, message.detailsFor? id = some given → given = details := by
  intro s message fits told have_ a ha own
  cases message with
  | initialState => exact fits.elim
  | analysisCreated other compound dataset given =>
    rcases List.mem_append.1 ha with ha | ha
    · exact have_ a ha own
    · obtain rfl := List.mem_singleton.1 ha
      exact told given (if_pos own)
  | analysisUpdated other compound dataset given =>
    rcases Roster.mem_replace ha with rfl | ⟨ha, -⟩
    · exact told given (if_pos own)
    · exact have_ a ha own
  | analysisRemoved other => exact have_ a (List.mem_filter.1 ha).1 own
  | _ => exact have_ a ha own

/-- An analysis that is there stays until its removal is told. -/
theorem keptBy_listed (id : AnalysisId) : KeptBy (fun replica => id ∈ keys replica.analyses)
    fun message => message ≠ .analysisRemoved id := by
  intro s message fits other there
  cases message with
  | initialState => exact fits.elim
  | analysisCreated =>
    show id ∈ keys (_ ++ _)
    rw [keys, List.map_append]
    exact List.mem_append_left _ there
  | analysisUpdated =>
    show id ∈ keys (Roster.replace _ _)
    rwa [Roster.keys_replace]
  | analysisRemoved removed =>
    show id ∈ keys (Roster.erase removed _)
    have apart : id ≠ removed := fun e => other (e ▸ rfl)
    simp [Roster.keys_erase, there, apart]
  | _ => exact there

/-- The messages of a batch that renews analyses: each analysis, and canceled jobs. -/
theorem Job.Table.mem_messages_refresh {table : Table} {changed : List Analysis}
    {message : Message} (h : message ∈ Effect.messages (table.refresh changed).2) :
    message.typeName = "CANCEL_JOB_DONE" ∨
      ∃ analysis ∈ changed, message = .analysisStored false analysis := by
  induction changed generalizing table with
  | nil => cases h
  | cons a rest ih =>
    rw [refresh, Effect.messages_append] at h
    rcases List.mem_append.1 h with h | h
    · exact .inl (List.mem_singleton.1 (table.types_retire a.id message h))
    · rcases List.mem_cons.1 h with rfl | h
      · exact .inr ⟨a, List.mem_cons_self, rfl⟩
      · refine (ih h).imp_right ?_
        rintro ⟨b, hb, same⟩
        exact ⟨b, List.mem_cons_of_mem a hb, same⟩

namespace Core

/-- A request to store an analysis is accepted. -/
def Upserts (core : Core) (id : AnalysisId) : Occurrence → Prop
  | .command context (.putAnalysis other compound details) => other = id ∧
      ∃ reply, (core.dispatch context (.putAnalysis other compound details)).reply = .ok reply
  | _ => False

variable {core : Core}

/-- An analysis that goes over to another dataset keeps its details. -/
theorem details_retargeted (h : core.Sound) {id : CompoundId} {dataset : DatasetId}
    {details : Compound.Details} {next : Workspace} {stored : Workspace.CompoundStored}
    (put : core.workspace.putCompound core.datasets id dataset details = .ok (next, stored))
    {analysis : Analysis} (ha : analysis ∈ stored.retargeted) :
    ∃ old ∈ core.workspace.analyses, old.id = analysis.id ∧ old.details = analysis.details := by
  rw [(Workspace.putCompound_spec h.workspace put).retargeted] at ha
  split at ha
  · cases ha
  · obtain ⟨child, -, moved⟩ := List.mem_filterMap.1 ha
    obtain ⟨old, found, rfl⟩ := Option.map_eq_some_iff.1 moved
    exact ⟨old, Roster.mem_of_find?_eq_some found, rfl, rfl⟩

/-- Storing an analysis tells of this analysis, of a canceled job and of orders. -/
theorem mem_messages_putAnalysis {id : AnalysisId} {compound : CompoundId}
    {details : Analysis.Details} {change : Change (Stored Analysis)}
    (hok : core.putAnalysis id compound details = .ok change) {message : Message}
    (h : message ∈ Effect.messages change.effects) :
    message = .analysisStored change.value.created change.value.value ∨
      message.typeName ∈ ["CANCEL_JOB_DONE", "COMPOUND_ANALYSIS_UPDATED"] := by
  obtain ⟨workspace, stored, -, -, outcome⟩ := putAnalysis_accepted hok
  have announced {message : Message} (h : message ∈ Effect.messages
      (.publish (.analysisStored stored.created stored.analysis) ::
        stored.reordered.map fun parent => .publish (.compoundStored false parent))) :
      message = .analysisStored stored.created stored.analysis ∨
        message.typeName ∈ ["CANCEL_JOB_DONE", "COMPOUND_ANALYSIS_UPDATED"] := by
    refine (List.mem_cons.1 h).imp_right fun h => ?_
    refine OfTypes.map (fun _ => ?_) stored.reordered message h
    simp [Message.compoundStored, Message.typeName]
  obtain ⟨-, rfl⟩ | ⟨-, rfl⟩ := outcome
  · exact announced h
  · rw [Effect.messages_append] at h
    refine (List.mem_append.1 h).elim (fun h => .inr ?_) announced
    exact ((core.jobs.types_retire id).mono (by simp)) message h

/-- A compound analysis that is stored takes analyses along as they are. -/
theorem told_putCompound (h : core.Sound) {id : AnalysisId} {details : Analysis.Details}
    (kept : core.standing.replica.HasDetails id details) {compound : CompoundId}
    {dataset : DatasetId} {asked : Compound.Details} {change : Change (Stored Compound)}
    (hok : core.putCompound compound dataset asked = .ok change) {message : Message}
    (told : message ∈ Effect.messages change.effects) {given : Analysis.Details}
    (about : message.detailsFor? id = some given) : given = details := by
  obtain ⟨workspace, stored, put, -, rfl⟩ := putCompound_accepted hok
  rcases List.mem_cons.1 told with rfl | told
  · cases created : stored.created <;> rw [created] at about <;> cases about
  · rcases Job.Table.mem_messages_refresh told with type | ⟨analysis, ha, rfl⟩
    · rw [Message.detailsFor?_eq_none (List.mem_singleton.2 type) (by simp) (by simp)] at about
      cases about
    · rw [Message.detailsFor?_analysisStored] at about
      split at about
      · next own =>
        obtain ⟨old, there, same, keeps⟩ := details_retargeted h put ha
        rw [← Option.some.inj about, ← keeps]
        exact kept old there (same.trans own)
      · cases about

/-- An analysis that is stored does not change what others are told to be. -/
theorem detailsFor?_putAnalysis (h : core.Sound) {id other : AnalysisId} {compound : CompoundId}
    {details : Analysis.Details} {change : Change (Stored Analysis)}
    (hok : core.putAnalysis other compound details = .ok change) {message : Message}
    (told : message ∈ Effect.messages change.effects) (apart : other ≠ id) :
    message.detailsFor? id = none := by
  rcases mem_messages_putAnalysis hok told with rfl | type
  · rw [Message.detailsFor?_analysisStored, (alone_putAnalysis h hok).2.1, if_neg apart]
  · exact Message.detailsFor?_eq_none type (by simp) (by simp)

/-- Details are told of an analysis only when it is stored or taken along. -/
theorem told_details {id : AnalysisId} {details : Analysis.Details} {occurrence : Occurrence}
    (h : core.Sound) (kept : core.standing.replica.HasDetails id details)
    (other : ¬ core.Upserts id occurrence) :
    ∀ message ∈ Entry.messages (core.occur occurrence).2, ∀ given,
      message.detailsFor? id = some given → given = details := by
  intro message hm given about
  have silent (created : "ANALYSIS_CREATED" ∉ occurrence.types)
      (updated : "ANALYSIS_UPDATED" ∉ occurrence.types) : False := by
    rw [Message.detailsFor?_eq_none (types_occur hm) created updated] at about
    cases about
  cases occurrence with
  | report | connect | register =>
    exact (silent (by simp [Occurrence.types, Command.types])
      (by simp [Occurrence.types, Command.types])).elim
  | command context command =>
    obtain ⟨change, performed, told⟩ := performed_of_message hm
    cases command with
    | putCompound compound dataset asked =>
      obtain ⟨made, hok, rfl⟩ := answering_accepted performed
      exact told_putCompound h kept hok told about
    | putAnalysis stored compound asked =>
      have apart : stored ≠ id := by
        rintro rfl
        exact other ⟨rfl, change.value, by rw [dispatch, performed]⟩
      obtain ⟨made, hok, rfl⟩ := answering_accepted performed
      rw [detailsFor?_putAnalysis h hok told apart] at about
      cases about
    | _ =>
      exact (silent (by simp [Occurrence.types, Command.types])
        (by simp [Occurrence.types, Command.types])).elim

theorem hasDetails_of_found (h : core.Sound) {id : AnalysisId} {analysis : Analysis}
    (found : core.workspace.analysis? id = some analysis) :
    core.standing.replica.HasDetails id analysis.details := fun _ there own =>
  congrArg Analysis.details (Roster.eq_of_find? h.workspace.analyses_nodup there own found)

/-- As long as nobody stores the analysis anew, its details are what is told of it, what the engine
gets for it, and what is stored; and it is stored unless its removal was told. -/
theorem details_run (h : core.Sound) {id : AnalysisId} {analysis : Analysis}
    (found : core.workspace.analysis? id = some analysis) {later : List Occurrence}
    (through : core.Throughout (fun core occurrence => ¬ core.Upserts id occurrence) later) :
    (∀ message ∈ Entry.messages (core.run later).2, ∀ given,
        message.detailsFor? id = some given → given = analysis.details) ∧
      (∀ request ∈ Entry.starts (core.run later).2, request.analysis = id →
        request.details = analysis.details) ∧
      (∀ other ∈ (core.run later).1.workspace.analyses, other.id = id →
        other.details = analysis.details) ∧
      ((∀ message ∈ Entry.messages (core.run later).2, message ≠ .analysisRemoved id) →
        id ∈ keys (core.run later).1.workspace.analyses) := by
  have start := hasDetails_of_found h found
  have keeps := keptBy_hasDetails id analysis.details
  have moves := (moved_run h later).moves
  have told := told_run keeps told_details h start through
  refine ⟨told, fun request hr own => ?_, moves.heard keeps start told, fun unremoved => ?_⟩
  · obtain ⟨u, kept, fresh, there, same, -⟩ := moves.fed keeps start told hr
    rw [← same]
    exact kept fresh (Roster.mem_of_find?_eq_some there) (own ▸ Roster.key_of_find?_eq_some there)
  · exact moves.heard (keptBy_listed id) (Roster.mem_keys_of_find? found) unremoved

end Core

/-! ## §4 Datasets -/

/-- There is no other dataset with an identifier than a given one. -/
def Replica.HasDataset (id : DatasetId) (dataset : Dataset) (replica : Replica) : Prop :=
  ∀ other ∈ replica.datasets, other.id = id → other = dataset

theorem keptBy_hasDataset (id : DatasetId) (dataset : Dataset) :
    KeptBy (Replica.HasDataset id dataset) fun message =>
      ∀ given, message ≠ .datasetCreated id given := by
  intro s message fits silent kept other there own
  cases message with
  | initialState => exact fits.elim
  | datasetCreated created given =>
    rcases List.mem_append.1 there with there | there
    · exact kept other (List.mem_filter.1 there).1 own
    · obtain rfl := List.mem_singleton.1 there
      obtain ⟨-, rfl, -⟩ := fits
      exact absurd (own ▸ rfl) (silent other)
  | datasetDeleted deleted => exact kept other (List.mem_filter.1 there).1 own
  | _ => exact kept other there own

/-- A dataset that is registered stays so until its removal is told. -/
theorem keptBy_registered (id : DatasetId) : KeptBy (fun replica => id ∈ keys replica.datasets)
    fun message => message ≠ .datasetDeleted id := by
  intro s message fits other there
  cases message with
  | initialState => exact fits.elim
  | datasetCreated created dataset =>
    obtain ⟨-, rfl, -⟩ := fits
    show id ∈ keys (Roster.renew dataset _)
    by_cases same : id = dataset.id
    · simp [Roster.keys_renew, same, Keyed.key]
    · simp [Roster.keys_renew, there, same, Keyed.key]
  | datasetDeleted deleted =>
    show id ∈ keys (Roster.erase deleted _)
    have apart : id ≠ deleted := fun e => other (e ▸ rfl)
    simp [Roster.keys_erase, there, apart]
  | _ => exact there

namespace Core

/-- A dataset is registered. -/
def Registers (core : Core) (id : DatasetId) : Occurrence → Prop
  | .command context (.registerDataset other params) => other = id ∧
      ∃ reply, (core.dispatch context (.registerDataset other params)).reply = .ok reply
  | .register dataset => dataset.id = id ∧ core.connection.isConnected = true
  | _ => False

variable {core : Core}

theorem id_of_datasetCreated {dataset given : Dataset} {change : Change Dataset}
    (hok : core.registerDataset dataset = .ok change) {id : DatasetId}
    (h : .datasetCreated id given ∈ Effect.messages change.effects) : dataset.id = id := by
  obtain ⟨⟨before, after, batch, others⟩, -, -⟩ := alone_registerDataset hok
  rw [batch] at h
  rcases List.mem_append.1 h with h | h
  · exact absurd rfl (others (.datasetCreated id given) (List.mem_append_left _ h))
  · rcases List.mem_cons.1 h with same | h
    · cases same
      rfl
    · exact absurd rfl (others (.datasetCreated id given) (List.mem_append_right _ h))

/-- Only registering tells of a new dataset. -/
theorem registers_of_datasetCreated {id : DatasetId} {given : Dataset} {occurrence : Occurrence}
    (h : .datasetCreated id given ∈ Entry.messages (core.occur occurrence).2) :
    core.Registers id occurrence := by
  have type : "CREATE_DATASET" ∈ occurrence.types := types_occur h
  cases occurrence with
  | report | connect => exact absurd type (by simp [Occurrence.types, Command.types])
  | register dataset =>
    rw [occur] at h
    split at h
    · next change registered =>
      rw [Entry.messages_ofEffects] at h
      exact ⟨id_of_datasetCreated registered h, (registerDataset_accepted registered).1⟩
    · cases h
  | command context command =>
    obtain ⟨change, performed, told⟩ := performed_of_message h
    cases command with
    | registerDataset other params =>
      have accepted : ∃ reply,
          (core.dispatch context (.registerDataset other params)).reply = .ok reply :=
        ⟨change.value, by rw [dispatch, performed]⟩
      obtain ⟨_, -, performed⟩ := bind_eq_ok.1 performed
      obtain ⟨dataset, prepared, performed⟩ := bind_eq_ok.1 performed
      obtain ⟨made, hm, rfl⟩ := answering_accepted performed
      obtain rfl := id_of_prepare (mapError_eq_ok.1 prepared)
      exact ⟨id_of_datasetCreated hm told, accepted⟩
    | _ => exact absurd type (by simp [Occurrence.types, Command.types])

/-- As long as nobody registers the dataset anew, it is what the engine gets and what is stored; and
it is stored unless its removal was told. -/
theorem dataset_run (h : core.Sound) {id : DatasetId} {dataset : Dataset}
    (found : core.datasets.get? id = some dataset) {later : List Occurrence}
    (through : core.Throughout (fun core occurrence => ¬ core.Registers id occurrence) later) :
    (∀ message ∈ Entry.messages (core.run later).2, ∀ given,
        message ≠ .datasetCreated id given) ∧
      (∀ request ∈ Entry.starts (core.run later).2, request.dataset.id = id →
        request.dataset = dataset) ∧
      (∀ other ∈ (core.run later).1.datasets.datasets, other.id = id → other = dataset) ∧
      ((∀ message ∈ Entry.messages (core.run later).2, message ≠ .datasetDeleted id) →
        id ∈ keys (core.run later).1.datasets.datasets) := by
  have start : core.standing.replica.HasDataset id dataset := fun _ there own =>
    Roster.eq_of_find? h.standing.datasets_nodup there own found
  have keeps := keptBy_hasDataset id dataset
  have moves := (moved_run h later).moves
  have told := told_run keeps (fun _ _ silent message hm given e =>
    silent (registers_of_datasetCreated (e ▸ hm))) h start through
  refine ⟨told, fun request hr own => ?_, moves.heard keeps start told, fun unremoved => ?_⟩
  · obtain ⟨u, kept, analysis, -, -, there⟩ := moves.fed keeps start told hr
    exact kept _ (Roster.mem_of_find?_eq_some there) own
  · exact moves.heard (keptBy_registered id) (Roster.mem_keys_of_find? found) unremoved

end Core

/-! ## §5 Requests -/

/-- Wherever a message is about an analysis and has details, the parameters in them are these. -/
def Message.Gives (id : AnalysisId) (parameters : Json) (message : Message) : Prop :=
  message.toJson.field? "analysis" = some id.toJson → ∀ details,
    message.toJson.field? "details" = some details → details.field? "parameters" = some parameters

theorem Ident.toJson_injective {kind : EntityKind} {a b : Ident kind} (h : a.toJson = b.toJson) :
    a = b :=
  Json.discerning_eq.ident h

theorem Message.gives_of_details {id : AnalysisId} {details : Analysis.Details} {message : Message}
    (h : ∀ given, message.detailsFor? id = some given → given = details) :
    message.Gives id details.parameters := by
  intro about given there
  have stored (other : AnalysisId) (compound : CompoundId) (dataset : DatasetId)
      (own : Analysis.Details)
      (told : message = .analysisCreated other compound dataset own ∨
        message = .analysisUpdated other compound dataset own) : own = details := by
    have same : other = id := by
      rcases told with rfl | rfl <;> exact Ident.toJson_injective (Option.some.inj about)
    refine h own ?_
    rcases told with rfl | rfl <;> exact if_pos same
  cases message with
  | analysisCreated other compound dataset own =>
    rw [← stored other compound dataset own (.inl rfl), ← Option.some.inj there]
    rfl
  | analysisUpdated other compound dataset own =>
    rw [← stored other compound dataset own (.inr rfl), ← Option.some.inj there]
    rfl
  | jobStarted | taskResult | jobFinished | jobCanceled | jobFailed | analysisRemoved =>
    exact nomatch there
  | _ => exact nomatch about

/-- The message that a dataset was registered has these parameters. -/
def Message.GivesDataset (id : DatasetId) (params : Json) (message : Message) : Prop :=
  message.toJson.field? "messageType" = some (.str "CREATE_DATASET") →
    message.toJson.field? "dataset" = some id.toJson →
    message.toJson.at? ["details", "params"] = some params

namespace Snapshot

/-- Every entry with an identifier in a list of the snapshot has a value at a path. -/
def Shows (snapshot : Snapshot) (list : String) (id : Json) (path : List String) (value : Json) :
    Prop :=
  ∀ items, snapshot.toJson.field? list = some (.arr items) →
    ∀ item ∈ items, item.field? "id" = some id → item.at? path = some value

/-- There is an entry with an identifier in a list of the snapshot. -/
def Lists (snapshot : Snapshot) (list : String) (id : Json) : Prop :=
  ∃ items item, snapshot.toJson.field? list = some (.arr items) ∧ item ∈ items ∧
    item.field? "id" = some id

section Records

variable {α : Type} {snapshot : Snapshot} {list : String} {id : Json} {write : α → Json}
  {records : List α} (field : snapshot.toJson.field? list = some (.ofList write records))

include field

theorem shows_of_records {path : List String} {value : Json}
    (each : ∀ r ∈ records, (write r).field? "id" = some id → (write r).at? path = some value) :
    snapshot.Shows list id path value := by
  intro items there item listed own
  obtain rfl := Json.arr.inj (Option.some.inj (field.symm.trans there))
  obtain ⟨r, hr, rfl⟩ := List.mem_map.1 listed
  exact each r hr own

theorem lists_of_records {r : α} (there : r ∈ records) (own : (write r).field? "id" = some id) :
    snapshot.Lists list id :=
  ⟨_, write r, field, List.mem_map_of_mem there, own⟩

end Records

end Snapshot

namespace Core

/-- The parameters of an analysis, wherever they turn up. -/
structure ParametersKept (id : AnalysisId) (parameters : Json) (core : Core)
    (journal : List Entry) : Prop where
  told : ∀ message ∈ Entry.messages journal, message.Gives id parameters
  started : ∀ request ∈ Entry.starts journal, request.analysis = id →
    request.details.parameters = parameters
  shown : core.snapshot.Shows "analyses" id.toJson ["details", "parameters"] parameters
  listed : (∀ message ∈ Entry.messages journal, message ≠ .analysisRemoved id) →
    core.snapshot.Lists "analyses" id.toJson

/-- The parameters of a dataset, wherever they turn up. -/
structure DatasetKept (id : DatasetId) (params : Json) (core : Core) (journal : List Entry) :
    Prop where
  told : ∀ message ∈ Entry.messages journal, message.GivesDataset id params
  started : ∀ request ∈ Entry.starts journal, request.dataset.id = id →
    request.dataset.details.toJson = params
  shown : core.snapshot.Shows "datasets" id.toJson ["params"] params
  read : ∀ context dataset, (core.dispatch context (.getDataset id)).reply = .ok dataset →
    (core.dispatch context (.getDataset id)).toJson.at? ["details", "params"] = some params
  listed : (∀ message ∈ Entry.messages journal, message ≠ .datasetDeleted id) →
    core.snapshot.Lists "datasets" id.toJson

variable {core : Core}

theorem parametersKept_run (h : core.Sound) {id : AnalysisId} {analysis : Analysis}
    (found : core.workspace.analysis? id = some analysis) {later : List Occurrence}
    (through : core.Throughout (fun core occurrence => ¬ core.Upserts id occurrence) later) :
    ParametersKept id analysis.details.parameters (core.run later).1 (core.run later).2 := by
  obtain ⟨told, started, stored, listed⟩ := details_run h found through
  refine ⟨fun message hm => Message.gives_of_details (told message hm), fun request hr own => ?_,
    ?_, fun unremoved => ?_⟩
  · rw [started request hr own]
  · refine Snapshot.shows_of_records rfl fun other there own => ?_
    rw [← stored other there (Ident.toJson_injective (Option.some.inj own))]
    rfl
  · obtain ⟨other, there, rfl⟩ := Roster.mem_keys.1 (listed unremoved)
    exact Snapshot.lists_of_records rfl there rfl

theorem datasetKept_run (h : core.Sound) {id : DatasetId} {dataset : Dataset}
    (found : core.datasets.get? id = some dataset) {later : List Occurrence}
    (through : core.Throughout (fun core occurrence => ¬ core.Registers id occurrence) later) :
    DatasetKept id dataset.details.toJson (core.run later).1 (core.run later).2 := by
  obtain ⟨told, started, stored, listed⟩ := dataset_run h found through
  refine ⟨fun message hm type about => ?_, fun request hr own => ?_, ?_, ?_, fun unremoved => ?_⟩
  · have named : message.typeName = "CREATE_DATASET" := Json.str.inj (Option.some.inj type)
    cases message with
    | datasetCreated created given =>
      obtain rfl := Ident.toJson_injective (Option.some.inj about)
      exact absurd rfl (told _ hm given)
    | _ => simp [Message.typeName] at named
  · rw [started request hr own]
  · refine Snapshot.shows_of_records rfl fun other there own => ?_
    rw [← stored other there (Ident.toJson_injective (Option.some.inj own))]
    rfl
  · intro context reply accepted
    cases there : (core.run later).1.datasets.get? id with
    | none =>
      simp only [dispatch, perform, there] at accepted
      cases accepted
    | some other =>
      have same := stored other (Roster.mem_of_find?_eq_some there)
        (Roster.key_of_find?_eq_some there)
      simp only [dispatch, perform, there, same]
      rfl
  · obtain ⟨other, there, rfl⟩ := Roster.mem_keys.1 (listed unremoved)
    exact Snapshot.lists_of_records rfl there rfl

/-- What is asked for in object form is carried out as a command. -/
theorem dispatchValue_eq {context : Context} {request : Json} {reply : Reply}
    (accepted : (core.dispatchValue context request).reply = .ok reply) :
    ∃ command, Command.ofJson? request = some command ∧
      core.dispatchValue context request = core.dispatch context command := by
  unfold dispatchValue at accepted ⊢
  cases read : Command.ofJson? request with
  | none =>
    rw [read] at accepted
    cases accepted
  | some command => exact ⟨command, rfl, rfl⟩

/-- An analysis that is stored has the details that were given, and they are what is answered,
published and kept. -/
theorem putAnalysis_handed_on (h : core.Sound) {context : Context} {id : AnalysisId}
    {compound : CompoundId} {details : Analysis.Details} {reply : Reply}
    (accepted : (core.dispatch context (.putAnalysis id compound details)).reply = .ok reply) :
    let outcome := core.dispatch context (.putAnalysis id compound details)
    outcome.toJson.at? ["details", "parameters"] = some details.parameters ∧ outcome.Echoed ∧
      ∀ later, outcome.core.Throughout (fun core occurrence => ¬ core.Upserts id occurrence) later →
        ParametersKept id details.parameters (outcome.core.run later).1
          (outcome.core.run later).2 := by
  obtain ⟨change, performed, outcome⟩ := perform_of_accepted accepted
  have sound : change.core.Sound := (moved_perform h performed).sound h
  have echoed := (agrees_perform h performed).1
  rw [outcome]
  obtain ⟨made, hm, rfl⟩ := answering_accepted performed
  have found := (alone_putAnalysis h hm).2.2
  have same : made.value.value.details = details := by
    obtain ⟨workspace, stored, put, -, ⟨-, rfl⟩ | ⟨-, rfl⟩⟩ := putAnalysis_accepted hm
    all_goals exact (Workspace.putAnalysis_spec h.workspace put).details_eq
  rw [← same]
  refine ⟨?_, echoed, fun later through => parametersKept_run sound found through⟩
  cases created : made.value.created <;> simp only [answering, created] <;> rfl

/-- A dataset that is registered has the parameters that were given, and they are what is answered,
published and kept. -/
theorem registerDataset_handed_on (h : core.Sound) {context : Context} {id : DatasetId}
    {params : Dataset.Params} {reply : Reply}
    (accepted : (core.dispatch context (.registerDataset id params)).reply = .ok reply) :
    let outcome := core.dispatch context (.registerDataset id params)
    let echoed : Json := .obj (params.toFields ++
      [("shape", .ofList .ofNat (params.scanSize ++ params.detectorSize))])
    outcome.toJson.at? ["details", "params"] = some echoed ∧ outcome.Echoed ∧
      ∀ later,
        outcome.core.Throughout (fun core occurrence => ¬ core.Registers id occurrence) later →
        DatasetKept id echoed (outcome.core.run later).1 (outcome.core.run later).2 := by
  obtain ⟨change, performed, outcome⟩ := perform_of_accepted accepted
  have sound : change.core.Sound := (moved_perform h performed).sound h
  have echoed := (agrees_perform h performed).1
  rw [outcome]
  obtain ⟨_, -, performed⟩ := bind_eq_ok.1 performed
  obtain ⟨dataset, prepared, performed⟩ := bind_eq_ok.1 performed
  obtain ⟨made, hm, rfl⟩ := answering_accepted performed
  obtain ⟨-, value, found⟩ := alone_registerDataset hm
  obtain ⟨shape, shaped, rfl⟩ := prepare_accepted (mapError_eq_ok.1 prepared)
  obtain rfl := Dataset.Params.eq_of_geometry? shaped
  rw [answering, value] at echoed ⊢
  exact ⟨rfl, echoed, fun later through => datasetKept_run sound found through⟩

/-- In every core that a run leads to: a request in object form that is accepted is handed on as it
was made. For an analysis these are its parameters, if they are an object; for a dataset these are
its declared parameters, if the element type is given by its name, beside the shape, and with the
name of the variant where that was given by its place. They are what is answered and what one
message of the batch says, and as long as no other request under this identifier is accepted, they
are in every message, job and snapshot that mentions it. -/
theorem handed_on_unchanged (before : List Occurrence) (context : Context)
    (fields given : List (String × Json)) :
    let core := (run {} before).1
    let outcome := core.dispatchValue context (.obj fields)
    (∀ parameters reply, Json.lookup "op" fields = some (.str "createOrUpdateAnalysis") →
      Json.lookup "details" fields = some (.obj given) →
      Json.lookup "parameters" given = some (.obj parameters) →
      outcome.reply = .ok reply →
      ∃ id : AnalysisId, (Json.lookup "id" fields).bind Ident.ofJson? = some id ∧
        outcome.toJson.at? ["details", "parameters"] = some (.obj parameters) ∧ outcome.Echoed ∧
        ∀ later,
          outcome.core.Throughout (fun core occurrence => ¬ core.Upserts id occurrence) later →
          ParametersKept id (.obj parameters) (outcome.core.run later).1
            (outcome.core.run later).2) ∧
    ∀ dtype reply, Json.lookup "op" fields = some (.str "registerDataset") →
      Json.lookup "params" fields = some (.obj given) →
      Json.lookup "dtype" given = some (.str dtype) →
      outcome.reply = .ok reply →
      ∃ (id : DatasetId) (echoed : List (String × Json)),
        (Json.lookup "id" fields).bind Ident.ofJson? = some id ∧
        Dataset.Params.Echo given echoed ∧
        outcome.toJson.at? ["details", "params"] = some (.obj echoed) ∧ outcome.Echoed ∧
        ∀ later,
          outcome.core.Throughout (fun core occurrence => ¬ core.Registers id occurrence) later →
          DatasetKept id (.obj echoed) (outcome.core.run later).1 (outcome.core.run later).2 := by
  have h := sound_run before
  refine ⟨fun parameters reply named details there accepted => ?_,
    fun dtype reply named params text accepted => ?_⟩
  · obtain ⟨command, read, eq⟩ := dispatchValue_eq accepted
    obtain ⟨id, compound, asked, rfl, own, body⟩ := Command.putAnalysis_of_object named read
    rw [details] at body
    have same : asked.parameters = .obj parameters := Analysis.Details.parameters_eq there body
    rw [eq] at accepted ⊢
    rw [← same]
    exact ⟨id, own, putAnalysis_handed_on h accepted⟩
  · obtain ⟨command, read, eq⟩ := dispatchValue_eq accepted
    obtain ⟨id, asked, rfl, own, body⟩ := Command.registerDataset_of_object named read
    rw [params] at body
    rw [eq] at accepted ⊢
    exact ⟨id, _, own, (Dataset.Params.described_of_object text body).echo,
      registerDataset_handed_on h accepted⟩

/-- An analysis is stored anew with parameters that have an empty name and a large number in them,
and is then run and taken over to another dataset. A dataset is registered by a request whose fields
are in another order than the one in which they are written. -/
theorem handed_on_unchanged_grouped :
    let core := (run {} Occurrence.grouped).1
    let context : Context := ⟨⟨"", "", 0, "", "", []⟩, {}, .ofNat 3, accepting, {}⟩
    let parameters : List (String × Json) :=
      [("", .null), ("roi", .obj [("r", .int 18446744073709551615), ("at", .arr [.int (-1)])])]
    let details : List (String × Json) :=
      [("parameters", .obj parameters), ("analysisType", .str "SUM_FRAMES"), ("more", .null)]
    let storing : List (String × Json) :=
      [("details", .obj details), ("op", .str "createOrUpdateAnalysis"),
        ("compoundAnalysis", (Ident.ofNat 1 : CompoundId).toJson),
        ("id", (Ident.ofNat 2 : AnalysisId).toJson)]
    let stored := core.dispatchValue context (.obj storing)
    let later := [Occurrence.plain 3 (.runAnalysis (.ofNat 2)),
      .plain 0 (.putCompound (.ofNat 1) (.ofNat 2) ⟨.sumFrames, []⟩)]
    let params : List (String × Json) :=
      [("dtype", .str "uint8"), ("scan_size", .arr [.int 2]), ("type", .str "MEMORY"),
        ("detector_size", .arr [.int 4, .int 4])]
    let registering : List (String × Json) :=
      [("op", .str "registerDataset"), ("id", (Ident.ofNat 3 : DatasetId).toJson),
        ("params", .obj params)]
    let registered := core.dispatchValue context (.obj registering)
    (∃ reply, stored.reply = .ok reply) ∧ (∃ reply, registered.reply = .ok reply) ∧
      stored.toJson.at? ["details", "parameters"] = some (.obj parameters) ∧
      ParametersKept (.ofNat 2) (.obj parameters) (stored.core.run later).1
        (stored.core.run later).2 ∧
      ∃ echoed, Dataset.Params.Echo params echoed ∧
        registered.toJson.at? ["details", "params"] = some (.obj echoed) := by
  intro core context parameters details storing stored later params registering registered
  have accepted : ∃ reply, stored.reply = .ok reply := ⟨_, rfl⟩
  have admitted : ∃ reply, registered.reply = .ok reply := ⟨_, rfl⟩
  obtain ⟨_, ha⟩ := accepted
  obtain ⟨_, hr⟩ := admitted
  obtain ⟨id, read, answered, -, kept⟩ :=
    (handed_on_unchanged Occurrence.grouped context storing details).1 parameters _ rfl rfl rfl ha
  obtain ⟨-, echoed, -, echo, told, -⟩ :=
    (handed_on_unchanged Occurrence.grouped context registering params).2 "uint8" _ rfl rfl rfl hr
  obtain rfl : Ident.ofNat 2 = id := Option.some.inj read
  have last := kept later ⟨fun h => h, fun h => h, trivial⟩
  exact ⟨⟨_, ha⟩, ⟨_, hr⟩, answered, last, echoed, echo, told⟩

/-- The variant of a dataset may be given by its place, and then its name is what is answered and
published. -/
theorem variant_by_place_is_named :
    let core := (run {} [.plain 0 (.connect (.pool 2))]).1
    let context : Context := ⟨⟨"", "", 0, "", "", []⟩, {}, .ofNat 1, accepting, {}⟩
    let params : List (String × Json) :=
      [("type", .int 1), ("dtype", .str "uint8"), ("scan_size", .arr [.int 8, .int 8]),
        ("detector_size", .arr [.int 4, .int 4])]
    let registered := core.dispatchValue context (.obj [("op", .str "registerDataset"),
      ("id", (Ident.ofNat 1 : DatasetId).toJson), ("params", .obj params)])
    (∃ reply, registered.reply = .ok reply) ∧
      Json.lookup "type" params = some (.int 1) ∧
      registered.toJson.at? ["details", "params", "type"] = some (.str "MEMORY") ∧
      ((Effect.messages registered.effects).map fun message =>
        message.toJson.at? ["details", "params", "type"]) = [some (.str "MEMORY")] ∧
      registered.core.snapshot.Shows "datasets" (Ident.ofNat 1 : DatasetId).toJson
        ["params", "type"] (.str "MEMORY") := by
  refine ⟨⟨_, rfl⟩, rfl, rfl, rfl, Snapshot.shows_of_records rfl fun dataset there own => ?_⟩
  obtain rfl := List.mem_singleton.1 there
  rfl

end Core

end Coordination
