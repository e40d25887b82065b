/-
Coordination.Proofs.InPlace — commands carried out in place.

`Core.dispatch` gives a new state or none. A server that works on its
stores in place has to earn that: it changes one store after the other,
announces what it does on the way, and whatever was done before a check
fails stays done. Here every command is written out in this manner, as an
`Act`: checks, changes and announcements one by one, and with them the
numbers by which the stores keep their entries in order.

By `Act.perform_apply` this comes to the same as what the core gives as a
whole. The checks of a command stand before its changes, but for two. When
a dataset is removed, what depends on it goes first, and only then the
dataset is asked for. And of the compound analyses that go with a dataset
each is looked up when its turn comes; one that is missing is passed over.

  §1 Acts       — `Draft`, `Act`.
  §2 Commands   — `Act.perform`, written out.
  §3 Numbers    — `Serials.afterAll`: what is announced as new has a number.
  §4 Workspace  — taking out and linking, as a whole or not at all.
  §5 Jobs       — the jobs that end with an entity.
  §6 Changes    — `Act.Makes`, for each command.
-/
import Coordination.Proofs.Operations
import Coordination.Proofs.Run
import Coordination.Proofs.Compounds

namespace Coordination

open Analysis.Workspace (AnalysisStored CompoundStored Removed)

/-! ## §1 Acts -/

/-- The numbers of the entries that come next. -/
structure Serials where
  datasets : Nat := 0
  /-- Compound analyses and analyses are numbered together. -/
  entities : Nat := 0
  jobs : Nat := 0

/-- The numbers after an entity was stored, which gets one if it is new. -/
def Serials.enter (created : Bool) (serials : Serials) : Serials :=
  if created then { serials with entities := serials.entities + 1 } else serials

/-- A core at any time in the middle of a command, and what was done on the way. -/
structure Draft where
  core : Core
  serials : Serials := {}
  effects : List Effect := []

/-- What is done step by step. If it fails, what was done before stays done. -/
abbrev Act (α : Type) := EStateM Rejection Draft α

namespace Act

variable {α β : Type}

/-- Looks at the core. -/
@[simp] def look (f : Core → α) : Act α := fun draft => .ok (f draft.core) draft

/-- Changes the workspace. -/
@[simp] def inWorkspace (f : Analysis.Workspace → Analysis.Workspace × α) : Act α := fun draft =>
  let (workspace, value) := f draft.core.workspace
  .ok value { draft with core := { draft.core with workspace := workspace } }

/-- Changes the index of the workspace. -/
@[simp] def inIndex (f : Analysis.Index → Analysis.Index × α) : Act α :=
  inWorkspace fun workspace =>
    let (index, value) := f workspace.index
    ({ workspace with index := index }, value)

/-- Changes the jobs. -/
@[simp] def inJobs (f : Job.Table → Job.Table × α) : Act α := fun draft =>
  let (jobs, value) := f draft.core.jobs
  .ok value { draft with core := { draft.core with jobs := jobs } }

/-- Changes the datasets. -/
@[simp] def inDatasets (f : Dataset.Registry → Dataset.Registry × α) : Act α := fun draft =>
  let (datasets, value) := f draft.core.datasets
  .ok value { draft with core := { draft.core with datasets := datasets } }

/-- Gives out a number. -/
@[simp] def number (f : Serials → Serials) : Act Unit := fun draft =>
  .ok () { draft with serials := f draft.serials }

/-- Tells the engine or the observers something. -/
@[simp] def emit (effects : List Effect) : Act Unit := fun draft =>
  .ok () { draft with effects := draft.effects ++ effects }

/-- Fails if a check failed. -/
@[simp] def check (result : Except Rejection α) : Act α := fun draft =>
  match result with
  | .ok value => .ok value draft
  | .error rejection => .error rejection draft

/-- Fails if there is nothing. -/
@[simp] def demand (found : Option α) (rejection : Rejection) : Act α :=
  check (found.elim (.error rejection) .ok)

/-- Fails if something does not hold. -/
@[simp] def require (holds : Bool) (rejection : Rejection) : Act Unit :=
  check (if holds then .ok () else .error rejection)

/-- Passes over a failure, but not over what was done before it. -/
def attempt (act : Act α) : Act (Option α) := fun draft =>
  match act draft with
  | .ok value next => .ok (some value) next
  | .error _ next => .ok none next

/-! ## §2 Commands -/

/-! What follows are the operations of the core and the workspace under their names. One that
changes several stores is written out; where only one store is changed, and nothing is checked,
the change is one step. -/

def requireConnected : Act Unit := do check (← look Core.requireConnected)

/-- Ends the job of an analysis. -/
def retire (analysis : AnalysisId) : Act Unit := do
  match ← inJobs (·.removeFor analysis) with
  | some record =>
    if record.status.isFinal then pure ()
    else
      emit [.cancel record.id]
      emit [.publish (.jobCanceled ⟨record.id, analysis⟩)]
  | none => pure ()

def withdrawAnalyses : List Analysis → Act Unit
  | [] => pure ()
  | analysis :: others => do
    retire analysis.id
    emit [.publish (.analysisRemoved analysis.id)]
    withdrawAnalyses others

def withdraw : List Removed → Act Unit
  | [] => pure ()
  | removed :: others => do
    withdrawAnalyses removed.analyses
    emit [.publish (.compoundRemoved removed.compound.id)]
    withdraw others

def refresh : List Analysis → Act Unit
  | [] => pure ()
  | analysis :: others => do
    retire analysis.id
    emit [.publish (.analysisStored false analysis)]
    refresh others

/-- Takes a compound analysis out of the workspace, and its analyses with it. -/
def dropCompound (id : CompoundId) : Act Removed := do
  let compound ← demand (← look (·.workspace.compound? id)) (.missing id)
  inWorkspace fun w => ({ w with compounds := Roster.erase id w.compounds }, ())
  let children ← inIndex (·.dropCompound compound.dataset id)
  let analyses ← inWorkspace fun w =>
    ({ w with analyses := children.foldl (fun rest child => Roster.erase child rest) w.analyses },
      children.filterMap w.analysis?)
  return ⟨compound, analyses⟩

/-- Takes compound analyses out of the workspace. One that is not there is passed over. -/
def dropEach : List CompoundId → Act (List Removed)
  | [] => pure []
  | id :: rest => do
    match ← attempt (dropCompound id) with
    | some removed => return removed :: (← dropEach rest)
    | none => dropEach rest

def removeDependents (dataset : DatasetId) : Act Unit := do
  withdraw (← dropEach (← look (·.workspace.index.compoundsOf dataset)))

def registerDataset (dataset : Dataset) : Act Dataset := do
  requireConnected
  if ← look (·.datasets.contains dataset.id) then removeDependents dataset.id
  number fun s => { s with datasets := s.datasets + 1 }
  let _ ← inDatasets (·.insert dataset)
  emit [.publish (.datasetCreated dataset.id dataset)]
  return dataset

def removeDataset (id : DatasetId) : Act Dataset := do
  requireConnected
  require (← look (·.datasets.contains id)) (.missing id)
  removeDependents id
  let (rest, dataset) ← check ((← look (·.datasets.remove id)).mapError Dataset.Problem.rejection)
  inDatasets fun _ => (rest, ())
  emit [.publish (.datasetDeleted id)]
  return dataset

/-- Moves an analysis over to a dataset. -/
def redirect (dataset : DatasetId) (analyses : List Analysis) (child : AnalysisId) :
    List Analysis :=
  analyses.map fun a => if a.id = child then { a with dataset := dataset } else a

/-- Links a compound analysis to the dataset that it is over now; also gives its analyses if that
is another one. -/
def relink (id : CompoundId) (dataset : DatasetId) : Act (List Analysis) := do
  match ← look (·.workspace.compound? id) with
  | some old =>
    if old.dataset = dataset then return []
    inIndex fun index => (index.unlinkCompound old.dataset id, ())
    inIndex fun index => (index.linkCompound dataset id, ())
    let children ← look (·.workspace.index.analysesOf id)
    inWorkspace fun w =>
      ({ w with analyses := children.foldl (redirect dataset) w.analyses },
        children.filterMap fun child =>
          (w.analysis? child).map fun a => { a with dataset := dataset })
  | none =>
    inIndex fun index => (index.linkCompound dataset id, ())
    return []

/-- Stores an entity, under a new number if there was none like it; also tells whether that is
so. -/
def place (known : Core → Bool) (store : Analysis.Workspace → Analysis.Workspace) : Act Bool := do
  let created := !(← look known)
  number (·.enter created)
  inWorkspace fun w => (store w, created)

def putCompound (id : CompoundId) (dataset : DatasetId) (details : Compound.Details) :
    Act (Core.Stored Compound) := do
  requireConnected
  require (← look (·.datasets.contains dataset)) (.datasetNotFound dataset)
  let retargeted ← relink id dataset
  let children ← look (·.workspace.index.analysesOf id)
  let order := Analysis.Workspace.arrange details.order children
  let compound : Compound := ⟨id, dataset, { details with order := order }⟩
  let created ← place (fun core => (core.workspace.compound? id).isSome) fun w =>
    { w with compounds := Roster.set compound w.compounds }
  emit [.publish (.compoundStored created compound)]
  refresh retargeted
  return ⟨compound, created⟩

def removeCompound (id : CompoundId) : Act Compound := do
  requireConnected
  let removed ← dropCompound id
  withdraw [removed]
  return removed.compound

/-- Takes an analysis away from the compound analysis that it was in, unless that is the one it is
in now; also gives the former one if its order changed. -/
def leaveFormer (id : AnalysisId) (compound : CompoundId) : Act (Option Compound) := do
  match ← look (·.workspace.analysis? id) with
  | some old =>
    if old.compound = compound then return none
    inIndex fun index => (index.unlinkAnalysis old.compound id, ())
    inWorkspace (·.detach old.compound id)
  | none => return none

def putAnalysis (id : AnalysisId) (compound : CompoundId) (details : Analysis.Details) :
    Act (Core.Stored Analysis) := do
  requireConnected
  check (details.check.mapError Analysis.Problem.rejection)
  let parent ← demand (← look (·.workspace.compound? compound)) (.compoundNotFound compound)
  let former ← leaveFormer id compound
  inIndex fun index => (index.linkAnalysis compound id, ())
  let current ← inWorkspace (·.attach compound id)
  let analysis : Analysis := ⟨id, parent.dataset, compound, details⟩
  let created ← place (fun core => (core.workspace.analysis? id).isSome) fun w =>
    { w with analyses := Roster.set analysis w.analyses }
  if created then pure () else retire id
  emit [.publish (.analysisStored created analysis)]
  emit ((former.toList ++ current.toList).map fun parent => .publish (.compoundStored false parent))
  return ⟨analysis, created⟩

def removeAnalysis (id : AnalysisId) : Act Analysis := do
  requireConnected
  let analysis ← demand (← look (·.workspace.analysis? id)) (.missing id)
  inWorkspace fun w => ({ w with analyses := Roster.erase id w.analyses }, ())
  inIndex fun index => (index.unlinkAnalysis analysis.compound id, ())
  let parent ← inWorkspace (·.detach analysis.compound id)
  retire id
  emit [.publish (.analysisRemoved id)]
  emit (parent.toList.map fun parent => .publish (.compoundStored false parent))
  return analysis

def runAnalysis (fresh : JobId) (answer : Core.EngineAnswer) (id : AnalysisId) :
    Act Job.Handle := do
  requireConnected
  let analysis ← demand (← look (·.workspace.analysis? id)) (.missing id)
  let dataset ← demand (← look (·.datasets.get? analysis.dataset))
    (.datasetNotFound analysis.dataset)
  retire id
  let request : Job.Request := ⟨fresh, id, dataset, analysis.details⟩
  number fun s => { s with jobs := s.jobs + 1 }
  let _ ← inJobs (·.insert request.handle)
  emit [.start request]
  match answer request with
  | none => return request.handle
  | some problem =>
    let _ ← inJobs (·.setStatus fresh .error)
    emit [.publish (.jobFailed request.handle problem.rejection.code problem.rejection.text)]
    return request.handle

def cancelJob (id : JobId) : Act Job.Handle := do
  requireConnected
  let record ← demand (← look (·.jobs.get? id)) (.missing id)
  if record.status.isFinal then return record.handle
  emit [.cancel id]
  let _ ← inJobs (·.setStatus id .canceled)
  emit [.publish (.jobCanceled record.handle)]
  return record.handle

/-- A change that is not checked any more. -/
def take (change : Core → Change α) : Act α := fun draft =>
  let ⟨core, effects, value⟩ := change draft.core
  .ok value { draft with core := core, effects := draft.effects ++ effects }

/-- Carries out a command in place. -/
def perform (context : Context) : Command → Act Reply
  | .getConfig => return .capabilities context.capabilities
  | .getConnection => return .connection (← look (·.connection))
  | .connect spec => do
    emit (Core.knocks (.connect spec))
    check ((Connection.verify spec context.facts.unreachable).mapError
      Connection.Problem.rejection)
    take (·.connect spec)
    return .connection (.connected spec)
  | .disconnect => do
    take Core.disconnect
    return .changed .disconnected
  | .registerDataset id params => do
    requireConnected
    let dataset ←
      check ((Dataset.prepare id params context.facts.file).mapError Dataset.Problem.rejection)
    return .changed (.datasetCreated id (← registerDataset dataset))
  | .removeDataset id => do
    let _ ← removeDataset id
    return .changed (.datasetDeleted id)
  | .getDataset id => return .dataset (← demand (← look (·.datasets.get? id)) (.missing id))
  | .listDatasets => return .datasets (← look (·.datasets.datasets))
  | .putCompound id dataset details => do
    let stored ← putCompound id dataset details
    return .changed (.compoundStored stored.created stored.value)
  | .removeCompound id => do
    let _ ← removeCompound id
    return .changed (.compoundRemoved id)
  | .putAnalysis id compound details => do
    let stored ← putAnalysis id compound details
    return .changed (.analysisStored stored.created stored.value)
  | .removeAnalysis id => do
    let _ ← removeAnalysis id
    return .changed (.analysisRemoved id)
  | .runAnalysis id => return .running (← runAnalysis context.nextJob context.answer id)
  | .cancelJob id => return .canceled (← cancelJob id)

/-- Carries out any value that is read as a command. -/
def dispatchValue (context : Context) (request : Json) : Act Reply := do
  perform context (← demand (Command.ofJson? request) (context.unreadable request))

end Act

/-! ## §3 Numbers -/

namespace Serials

/-- The numbers after an effect. Whatever is announced as new, and every job, has got one. -/
def after (serials : Serials) : Effect → Serials
  | .publish (.datasetCreated _ _) => { serials with datasets := serials.datasets + 1 }
  | .publish (.compoundCreated _ _ _) | .publish (.analysisCreated _ _ _ _) =>
    { serials with entities := serials.entities + 1 }
  | .start _ => { serials with jobs := serials.jobs + 1 }
  | _ => serials

def afterAll (serials : Serials) (effects : List Effect) : Serials := effects.foldl after serials

@[simp] theorem afterAll_nil (serials : Serials) : serials.afterAll [] = serials := rfl

@[simp] theorem afterAll_cons (serials : Serials) (effect : Effect) (rest : List Effect) :
    serials.afterAll (effect :: rest) = (serials.after effect).afterAll rest := rfl

@[simp] theorem afterAll_append (serials : Serials) (effects more : List Effect) :
    serials.afterAll (effects ++ more) = (serials.afterAll effects).afterAll more :=
  List.foldl_append

@[simp] theorem after_compoundStored (serials : Serials) (created : Bool) (compound : Compound) :
    serials.after (.publish (.compoundStored created compound)) = serials.enter created := by
  cases created <;> rfl

@[simp] theorem after_analysisStored (serials : Serials) (created : Bool) (analysis : Analysis) :
    serials.after (.publish (.analysisStored created analysis)) = serials.enter created := by
  cases created <;> rfl

/-- What was there before gets no number. -/
@[simp] theorem enter_false (serials : Serials) : serials.enter false = serials := rfl

theorem afterAll_eq_self {effects : List Effect} {serials : Serials}
    (h : ∀ effect ∈ effects, serials.after effect = serials) :
    serials.afterAll effects = serials := by
  induction effects with
  | nil => rfl
  | cons effect rest ih =>
    rw [afterAll_cons, h effect (List.mem_cons_self ..)]
    exact ih fun effect he => h effect (List.mem_cons_of_mem _ he)

@[simp] theorem afterAll_reordered (serials : Serials) (parents : List Compound) :
    serials.afterAll (parents.map fun parent => .publish (.compoundStored false parent)) =
      serials :=
  afterAll_eq_self (by simp)

@[simp] theorem afterAll_retire (serials : Serials) (table : Job.Table) (analysis : AnalysisId) :
    serials.afterAll (table.retire analysis).2 = serials := by
  unfold Job.Table.retire
  split
  · dsimp only
    split <;> rfl
  · rfl

theorem afterAll_withdrawAnalyses (serials : Serials) (table : Job.Table)
    (gone : List Analysis) : serials.afterAll (table.withdrawAnalyses gone).2 = serials := by
  induction gone generalizing table with
  | nil => rfl
  | cons analysis others ih => simp [Job.Table.withdrawAnalyses, ih, after]

@[simp] theorem afterAll_withdraw (serials : Serials) (table : Job.Table) (gone : List Removed) :
    serials.afterAll (table.withdraw gone).2 = serials := by
  induction gone generalizing table with
  | nil => rfl
  | cons removed others ih =>
    simp [Job.Table.withdraw, afterAll_withdrawAnalyses, ih, after]

theorem afterAll_retireEach (serials : Serials) (table : Job.Table)
    (analyses : List AnalysisId) : serials.afterAll (table.retireEach analyses).2 = serials := by
  induction analyses generalizing table with
  | nil => rfl
  | cons analysis others ih => simp [Job.Table.retireEach, ih]

@[simp] theorem afterAll_refresh (serials : Serials) (table : Job.Table)
    (changed : List Analysis) : serials.afterAll (table.refresh changed).2 = serials := by
  induction changed generalizing table with
  | nil => rfl
  | cons analysis others ih =>
    simp [Job.Table.refresh, ih]

theorem afterAll_probes {effects : List Effect}
    (h : ∀ effect ∈ effects, ∃ address, effect = .probe address) (serials : Serials) :
    serials.afterAll effects = serials := by
  refine afterAll_eq_self fun effect he => ?_
  obtain ⟨address, rfl⟩ := h effect he
  rfl

/-- Nothing is numbered when everything is removed. -/
@[simp] theorem afterAll_teardown (serials : Serials) (core : Core) :
    serials.afterAll core.teardown.2 = serials := by
  obtain ⟨gone, same⟩ := core.datasets.removeEach_snd core.datasets.ids
  have deleted : serials.afterAll (core.datasets.removeEach core.datasets.ids).2 = serials := by
    rw [same]
    exact afterAll_eq_self (by simp [after])
  simp [Core.teardown, deleted, afterAll_retireEach]

theorem afterAll_connect (serials : Serials) (core : Core) (spec : Connection.Spec) :
    serials.afterAll (core.connect spec).effects = serials := by
  unfold Core.connect
  by_cases hc : core.connection.isConnected <;> simp [hc, after]

theorem afterAll_disconnect (serials : Serials) (core : Core) :
    serials.afterAll core.disconnect.effects = serials := by
  unfold Core.disconnect
  by_cases hc : core.connection.isConnected <;> simp [hc, after]

end Serials

/-! ## §4 Workspace -/

namespace Act

variable {α β : Type}

@[simp] theorem bind_apply (act : Act α) (f : α → Act β) (draft : Draft) :
    (act >>= f) draft = match act draft with
      | .ok value next => f value next
      | .error rejection next => .error rejection next := by
  cases h : act draft <;> simp only [bind, EStateM.bind, h]

@[simp] theorem map_apply (f : α → β) (act : Act α) (draft : Draft) :
    (f <$> act) draft = match act draft with
      | .ok value next => .ok (f value) next
      | .error rejection next => .error rejection next := by
  cases h : act draft <;> simp only [Functor.map, EStateM.map, h]

@[simp] theorem pure_apply (value : α) (draft : Draft) :
    (pure value : Act α) draft = .ok value draft := rfl

@[simp] theorem mapError_ok {ε : Type} (f : ε → Rejection) (value : α) :
    (.ok value : Except ε α).mapError f = .ok value := rfl

@[simp] theorem mapError_error {ε : Type} (f : ε → Rejection) (problem : ε) :
    (.error problem : Except ε α).mapError f = .error (f problem) := rfl

/-- Analyses that are taken out one by one are all out. -/
theorem foldl_erase (children : List AnalysisId) (analyses : List Analysis) :
    children.foldl (fun rest child => Roster.erase child rest) analyses =
      analyses.filter fun a => a.id ∉ children := by
  induction children generalizing analyses with
  | nil => exact (List.filter_eq_self.2 (by simp)).symm
  | cons child rest ih =>
    rw [List.foldl_cons, ih, Roster.erase, List.filter_filter]
    refine List.filter_congr fun a _ => ?_
    simp [Keyed.key, Bool.and_comm]

/-- Analyses that are moved over one by one are all over. -/
theorem foldl_redirect (dataset : DatasetId) (children : List AnalysisId)
    (analyses : List Analysis) :
    children.foldl (redirect dataset) analyses =
      analyses.map fun a => if a.id ∈ children then { a with dataset := dataset } else a := by
  induction children generalizing analyses with
  | nil => simp
  | cons child rest ih =>
    rw [List.foldl_cons, ih, redirect, List.map_map]
    refine List.map_congr_left fun a _ => ?_
    by_cases hc : a.id = child <;> by_cases hr : a.id ∈ rest <;> simp [hc, hr]

/-- A compound analysis is taken out as a whole, or the workspace stays as it is. -/
theorem dropCompound_apply (id : CompoundId) (draft : Draft) :
    dropCompound id draft = match draft.core.workspace.removeCompound id with
      | .ok (workspace, removed) =>
        .ok removed { draft with core := { draft.core with workspace := workspace } }
      | .error problem => .error problem.rejection draft := by
  unfold Analysis.Workspace.removeCompound
  cases hc : draft.core.workspace.compound? id with
  | none => simp [dropCompound, hc, Analysis.Problem.rejection]
  | some compound =>
    simp [dropCompound, hc, foldl_erase]
    rfl

/-- No failure is ever passed over half-way. -/
theorem dropEach_apply (ids : List CompoundId) (draft : Draft) :
    dropEach ids draft = .ok (draft.core.workspace.removeEach ids).2
      { draft with core :=
        { draft.core with workspace := (draft.core.workspace.removeEach ids).1 } } := by
  induction ids generalizing draft with
  | nil => rfl
  | cons id rest ih =>
    rw [Analysis.Workspace.removeEach]
    cases hr : draft.core.workspace.removeCompound id with
    | error problem => simp [dropEach, attempt, dropCompound_apply, hr, ih]
    | ok next => simp [dropEach, attempt, dropCompound_apply, hr, ih]

theorem relink_apply (id : CompoundId) (dataset : DatasetId) (draft : Draft) :
    relink id dataset draft = .ok (draft.core.workspace.relink id dataset).2
      { draft with core :=
        { draft.core with workspace := (draft.core.workspace.relink id dataset).1 } } := by
  unfold relink Analysis.Workspace.relink
  cases hc : draft.core.workspace.compound? id with
  | none => simp [hc]
  | some old =>
    by_cases hd : old.dataset = dataset
    · simp [hc, hd]
    · simp [hc, hd, foldl_redirect, Analysis.Workspace.retarget]
      rfl

theorem leaveFormer_apply (id : AnalysisId) (compound : CompoundId) (draft : Draft) :
    leaveFormer id compound draft = .ok (draft.core.workspace.vacate id compound).2
      { draft with core :=
        { draft.core with workspace := (draft.core.workspace.vacate id compound).1 } } := by
  unfold leaveFormer Analysis.Workspace.vacate
  cases ha : draft.core.workspace.analysis? id with
  | none => simp [ha]
  | some old =>
    by_cases ho : old.compound = compound
    · simp [ha, ho]
    · simp [ha, ho, Analysis.Workspace.leave]

/-! ## §5 Jobs -/

theorem retire_apply (analysis : AnalysisId) (draft : Draft) :
    retire analysis draft = .ok ()
      { draft with
        core := { draft.core with jobs := (draft.core.jobs.retire analysis).1 }
        effects := draft.effects ++ (draft.core.jobs.retire analysis).2 } := by
  unfold retire Job.Table.retire
  cases hr : draft.core.jobs.removeFor analysis with
  | mk rest dropped =>
    cases dropped with
    | none => simp [hr]
    | some record => by_cases hf : record.status.isFinal <;> simp [hr, hf]

theorem withdrawAnalyses_apply (gone : List Analysis) (draft : Draft) :
    withdrawAnalyses gone draft = .ok ()
      { draft with
        core := { draft.core with jobs := (draft.core.jobs.withdrawAnalyses gone).1 }
        effects := draft.effects ++ (draft.core.jobs.withdrawAnalyses gone).2 } := by
  induction gone generalizing draft with
  | nil => simp [withdrawAnalyses, Job.Table.withdrawAnalyses]
  | cons analysis others ih =>
    simp [withdrawAnalyses, Job.Table.withdrawAnalyses, retire_apply, ih]

theorem withdraw_apply (gone : List Removed) (draft : Draft) :
    withdraw gone draft = .ok ()
      { draft with
        core := { draft.core with jobs := (draft.core.jobs.withdraw gone).1 }
        effects := draft.effects ++ (draft.core.jobs.withdraw gone).2 } := by
  induction gone generalizing draft with
  | nil => simp [withdraw, Job.Table.withdraw]
  | cons removed others ih =>
    simp [withdraw, Job.Table.withdraw, withdrawAnalyses_apply, ih]

theorem refresh_apply (changed : List Analysis) (draft : Draft) :
    refresh changed draft = .ok ()
      { draft with
        core := { draft.core with jobs := (draft.core.jobs.refresh changed).1 }
        effects := draft.effects ++ (draft.core.jobs.refresh changed).2 } := by
  induction changed generalizing draft with
  | nil => simp [refresh, Job.Table.refresh]
  | cons analysis others ih => simp [refresh, Job.Table.refresh, retire_apply, ih]

theorem removeDependents_apply (dataset : DatasetId) (draft : Draft) :
    removeDependents dataset draft = .ok ()
      { draft with
        core := (draft.core.removeDependents dataset).1
        effects := draft.effects ++ (draft.core.removeDependents dataset).2 } := by
  simp [removeDependents, dropEach_apply, withdraw_apply, Core.removeDependents,
    Analysis.Workspace.removeOver]

end Act

/-! ## §6 Changes -/

namespace Draft

variable {α β : Type} (draft : Draft)

/-- The draft after a change that is made as a whole, or as it was. -/
def commit : Except Rejection (Change α) → EStateM.Result Rejection Draft α
  | .ok made => .ok made.value
    ⟨made.core, draft.serials.afterAll made.effects, draft.effects ++ made.effects⟩
  | .error rejection => .error rejection draft

@[simp] theorem commit_ok (made : Change α) :
    draft.commit (.ok made) = .ok made.value
      ⟨made.core, draft.serials.afterAll made.effects, draft.effects ++ made.effects⟩ := rfl

@[simp] theorem commit_pure (made : Change α) :
    draft.commit (pure made) = .ok made.value
      ⟨made.core, draft.serials.afterAll made.effects, draft.effects ++ made.effects⟩ := rfl

@[simp] theorem commit_error (rejection : Rejection) :
    draft.commit (.error rejection : Except Rejection (Change α)) = .error rejection draft := rfl

@[simp] theorem commit_bind (result : Except Rejection β)
    (f : β → Except Rejection (Change α)) :
    draft.commit (result >>= f) = match result with
      | .ok value => draft.commit (f value)
      | .error rejection => .error rejection draft := by
  cases result <;> rfl

@[simp] theorem commit_map (result : Except Rejection β) (f : β → Change α) :
    draft.commit (f <$> result) = match result with
      | .ok value => draft.commit (.ok (f value))
      | .error rejection => .error rejection draft := by
  cases result <;> rfl

end Draft

namespace Act

variable {α : Type}

/-- An act makes a change as a whole, or fails before it does anything. -/
def Makes (act : Act α) (change : Core → Except Rejection (Change α)) : Prop :=
  ∀ draft : Draft, act draft = draft.commit (change draft.core)

/-- Commands that need a connection fail without one before they do anything. -/
theorem Makes.of_connected {act : Act α} {change : Core → Except Rejection (Change α)}
    (h : Makes act change) :
    Makes (do requireConnected; act) (fun core => do core.requireConnected; change core) := by
  intro draft
  cases hc : draft.core.requireConnected with
  | error rejection => simp [requireConnected, hc]
  | ok _ => simp [requireConnected, hc, h draft]

theorem makes_registerDataset (dataset : Dataset) :
    Makes (registerDataset dataset) (·.registerDataset dataset) := by
  refine .of_connected fun draft => ?_
  by_cases hc : draft.core.datasets.contains dataset.id
  · simp [hc, removeDependents_apply, Core.removeDependents, Serials.after]
  · simp [hc, Serials.after]

theorem makes_removeDataset (id : DatasetId) :
    Makes (removeDataset id) (·.removeDataset id) := by
  refine .of_connected fun draft => ?_
  have hcontains : draft.core.datasets.contains id = (draft.core.datasets.get? id).isSome := rfl
  cases hc : draft.core.datasets.get? id with
  | none => simp [hcontains, hc, Dataset.Registry.remove, Dataset.Problem.rejection]
  | some dataset =>
    -- what depends on a dataset goes without it, so it is still there
    simp [hcontains, hc, Dataset.Registry.remove, removeDependents_apply,
      Core.removeDependents, Serials.after]

theorem makes_putCompound (id : CompoundId) (dataset : DatasetId) (details : Compound.Details) :
    Makes (putCompound id dataset details) (·.putCompound id dataset details) := by
  refine .of_connected fun draft => ?_
  by_cases registered : draft.core.datasets.contains dataset = true
  · simp [registered, Analysis.Workspace.putCompound_eq details registered, relink_apply, place,
      Analysis.Workspace.compound?_relink, refresh_apply]
  · simp [registered, Analysis.Workspace.putCompound, Analysis.Problem.rejection]

theorem makes_removeCompound (id : CompoundId) :
    Makes (removeCompound id) (·.removeCompound id) := by
  refine .of_connected fun draft => ?_
  cases hr : draft.core.workspace.removeCompound id with
  | error problem => simp [dropCompound_apply, hr]
  | ok gone => simp [dropCompound_apply, hr, withdraw_apply]

theorem makes_putAnalysis (id : AnalysisId) (compound : CompoundId) (details : Analysis.Details) :
    Makes (putAnalysis id compound details) (·.putAnalysis id compound details) := by
  refine .of_connected fun draft => ?_
  cases hd : details.check with
  | error problem =>
    have hput : draft.core.workspace.putAnalysis id compound details = .error problem := by
      simp [Analysis.Workspace.putAnalysis, hd, bind, Except.bind]
    simp [hput]
  | ok _ =>
    cases hc : draft.core.workspace.compound? compound with
    | none =>
      have hput : draft.core.workspace.putAnalysis id compound details =
          .error (.parentNotFound compound) := by
        simp [Analysis.Workspace.putAnalysis, hd, hc, bind, Except.bind]
      simp [hc, hput, Analysis.Problem.rejection]
    | some parent =>
      have hput : draft.core.workspace.putAnalysis id compound details = _ :=
        Analysis.Workspace.putAnalysis_eq hd hc
      -- whether the analysis is a new one is asked after it was linked
      have hknown :=
        Analysis.Workspace.analysis?_enter (draft.core.workspace.vacate id compound).1 compound id id
      rw [Analysis.Workspace.analysis?_vacate] at hknown
      unfold Analysis.Workspace.enter at hput hknown
      cases ha : draft.core.workspace.analysis? id with
      | none => simp [hc, hput, leaveFormer_apply, place, hknown, ha]
      | some old =>
        simp [hc, hput, leaveFormer_apply, place, hknown, ha, retire_apply]

theorem makes_removeAnalysis (id : AnalysisId) :
    Makes (removeAnalysis id) (·.removeAnalysis id) := by
  refine .of_connected fun draft => ?_
  cases ha : draft.core.workspace.analysis? id with
  | none => simp [ha, Analysis.Workspace.removeAnalysis, Analysis.Problem.rejection]
  | some analysis =>
    simp [ha, Analysis.Workspace.removeAnalysis, Analysis.Workspace.leave,
      retire_apply, Serials.after]

theorem makes_runAnalysis (fresh : JobId) (answer : Core.EngineAnswer) (id : AnalysisId) :
    Makes (runAnalysis fresh answer id) (·.runAnalysis fresh answer id) := by
  refine .of_connected fun draft => ?_
  cases ha : draft.core.workspace.analysis? id with
  | none => simp [ha]
  | some analysis =>
    cases hd : draft.core.datasets.get? analysis.dataset with
    | none => simp [ha, hd]
    | some dataset =>
      cases hr : answer ⟨fresh, id, dataset, analysis.details⟩ with
      | none => simp [ha, hd, hr, retire_apply, Serials.after]
      | some problem => simp [ha, hd, hr, retire_apply, Serials.after]

theorem makes_cancelJob (id : JobId) : Makes (cancelJob id) (·.cancelJob id) := by
  refine .of_connected fun draft => ?_
  cases hj : draft.core.jobs.get? id with
  | none => simp [hj]
  | some record =>
    by_cases hf : record.status.isFinal
    · simp [hj, hf]
    · simp [hj, hf, Serials.after]

/-- The answer to a command changes nothing more. -/
theorem Makes.answering {act : Act α} {change : Core → Except Rejection (Change α)}
    (h : Makes act change) (reply : α → Reply) (draft : Draft) :
    (do return reply (← act) : Act Reply) draft =
      draft.commit (do return Core.answering (← change draft.core) reply) := by
  rw [bind_apply, h draft]
  cases change draft.core <;> rfl

/-- If a dataset is not prepared, it is not registered. -/
theorem makes_preparedDataset (context : Context) (id : DatasetId) (params : Dataset.Params) :
    Makes
      (do
        let dataset ← check
          ((Dataset.prepare id params context.facts.file).mapError Dataset.Problem.rejection)
        return .changed (.datasetCreated id (← registerDataset dataset)))
      (fun core => do
        let dataset ←
          (Dataset.prepare id params context.facts.file).mapError Dataset.Problem.rejection
        let change ← core.registerDataset dataset
        return Core.answering change fun dataset => .changed (.datasetCreated id dataset)) := by
  intro draft
  cases hp : Dataset.prepare id params context.facts.file with
  | error problem => simp
  | ok dataset =>
    simpa using (makes_registerDataset dataset).answering
      (fun dataset => .changed (.datasetCreated id dataset)) draft

/-- All commands but one make their changes without knocking anywhere before. -/
theorem perform_quiet (context : Context) {command : Command}
    (h : ∀ spec, command ≠ .connect spec) :
    Makes (perform context command) (·.perform context command) := by
  intro draft
  cases command with
  | connect spec => exact absurd rfl (h spec)
  | disconnect =>
    simp [perform, take, Core.perform, Core.answering, Serials.afterAll_disconnect]
  | getDataset id =>
    cases hd : draft.core.datasets.get? id <;>
      simp [perform, Core.perform, hd, Core.answerOnly]
  | registerDataset id params =>
    exact (makes_preparedDataset context id params).of_connected draft
  | removeDataset id => exact (makes_removeDataset id).answering _ draft
  | putCompound id dataset details =>
    exact (makes_putCompound id dataset details).answering _ draft
  | removeCompound id => exact (makes_removeCompound id).answering _ draft
  | putAnalysis id compound details =>
    exact (makes_putAnalysis id compound details).answering _ draft
  | removeAnalysis id => exact (makes_removeAnalysis id).answering _ draft
  | runAnalysis id =>
    exact (makes_runAnalysis context.nextJob context.answer id).answering _ draft
  | cancelJob id => exact (makes_cancelJob id).answering _ draft
  | _ => simp [perform, Core.perform, Core.answerOnly]

theorem perform_connect (context : Context) (spec : Connection.Spec) (draft : Draft) :
    perform context (.connect spec) draft =
      { draft with effects := draft.effects ++ Core.knocks (.connect spec) }.commit
        (draft.core.perform context (.connect spec)) := by
  cases hv : Connection.verify spec context.facts.unreachable with
  | error problem => simp [perform, Core.perform, hv]
  | ok _ =>
    simp [perform, take, Core.perform, Core.answering, hv, Serials.afterAll_connect]

theorem perform_apply (context : Context) (command : Command) (draft : Draft) :
    perform context command draft =
      { draft with effects := draft.effects ++ Core.knocks command }.commit
        (draft.core.perform context command) := by
  by_cases hspec : ∃ spec, command = .connect spec
  · obtain ⟨spec, rfl⟩ := hspec
    exact perform_connect context spec draft
  · have quiet : ∀ spec, command ≠ .connect spec := fun spec h => hspec ⟨spec, h⟩
    have hknocks : Core.knocks command = [] := by
      cases command with
      | connect spec => exact absurd rfl (quiet spec)
      | _ => rfl
    rw [hknocks, List.append_nil]
    exact perform_quiet context quiet draft

end Act

end Coordination
