/-
Coordination.Proofs.MessageCodec — a message is told from every other by its wire form.

An object on the wire has no order of fields, and the fields of a message
lie beside those of the envelope. So there are two ways in which two messages
could look the same: a field that hides another, or two messages that differ
only where nobody looks. Neither happens (`encoded_faithfully`): the names in
the object of a message are distinct, and two messages have the same object,
up to the order of the fields at every depth, only if they are the same
message, up to that order in the values that they carry.

What is shown is shown of any relation that takes values apart
(`Json.Discerning`): equality is one, equality up to the order of fields is
another.

  §1 Values    — `Json.Same`, `Json.Discerning`.
  §2 Records   — what the objects of datasets, connections, analyses tell.
  §3 Messages  — `Message.Agree`, `Message.fields`, `encoded_faithfully`.
-/
import Coordination.Broadcast.Message
import Coordination.Proofs.CommandCodec
import Coordination.Proofs.RejectionCodes
import Mathlib.Data.List.Forall2

namespace Coordination

/-! ## §1 Values -/

namespace Json

/-- Equality up to the order of the fields of objects. Of several fields with one name the first
counts. -/
inductive Same : Json → Json → Prop
  | null : Same null null
  | bool (value : Bool) : Same (bool value) (bool value)
  | int (value : Int) : Same (int value) (int value)
  | float (value : Binary64) : Same (float value) (float value)
  | str (value : String) : Same (str value) (str value)
  | arr {items others : List Json} (each : List.Forall₂ Same items others) :
      Same (arr items) (arr others)
  | obj {fields others : List (String × Json)}
      (each : ∀ name, Option.Rel Same (lookup name fields) (lookup name others)) :
      Same (obj fields) (obj others)

theorem Same.refl : ∀ value : Json, Same value value
  | .null => .null
  | .bool value => .bool value
  | .int value => .int value
  | .float value => .float value
  | .str value => .str value
  | .arr items => .arr (reflItems items)
  | .obj fields => .obj (reflFields fields)
where
  reflItems : ∀ items : List Json, List.Forall₂ Same items items
    | [] => .nil
    | item :: rest => .cons (Same.refl item) (reflItems rest)
  reflFields : ∀ (fields : List (String × Json)) (name : String),
      Option.Rel Same (lookup name fields) (lookup name fields)
    | [], _ => .none
    | (key, value) :: rest, name => by
      rw [lookup]
      split
      · exact .some (Same.refl value)
      · exact reflFields rest name

/-- The value of one field may be replaced by the same. -/
theorem Same.replace (before : List (String × Json)) (name : String)
    (after : List (String × Json)) {value other : Json} (h : Same value other) :
    Same (.obj (before ++ (name, value) :: after)) (.obj (before ++ (name, other) :: after)) := by
  refine .obj fun sought => ?_
  induction before with
  | nil =>
    simp only [List.nil_append, lookup]
    split
    · exact .some h
    · exact Same.refl.reflFields after sought
  | cons field before ih =>
    simp only [List.cons_append, lookup]
    split
    · exact .some (.refl _)
    · exact ih

theorem Same.ofList {α : Type} {write : α → Json} {S : α → α → Prop}
    (each : ∀ {a b}, S a b → Same (write a) (write b)) {values others : List α}
    (h : List.Forall₂ S values others) : Same (.ofList write values) (.ofList write others) := by
  refine .arr ?_
  rw [List.forall₂_map_left_iff, List.forall₂_map_right_iff]
  exact h.imp fun _ _ => each

/-- Where the names are distinct, every field can be found. -/
theorem lookup_of_mem {fields : List (String × Json)} (distinct : (fields.map Prod.fst).Nodup)
    {field : String × Json} (h : field ∈ fields) : lookup field.1 fields = some field.2 := by
  induction fields with
  | nil => cases h
  | cons first rest ih =>
    rw [List.map_cons, List.nodup_cons] at distinct
    rw [lookup]
    rcases List.mem_cons.1 h with rfl | h
    · rw [if_pos rfl]
    · have apart : first.1 ≠ field.1 := fun same =>
        distinct.1 (same ▸ List.mem_map_of_mem h)
      rw [if_neg apart]
      exact ih distinct.2 h

/-- A relation that tells apart texts, flags and integers, that goes through lists in their order,
and that takes the fields of objects by their names. -/
structure Discerning (R : Json → Json → Prop) : Prop where
  text : ∀ {s t : String}, R (.str s) (.str t) → s = t
  flag : ∀ {b c : Bool}, R (.bool b) (.bool c) → b = c
  integer : ∀ {m n : Int}, R (.int m) (.int n) → m = n
  items : ∀ {items others : List Json}, R (.arr items) (.arr others) → List.Forall₂ R items others
  fields : ∀ {fields others : List (String × Json)}, R (.obj fields) (.obj others) →
    ∀ name, Option.Rel R (lookup name fields) (lookup name others)

theorem discerning_eq : Discerning Eq where
  text := Json.str.inj
  flag := Json.bool.inj
  integer := Json.int.inj
  items := by
    rintro items _ ⟨⟩
    rw [List.forall₂_eq_eq_eq]
  fields := by
    rintro fields _ ⟨⟩ name
    cases lookup name fields with
    | none => exact .none
    | some value => exact .some rfl

theorem discerning_same : Discerning Same where
  text := by
    rintro s _ ⟨⟩
    rfl
  flag := by
    rintro b _ ⟨⟩
    rfl
  integer := by
    rintro n _ ⟨⟩
    rfl
  items := by
    rintro _ _ ⟨⟩
    assumption
  fields := by
    rintro _ _ ⟨⟩
    assumption

namespace Discerning

variable {R : Json → Json → Prop} {α : Type}

theorem field (D : Discerning R) {fields others : List (String × Json)}
    (h : R (.obj fields) (.obj others)) (name : String) {value other : Json}
    (left : lookup name fields = some value) (right : lookup name others = some other) :
    R value other := by
  have both := D.fields h name
  rw [left, right] at both
  cases both
  assumption

theorem missing (D : Discerning R) {fields others : List (String × Json)}
    (h : R (.obj fields) (.obj others)) (name : String) :
    lookup name fields = none ↔ lookup name others = none := by
  have both := D.fields h name
  generalize lookup name fields = value at both ⊢
  generalize lookup name others = other at both ⊢
  cases both <;> simp

theorem count (D : Discerning R) {m n : Nat} (h : R (.ofNat m) (.ofNat n)) : m = n :=
  Int.ofNat_inj.1 (D.integer h)

/-- Of what is written as a text and can be read back, nothing is lost. -/
theorem written (D : Discerning R) {name : α → String} {read : Json → Option α}
    (reads : ∀ a, read (.str (name a)) = some a) {a b : α}
    (h : R (.str (name a)) (.str (name b))) : a = b := by
  have same := reads a
  rw [D.text h, reads b] at same
  exact (Option.some.inj same).symm

theorem list (D : Discerning R) {write : α → Json} {S : α → α → Prop}
    (each : ∀ {a b}, R (write a) (write b) → S a b) {values others : List α}
    (h : R (.ofList write values) (.ofList write others)) : List.Forall₂ S values others := by
  have there := D.items h
  rw [List.forall₂_map_left_iff, List.forall₂_map_right_iff] at there
  exact there.imp fun _ _ => each

theorem list_eq (D : Discerning R) {write : α → Json}
    (each : ∀ {a b}, R (write a) (write b) → a = b) {values others : List α}
    (h : R (.ofList write values) (.ofList write others)) : values = others := by
  have there := D.list each h
  rwa [List.forall₂_eq_eq_eq] at there

end Discerning

end Json

/-! ## §2 Records -/

namespace Json.Discerning

variable {R : Json → Json → Prop} (D : Discerning R)

include D

theorem ident {kind : EntityKind} {a b : Ident kind} (h : R a.toJson b.toJson) : a = b :=
  D.written Ident.ofJson?_toJson h

theorem idents {kind : EntityKind} {ids others : List (Ident kind)}
    (h : R (.ofList Ident.toJson ids) (.ofList Ident.toJson others)) : ids = others :=
  D.list_eq D.ident h

theorem counts {sizes others : List Nat} (h : R (.ofList .ofNat sizes) (.ofList .ofNat others)) :
    sizes = others :=
  D.list_eq D.count h

theorem spec {a b : Connection.Spec} (h : R a.toJson b.toJson) : a = b := by
  cases a <;> cases b
  case pool.pool => rw [D.count (D.field h "numWorkers" rfl rfl)]
  case cluster.cluster => rw [D.text (D.field h "address" rfl rfl)]
  all_goals exact absurd (D.text (D.field h "type" rfl rfl)) (by decide)

/-- The object with no fields stands for no connection and for nothing else. -/
theorem connection {a b : Connection} (h : R a.body b.body) : a = b := by
  cases a with
  | disconnected => cases b with
    | disconnected => rfl
    | connected spec => cases spec <;> exact nomatch (D.missing h "type").1 rfl
  | connected spec => cases b with
    | disconnected => cases spec <;> exact nomatch (D.missing h "type").2 rfl
    | connected other => rw [D.spec h]

/-- The shape lies among the parameters and hides none of them. -/
theorem datasetDetails {a b : Dataset.Details} (h : R a.toJson b.toJson) : a = b := by
  obtain ⟨params, shape⟩ := a
  obtain ⟨others, _⟩ := b
  cases params <;> cases others
  case raw.raw p q =>
    have path := D.text (D.field h "path" rfl rfl)
    have dtype := D.written (ElementType.ofJson?_toJson .alone) (D.field h "dtype" rfl rfl)
    have detector := D.counts (D.field h "detector_size" rfl rfl)
    have scan := D.counts (D.field h "scan_size" rfl rfl)
    have direct := D.flag (D.field h "enable_direct" rfl rfl)
    have shapes := D.counts (D.field h "shape" rfl rfl)
    cases p
    cases q
    simp_all
  case memory.memory p q =>
    have dtype := D.written (ElementType.ofJson?_toJson .alone) (D.field h "dtype" rfl rfl)
    have detector := D.counts (D.field h "detector_size" rfl rfl)
    have scan := D.counts (D.field h "scan_size" rfl rfl)
    have shapes := D.counts (D.field h "shape" rfl rfl)
    cases p
    cases q
    simp_all
  all_goals exact absurd (D.text (D.field h "type" rfl rfl)) (by decide)

theorem dataset {a b : Dataset} (h : R a.toJson b.toJson) : a = b := by
  have id := D.ident (D.field h "id" rfl rfl)
  have details := D.datasetDetails (D.field h "params" rfl rfl)
  cases a
  cases b
  simp_all

theorem kind {a b : Analysis.Kind} (h : R a.toJson b.toJson) : a = b :=
  D.written (Analysis.Kind.ofJson?_toJson .alone) h

theorem compoundDetails {a b : Compound.Details} (h : R a.toJson b.toJson) : a = b := by
  have mainKind := D.kind (D.field h "mainType" rfl rfl)
  have order := D.idents (D.field h "analyses" rfl rfl)
  cases a
  cases b
  simp_all

theorem compound {a b : Compound} (h : R a.toJson b.toJson) : a = b := by
  have id := D.ident (D.field h "id" rfl rfl)
  have dataset := D.ident (D.field h "dataset" rfl rfl)
  have details := D.compoundDetails (D.field h "details" rfl rfl)
  cases a
  cases b
  simp_all

theorem status {a b : Job.Status} (h : R a.toJson b.toJson) : a = b := by
  have reads (status : Job.Status) :
      Job.Status.ofJson? .alone (.str status.name) = some status := by
    cases status <;> rfl
  exact D.written reads h

theorem record {a b : Job.Record} (h : R a.toJson b.toJson) : a = b := by
  have id := D.ident (D.field h "id" rfl rfl)
  have analysis := D.ident (D.field h "analysis" rfl rfl)
  have status := D.status (D.field h "status" rfl rfl)
  cases a
  cases b
  simp_all

end Json.Discerning

/-! ## §3 Messages -/

/-- Analyses that agree but for their parameters, and there by a relation. -/
def Analysis.Details.Agree (R : Json → Json → Prop) (a b : Analysis.Details) : Prop :=
  a.kind = b.kind ∧ R a.parameters b.parameters

@[inherit_doc Analysis.Details.Agree]
def Analysis.Agree (R : Json → Json → Prop) (a b : Analysis) : Prop :=
  a.id = b.id ∧ a.dataset = b.dataset ∧ a.compound = b.compound ∧ a.details.Agree R b.details

/-- Snapshots with analyses that agree, and with everything else the same. -/
def Snapshot.Agree (R : Json → Json → Prop) (a b : Snapshot) : Prop :=
  a.connection = b.connection ∧ a.datasets = b.datasets ∧ a.compounds = b.compounds ∧
    List.Forall₂ (Analysis.Agree R) a.analyses b.analyses ∧ a.jobs = b.jobs

theorem Analysis.Details.agree_eq {a b : Analysis.Details} : a.Agree Eq b ↔ a = b := by
  cases a
  cases b
  simp [Agree]

theorem Analysis.agree_eq {a b : Analysis} : a.Agree Eq b ↔ a = b := by
  cases a
  cases b
  simp [Agree, Details.agree_eq]

theorem Snapshot.agree_eq {a b : Snapshot} : a.Agree Eq b ↔ a = b := by
  have analyses : Analysis.Agree Eq = Eq := by
    funext a b
    exact propext Analysis.agree_eq
  cases a
  cases b
  simp [Agree, analyses]

namespace Message

/-- Messages that are the same but for the values that clients and engines put into them: the
parameters of analyses and the results of jobs. There they agree by a relation. -/
inductive Agree (R : Json → Json → Prop) : Message → Message → Prop
  | same (message : Message) : Agree R message message
  | initialState {a b : Snapshot} (snapshots : a.Agree R b) :
      Agree R (initialState a) (initialState b)
  | analysisCreated (id : AnalysisId) (compound : CompoundId) (dataset : DatasetId)
      {a b : Analysis.Details} (details : a.Agree R b) :
      Agree R (analysisCreated id compound dataset a) (analysisCreated id compound dataset b)
  | analysisUpdated (id : AnalysisId) (compound : CompoundId) (dataset : DatasetId)
      {a b : Analysis.Details} (details : a.Agree R b) :
      Agree R (analysisUpdated id compound dataset a) (analysisUpdated id compound dataset b)
  | jobFinished (handle : Job.Handle) {a b : Json} (results : R a b) :
      Agree R (jobFinished handle a) (jobFinished handle b)

theorem agree_eq {message other : Message} : Agree Eq message other ↔ message = other := by
  constructor
  · intro h
    cases h with
    | same => rfl
    | initialState snapshots => rw [Snapshot.agree_eq.1 snapshots]
    | analysisCreated _ _ _ details | analysisUpdated _ _ _ details =>
      rw [Analysis.Details.agree_eq.1 details]
    | jobFinished _ results => rw [results]
  · rintro rfl
    exact .same message

end Message

namespace Json.Discerning

variable {R : Json → Json → Prop} (D : Discerning R)

include D

theorem analysisDetails {a b : Analysis.Details} (h : R a.toJson b.toJson) : a.Agree R b :=
  ⟨D.kind (D.field h "analysisType" rfl rfl), D.field h "parameters" rfl rfl⟩

theorem analysis {a b : Analysis} (h : R a.toJson b.toJson) : a.Agree R b :=
  ⟨D.ident (D.field h "id" rfl rfl), D.ident (D.field h "dataset" rfl rfl),
    D.ident (D.field h "compoundAnalysis" rfl rfl),
    D.analysisDetails (D.field h "details" rfl rfl)⟩

theorem code {a b : ErrorCode} (h : R a.toJson b.toJson) : a = b := by
  have reads (code : ErrorCode) : ErrorCode.ofJson? .alone (.str code.name) = some code :=
    ErrorCode.ofName?_name code
  exact D.written reads h

/-- What the objects of two messages tell of the messages. The type tells the variant, and each
part of the message is under a name of its own. -/
theorem message {a b : Message} (h : R a.toJson b.toJson) : Message.Agree R a b := by
  have type : a.tag = b.tag := D.text (D.field h "messageType" rfl rfl)
  have handle {f g : Job.Handle} {rest others : List (String × Json)} {error other : Bool}
      {name type : String}
      (h : R (Message.envelope error name (f.toFields ++ rest))
        (Message.envelope other type (g.toFields ++ others))) : f = g := by
    have job := D.ident (D.field h "job" rfl rfl)
    have analysis := D.ident (D.field h "analysis" rfl rfl)
    cases f
    cases g
    simp_all
  cases a <;> cases b <;> try (simp [Message.tag] at type; done)
  case initialState.initialState a b =>
    exact .initialState ⟨D.connection (D.field h "connection" rfl rfl),
      D.list_eq D.dataset (D.field h "datasets" rfl rfl),
      D.list_eq D.compound (D.field h "compoundAnalyses" rfl rfl),
      D.list D.analysis (D.field h "analyses" rfl rfl),
      D.list_eq D.record (D.field h "jobs" rfl rfl)⟩
  case connected.connected =>
    cases D.spec (D.field h "connection" rfl rfl)
    exact .same _
  case disconnected.disconnected => exact .same _
  case datasetCreated.datasetCreated =>
    cases D.ident (D.field h "dataset" rfl rfl)
    cases D.dataset (D.field h "details" rfl rfl)
    exact .same _
  case datasetDeleted.datasetDeleted =>
    cases D.ident (D.field h "dataset" rfl rfl)
    exact .same _
  case compoundCreated.compoundCreated | compoundUpdated.compoundUpdated =>
    cases D.ident (D.field h "compoundAnalysis" rfl rfl)
    cases D.ident (D.field h "dataset" rfl rfl)
    cases D.compoundDetails (D.field h "details" rfl rfl)
    exact .same _
  case compoundRemoved.compoundRemoved =>
    cases D.ident (D.field h "compoundAnalysis" rfl rfl)
    exact .same _
  case analysisCreated.analysisCreated =>
    cases D.ident (D.field h "analysis" rfl rfl)
    cases D.ident (D.field h "compoundAnalysis" rfl rfl)
    cases D.ident (D.field h "dataset" rfl rfl)
    exact .analysisCreated _ _ _ (D.analysisDetails (D.field h "details" rfl rfl))
  case analysisUpdated.analysisUpdated =>
    cases D.ident (D.field h "analysis" rfl rfl)
    cases D.ident (D.field h "compoundAnalysis" rfl rfl)
    cases D.ident (D.field h "dataset" rfl rfl)
    exact .analysisUpdated _ _ _ (D.analysisDetails (D.field h "details" rfl rfl))
  case analysisRemoved.analysisRemoved =>
    cases D.ident (D.field h "analysis" rfl rfl)
    exact .same _
  case jobStarted.jobStarted | jobCanceled.jobCanceled =>
    cases handle h
    exact .same _
  case taskResult.taskResult =>
    cases handle h
    cases D.count (D.field h "done" rfl rfl)
    cases D.count (D.field h "total" rfl rfl)
    exact .same _
  case jobFinished.jobFinished =>
    cases handle h
    exact .jobFinished _ (D.field h "result" rfl rfl)
  case jobFailed.jobFailed =>
    cases handle h
    cases D.code (D.field h "code" rfl rfl)
    cases D.text (D.field h "msg" rfl rfl)
    exact .same _

end Json.Discerning

theorem Analysis.Details.Agree.same {a b : Analysis.Details} (h : a.Agree Json.Same b) :
    Json.Same a.toJson b.toJson := by
  obtain ⟨kind, parameters⟩ := h
  rw [toJson, toJson, kind]
  exact .replace [_] _ [] parameters

theorem Analysis.Agree.same {a b : Analysis} (h : a.Agree Json.Same b) :
    Json.Same a.toJson b.toJson := by
  obtain ⟨id, dataset, compound, details⟩ := h
  rw [toJson, toJson, id, dataset, compound]
  exact .replace [_, _, _] _ [] details.same

namespace Message

theorem Agree.same_toJson {a b : Message} (h : Agree Json.Same a b) :
    Json.Same a.toJson b.toJson := by
  cases h with
  | same => exact .refl _
  | @initialState a b snapshots =>
    obtain ⟨connection, datasets, compounds, analyses, jobs⟩ := snapshots
    have fields : Json.Same (Message.initialState a).toJson (.obj _) :=
      .replace [_, _, _, _, _] "analyses" [_] (.ofList (fun h => h.same) analyses)
    rw [connection, datasets, compounds, jobs] at fields
    exact fields
  | analysisCreated _ _ _ details | analysisUpdated _ _ _ details =>
    exact .replace [_, _, _, _, _] "details" [] details.same
  | jobFinished _ results => exact .replace [_, _, _, _] "result" [] results

/-- The fields of the object of a message, those of the envelope first. -/
def fields (message : Message) : List (String × Json) :=
  [("status", .str (if message.isError then "error" else "ok")),
    ("messageType", .str message.typeName)] ++ message.payload

/-- No field has the name of another. -/
theorem nodup_fields (message : Message) : (message.fields.map Prod.fst).Nodup := by
  cases message <;> simp [fields, payload, Job.Handle.toFields, Snapshot.toFields]

/-- No field of a message has a name of the envelope. -/
theorem payload_apart {message : Message} {field : String × Json} (h : field ∈ message.payload) :
    field.1 ∉ ["status", "messageType"] := by
  have names := message.nodup_fields
  rw [fields, List.map_append] at names
  exact fun taken => List.disjoint_of_nodup_append names taken (List.mem_map_of_mem h)

theorem toJson_eq (message : Message) : message.toJson = .obj message.fields := by
  rw [toJson, tag_eq_typeName]
  rfl

/-- The encoding of messages is faithful. Every message is an object; its type and its status are
where they belong, the status is an error for a failed job and for nothing else, and the fields of
the message are all there beside them. The object tells the message: messages with equal objects
are equal, and where the objects are equal up to the order of fields, so are the messages. -/
theorem encoded_faithfully (message : Message) :
    message.toJson = .obj message.fields ∧ (message.fields.map Prod.fst).Nodup ∧
    message.toJson.field? "messageType" = some (.str message.typeName) ∧
    message.toJson.field? "status" =
      some (.str (if message.typeName = "JOB_ERROR" then "error" else "ok")) ∧
    (∀ field ∈ message.payload, field.1 ∉ ["status", "messageType"] ∧
      message.toJson.field? field.1 = some field.2) ∧
    (∀ other : Message, message.toJson = other.toJson ↔ message = other) ∧
    ∀ other : Message, Json.Same message.toJson other.toJson ↔ Agree Json.Same message other := by
  have names := message.nodup_fields
  refine ⟨message.toJson_eq, names, ?type, ?status, fun field there => ?payload,
    fun other => ?equal, fun other => ⟨Json.discerning_same.message, Agree.same_toJson⟩⟩
  case type =>
    rw [toJson_eq]
    rfl
  case status => cases message <;> rfl
  case payload =>
    rw [toJson_eq]
    exact ⟨payload_apart there, Json.lookup_of_mem names (List.mem_append_right _ there)⟩
  case equal =>
    exact ⟨fun h => agree_eq.1 (Json.discerning_eq.message h), fun h => h ▸ rfl⟩

/-- Messages with the same parameters in another order are not equal, and are the same but for that
order. The code of a failed job is found in the object. -/
theorem encoded_faithfully_reordered :
    let updated (parameters : List (String × Json)) : Message :=
      .analysisUpdated (.ofNat 1) (.ofNat 2) (.ofNat 3) ⟨.sumFrames, .obj parameters⟩
    let one := updated [("r", .int 1), ("", .null)]
    let other := updated [("", .null), ("r", .int 1)]
    let failed : Message := .jobFailed ⟨.ofNat 1, .ofNat 1⟩ .notFound ""
    one.toJson ≠ other.toJson ∧ Json.Same one.toJson other.toJson ∧
      ("code", ErrorCode.notFound.toJson) ∈ failed.payload ∧
      failed.toJson.field? "code" = some ErrorCode.notFound.toJson := by
  intro updated one other failed
  obtain ⟨-, -, -, -, -, equal, same⟩ := encoded_faithfully one
  obtain ⟨-, -, -, -, found, -⟩ := encoded_faithfully failed
  have parameters : Json.Same (.obj [("r", .int 1), ("", .null)])
      (.obj [("", .null), ("r", .int 1)]) := by
    refine .obj fun name => ?_
    by_cases r : name = "r"
    · subst r
      exact .some (.int 1)
    · by_cases empty : name = ""
      · subst empty
        exact .some .null
      · simp [Json.lookup, Ne.symm r, Ne.symm empty]
  have code : ("code", ErrorCode.notFound.toJson) ∈ failed.payload := by
    simp [failed, payload]
  refine ⟨fun h => ?_, (same other).2 (.analysisUpdated _ _ _ ⟨rfl, parameters⟩), code,
    (found _ code).2⟩
  simpa [one, other, updated] using (equal other).1 h

end Message

end Coordination
