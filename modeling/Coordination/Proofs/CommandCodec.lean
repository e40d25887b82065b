/-
Coordination.Proofs.CommandCodec — a command is read back from what is written for it.

A command has many spellings: a record may be an array, a choice may be made
by an old name or by its place, a word may be an object, defaults may be left
out, fields that nobody declared may be there. One spelling is written, and
from it comes the same command again (`command_round_trip`). A count that is
written has to fit into 64 bits; every count that is read does, so what is
read from any spelling at all is one and the same command as what is read
from the spelling that is written for it.

  §1 Counts    — `nat?_ofNat`, lists of counts.
  §2 Choices   — the names of the alternatives.
  §3 Parts     — connections, datasets, analyses.
  §4 Commands  — `command_round_trip`.
-/
import Coordination.Core.Command
import Coordination.Proofs.Identifiers

namespace Coordination

/-! ## §1 Counts -/

namespace Json

variable {α : Type}

theorem nat?_ofNat {n : Nat} (h : n < natLimit) : nat? (ofNat n) = some n := by
  have fits : 0 ≤ (n : Int) ∧ (n : Int) < natLimit := by omega
  rw [ofNat, nat?, if_pos fits, Int.toNat_natCast]

theorem lt_natLimit_of_nat? {json : Json} {n : Nat} (h : nat? json = some n) : n < natLimit := by
  cases json with
  | int i =>
    rw [nat?] at h
    split at h
    · next fits =>
      cases h
      omega
    · cases h
  | _ => cases h

theorem all?_map {read : Json → Option α} {write : α → Json} {values : List α}
    (h : ∀ a ∈ values, read (write a) = some a) : all? read (values.map write) = some values := by
  induction values with
  | nil => rfl
  | cons a values ih =>
    rw [List.forall_mem_cons] at h
    simp only [List.map_cons, all?, h.1, ih h.2]

theorem list?_ofList {read : Json → Option α} {write : α → Json} {values : List α}
    (h : ∀ a ∈ values, read (write a) = some a) : list? read (ofList write values) = some values :=
  all?_map h

theorem forall_mem_of_all? {read : Json → Option α} {P : α → Prop}
    (sound : ∀ {json a}, read json = some a → P a) {items : List Json} {values : List α}
    (h : all? read items = some values) : ∀ a ∈ values, P a := by
  induction items generalizing values with
  | nil =>
    cases h
    exact nofun
  | cons item items ih =>
    rw [all?] at h
    split at h
    · next a rest first others =>
      cases h
      exact List.forall_mem_cons.2 ⟨sound first, ih others⟩
    · cases h

theorem forall_mem_of_list? {read : Json → Option α} {P : α → Prop}
    (sound : ∀ {json a}, read json = some a → P a) {json : Json} {values : List α}
    (h : list? read json = some values) : ∀ a ∈ values, P a := by
  cases json with
  | arr items => exact forall_mem_of_all? sound h
  | _ => cases h

/-! ## §2 Choices -/

theorem alternative?_name {name : String} {names : List String} (h : name ∈ names) :
    ∃ index, alternative? name (names.map fun name => [name]) = some index ∧
      names[index]? = some name := by
  induction names with
  | nil => cases h
  | cons first names ih =>
    by_cases same : name = first
    · exact ⟨0, by simp [alternative?, same], by simp [same]⟩
    · obtain ⟨index, found, there⟩ := ih ((List.mem_cons.1 h).resolve_left same)
      exact ⟨index + 1, by simp [alternative?, same, found], there⟩

/-- An object whose tag is the name of an alternative is that alternative. -/
theorem variant?_obj (place : Place) {tagName name : String} {names : List String}
    {fields : List (String × Json)} (tag : lookup tagName fields = some (.str name))
    (h : name ∈ names) : variant? place tagName names (.obj fields) = some (name, .obj fields) := by
  obtain ⟨index, found, there⟩ := alternative?_name h
  simp only [variant?, choice?, tag, tag?, found, Option.bind_some, Option.map_some, there]

end Json

/-! ## §3 Parts -/

namespace Connection.Spec

/-- Whether the number of workers can be written. -/
def Sized : Spec → Prop
  | pool workers => workers < Json.natLimit
  | cluster _ => True

theorem ofJson?_pool (place : Json.Place) {value : Json} {workers : Nat}
    (h : value.nat? = some workers) :
    ofJson? place (.obj [("type", .str "local"), ("numWorkers", value)]) =
      some (pool workers) := by
  simp [ofJson?, tags, Json.choice?, Json.lookup, Json.tag?, Json.alternative?, Json.fields?, h]

theorem ofJson?_toJson (place : Json.Place) {spec : Spec} (h : spec.Sized) :
    ofJson? place spec.toJson = some spec := by
  cases spec with
  | pool workers => exact ofJson?_pool place (Json.nat?_ofNat h)
  | cluster address =>
    simp [ofJson?, toJson, tags, Json.choice?, Json.lookup, Json.tag?, Json.alternative?,
      Json.fields?, Json.string?]

theorem sized_of_ofJson? {place : Json.Place} {json : Json} {spec : Spec}
    (h : ofJson? place json = some spec) : spec.Sized := by
  unfold ofJson? at h
  obtain ⟨⟨index, body⟩, -, h⟩ := Option.bind_eq_some_iff.1 h
  split at h
  · obtain ⟨fields, -, h⟩ := Option.bind_eq_some_iff.1 h
    split at h
    · obtain ⟨workers, read, h⟩ := Option.bind_eq_some_iff.1 h
      cases h
      exact Json.lt_natLimit_of_nat? read
    · cases h
  · obtain ⟨fields, -, h⟩ := Option.bind_eq_some_iff.1 h
    split at h
    · obtain ⟨address, -, h⟩ := Option.bind_eq_some_iff.1 h
      cases h
      trivial
    · cases h
  · cases h

end Connection.Spec

@[simp] theorem ElementType.ofJson?_toJson (place : Json.Place) (type : ElementType) :
    ofJson? place type.toJson = some type := by
  cases type <;> rfl

@[simp] theorem Analysis.Kind.ofJson?_toJson (place : Json.Place) (kind : Analysis.Kind) :
    ofJson? place kind.toJson = some kind := by
  cases kind <;> rfl

namespace Dataset.Params

/-- Whether the sizes of the detector and of the scan can be written. -/
def Sized (params : Params) : Prop :=
  (∀ size ∈ params.detectorSize, size < Json.natLimit) ∧
    ∀ size ∈ params.scanSize, size < Json.natLimit

theorem sizes?_ofList {sizes : List Nat} (h : ∀ size ∈ sizes, size < Json.natLimit) :
    sizes? (.ofList .ofNat sizes) = some sizes :=
  Json.list?_ofList fun size there => Json.nat?_ofNat (h size there)

theorem lt_natLimit_of_sizes? {json : Json} {sizes : List Nat} (h : sizes? json = some sizes) :
    ∀ size ∈ sizes, size < Json.natLimit :=
  Json.forall_mem_of_list? Json.lt_natLimit_of_nat? h

theorem ofJson?_toJson (place : Json.Place) {params : Params} (h : params.Sized) :
    ofJson? place params.toJson = some params := by
  cases params with
  | raw p =>
    have detector : sizes? (.ofList .ofNat p.detectorSize) = some p.detectorSize :=
      sizes?_ofList h.1
    have scan : sizes? (.ofList .ofNat p.scanSize) = some p.scanSize :=
      sizes?_ofList h.2
    simp [ofJson?, toJson, toFields, Json.choice?, Json.lookup, Json.tag?, Json.alternative?,
      Json.fields?, Json.string?, Json.bool?, detector, scan]
  | memory p =>
    have detector : sizes? (.ofList .ofNat p.detectorSize) = some p.detectorSize :=
      sizes?_ofList h.1
    have scan : sizes? (.ofList .ofNat p.scanSize) = some p.scanSize :=
      sizes?_ofList h.2
    simp [ofJson?, toJson, toFields, Json.choice?, Json.lookup, Json.tag?, Json.alternative?,
      Json.fields?, detector, scan]

theorem sized_of_ofJson? {place : Json.Place} {json : Json} {params : Params}
    (h : ofJson? place json = some params) : params.Sized := by
  unfold ofJson? at h
  obtain ⟨⟨index, body⟩, -, h⟩ := Option.bind_eq_some_iff.1 h
  dsimp only at h
  split at h
  · obtain ⟨fields, -, h⟩ := Option.bind_eq_some_iff.1 h
    split at h
    · next direct =>
      simp only [Option.bind_eq_bind, Option.bind_eq_some_iff] at h
      obtain ⟨path, -, dtype, -, detector, hd, scan, hs, h⟩ := h
      have sizes : params.detectorSize = detector ∧ params.scanSize = scan := by
        cases direct with
        | none =>
          cases h
          exact ⟨rfl, rfl⟩
        | some value =>
          obtain ⟨flag, -, h⟩ := Option.bind_eq_some_iff.1 h
          cases h
          exact ⟨rfl, rfl⟩
      rw [Sized, sizes.1, sizes.2]
      exact ⟨lt_natLimit_of_sizes? hd, lt_natLimit_of_sizes? hs⟩
    · cases h
  · obtain ⟨fields, -, h⟩ := Option.bind_eq_some_iff.1 h
    split at h
    · simp only [Option.bind_eq_bind, Option.bind_eq_some_iff] at h
      obtain ⟨dtype, -, detector, hd, scan, hs, h⟩ := h
      cases h
      exact ⟨lt_natLimit_of_sizes? hd, lt_natLimit_of_sizes? hs⟩
    · cases h
  · cases h

end Dataset.Params

/-- Whatever the parameters are, they are the same again. -/
@[simp] theorem Analysis.Details.ofJson?_toJson (place : Json.Place) (details : Analysis.Details) :
    ofJson? place details.toJson = some details := by
  simp [ofJson?, toJson, Json.fields?, Json.lookup]

@[simp] theorem Compound.Details.ofJson?_toJson (place : Json.Place) (details : Compound.Details) :
    ofJson? place details.toJson = some details := by
  have order : Json.list? Ident.ofJson? (.ofList Ident.toJson details.order) =
      some details.order := Json.list?_ofList fun id _ => Ident.ofJson?_toJson id
  simp [ofJson?, toJson, Json.fields?, Json.lookup, order]

/-! ## §4 Commands -/

namespace Command

/-- Whether the counts in a command can be written. -/
def Sized : Command → Prop
  | connect spec => spec.Sized
  | registerDataset _ params => params.Sized
  | _ => True

theorem op_mem_ops (command : Command) : command.op ∈ ops := by
  cases command <;> simp [op, ops]

theorem field?_op (command : Command) : command.toJson.field? "op" = some (.str command.op) := by
  rw [toJson, tag_eq_op]
  rfl

theorem variant?_toJson (command : Command) :
    command.toJson.variant? .alone "op" ops = some (command.op, command.toJson) :=
  Json.variant?_obj .alone (field?_op command) command.op_mem_ops

theorem id?_toJson {kind : EntityKind} {body : Json} {id : Ident kind}
    (h : body.fields? ["id"] = some [some id.toJson]) : id? body = some id :=
  Option.bind_eq_some_iff.2 ⟨_, h, Ident.ofJson?_toJson id⟩

-- Each step of the reading is given what was written for it: evaluating the choice among the names
-- of the operations once for each of them, as `simp` does, takes long.
theorem ofJson?_toJson {command : Command} (h : command.Sized) :
    ofJson? command.toJson = some command := by
  refine Option.bind_eq_some_iff.2 ⟨_, variant?_toJson command, ?_⟩
  cases command with
  | getConfig | getConnection | disconnect | listDatasets => rfl
  | connect spec =>
    refine Option.bind_eq_some_iff.2 ⟨[some spec.toJson], rfl, ?_⟩
    exact Option.bind_eq_some_iff.2 ⟨spec, Connection.Spec.ofJson?_toJson .enclosed h, rfl⟩
  | registerDataset id params =>
    refine Option.bind_eq_some_iff.2 ⟨[some id.toJson, some params.toJson], rfl, ?_⟩
    refine Option.bind_eq_some_iff.2 ⟨id, Ident.ofJson?_toJson id, ?_⟩
    exact Option.bind_eq_some_iff.2 ⟨params, Dataset.Params.ofJson?_toJson .enclosed h, rfl⟩
  | putCompound id dataset details =>
    refine Option.bind_eq_some_iff.2
      ⟨[some id.toJson, some dataset.toJson, some details.toJson], rfl, ?_⟩
    refine Option.bind_eq_some_iff.2 ⟨id, Ident.ofJson?_toJson id, ?_⟩
    refine Option.bind_eq_some_iff.2 ⟨dataset, Ident.ofJson?_toJson dataset, ?_⟩
    exact Option.bind_eq_some_iff.2 ⟨details, Compound.Details.ofJson?_toJson .enclosed _, rfl⟩
  | putAnalysis id compound details =>
    refine Option.bind_eq_some_iff.2
      ⟨[some id.toJson, some compound.toJson, some details.toJson], rfl, ?_⟩
    refine Option.bind_eq_some_iff.2 ⟨id, Ident.ofJson?_toJson id, ?_⟩
    refine Option.bind_eq_some_iff.2 ⟨compound, Ident.ofJson?_toJson compound, ?_⟩
    exact Option.bind_eq_some_iff.2 ⟨details, Analysis.Details.ofJson?_toJson .enclosed _, rfl⟩
  | removeDataset id | getDataset id | removeCompound id | removeAnalysis id | runAnalysis id
  | cancelJob id => exact Option.bind_eq_some_iff.2 ⟨id, id?_toJson rfl, rfl⟩

/-- Only two operations have counts in them. -/
theorem sized_of_ofJson? {json : Json} {command : Command} (h : ofJson? json = some command) :
    command.Sized := by
  unfold ofJson? at h
  obtain ⟨⟨name, body⟩, -, h⟩ := Option.bind_eq_some_iff.1 h
  split at h
  case h_3 =>
    obtain ⟨fields, -, h⟩ := Option.bind_eq_some_iff.1 h
    split at h
    · obtain ⟨spec, read, h⟩ := Option.bind_eq_some_iff.1 h
      cases h
      exact Connection.Spec.sized_of_ofJson? read
    · cases h
  case h_5 =>
    obtain ⟨fields, -, h⟩ := Option.bind_eq_some_iff.1 h
    split at h
    · simp only [Option.bind_eq_bind, Option.bind_eq_some_iff] at h
      obtain ⟨id, -, params, read, h⟩ := h
      cases h
      exact Dataset.Params.sized_of_ofJson? read
    · cases h
  case h_9 | h_11 =>
    obtain ⟨fields, -, h⟩ := Option.bind_eq_some_iff.1 h
    split at h
    · simp only [Option.bind_eq_bind, Option.bind_eq_some_iff] at h
      obtain ⟨_, -, _, -, _, -, h⟩ := h
      cases h
      trivial
    · cases h
  case h_1 | h_2 | h_4 | h_8 =>
    obtain ⟨_, -, rfl⟩ := Option.map_eq_some_iff.1 h
    trivial
  case h_15 => cases h
  all_goals
    obtain ⟨_, -, h⟩ := Option.bind_eq_some_iff.1 h
    cases h
    trivial

/-- What is written for a command is read as the same command, and carries the name of its
operation. Whichever spelling a command was read from, it can be written. -/
theorem command_round_trip (command : Command) :
    (command.Sized → ofJson? command.toJson = some command) ∧
      (∀ json, ofJson? json = some command → ofJson? command.toJson = some command) ∧
      command.toJson.field? "op" = some (.str command.op) :=
  ⟨ofJson?_toJson, fun _ read => ofJson?_toJson (sized_of_ofJson? read), field?_op command⟩

/-- An identifier in capitals after the urn mark, the parameters as an array with the alternative by
its place, the element type as an object, the largest size there is, and one value left out. -/
theorem command_round_trip_spellings :
    let command := registerDataset (.ofNat 171)
      (.raw ⟨"frames.bin", .uint8, [18446744073709551615, 0], [3], false⟩)
    let request := Json.obj [("id", .str "urn:UUID:00000000-0000-0000-0000-0000000000AB"),
      ("op", .str "registerDataset"), ("more", .null),
      ("params", .arr [.int 0, .str "frames.bin", .obj [("uint8", .empty)],
        .arr [.int 18446744073709551615, .int 0], .arr [.int 3]])]
    command.Sized ∧ ofJson? command.toJson = some command ∧ ofJson? request = some command ∧
      ofJson? command.toJson = ofJson? request := by
  intro command request
  have sized : command.Sized := by constructor <;> decide
  have read : ofJson? request = some command := rfl
  obtain ⟨written, again, -⟩ := command_round_trip command
  exact ⟨sized, written sized, read, (again request read).trans read.symm⟩

end Command

end Coordination
