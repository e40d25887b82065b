/-
Coordination.Proofs.RecordCodec — stored records survive the wire.

What is written for a record is read as the same record, and it does not
matter if someone adds fields to it that nobody declared. Which fields are
declared where is a `Layout`: a record may have records in its fields or a
table of them, and the parameters of a dataset lie beside its shape in one
object, so that what is declared there depends on the type of the dataset.

A value is padded when an undeclared field is added to one of its objects
(`Pads`). Striking off everything undeclared gives the same for both
(`strip_of_pads`), and a reader does not see what is struck off
(`ofJson?_strip`, for each kind of record).

  §1 Layouts   — `Layout`, `Pads`, `strip`.
  §2 Fields    — what the readers of fields see of a stripped value.
  §3 Datasets  — the parameters beside the shape.
  §4 Analyses  — analyses, compound analyses, jobs.
  §5 Servers   — `Capabilities`.
  §6 Records   — `Survives`, `records_survive`.
-/
import Coordination.Config.Capabilities
import Coordination.Job.Status
import Coordination.Proofs.CommandCodec
import Mathlib.Logic.Relation

namespace Coordination

namespace Json

/-! ## §1 Layouts -/

/-- Which fields are declared in the objects of a value. -/
inductive Layout where
  /-- Whatever is there is part of the value. -/
  | value
  /-- A record, with the layout of each field. -/
  | record (names : List String) (inner : String → Layout)
  /-- A record with a tag that says which other fields there are. -/
  | tagged (tag : String) (names : Option Json → List String)
  /-- An object whose fields have names of their own, with the layout of each of them. -/
  | table (entries : Layout)

namespace Layout

/-- A record that has another one in its last field. -/
def ending (front : List String) (last : String) (sub : Layout) : Layout :=
  record (front ++ [last]) fun name => if name = last then sub else value

/-- The second value is the first one with one more field, somewhere, that is not declared. -/
inductive Pads : Layout → Json → Json → Prop
  | field {names : List String} {inner : String → Layout} {name : String}
      (before after : List (String × Json)) (extra : Json) (undeclared : name ∉ names) :
      Pads (record names inner) (.obj (before ++ after)) (.obj (before ++ (name, extra) :: after))
  | within {names : List String} {inner : String → Layout} {name : String} {old new : Json}
      (before after : List (String × Json)) (padded : Pads (inner name) old new) :
      Pads (record names inner) (.obj (before ++ (name, old) :: after))
        (.obj (before ++ (name, new) :: after))
  | item {names later : List String} {inner : String → Layout} {name : String} {old new : Json}
      {items : List Json} (rest : List Json) (place : items.length = names.length)
      (padded : Pads (inner name) old new) :
      Pads (record (names ++ name :: later) inner) (.arr (items ++ old :: rest))
        (.arr (items ++ new :: rest))
  | beside {tag : String} {names : Option Json → List String} {name : String}
      (before after : List (String × Json)) (extra : Json) (other : name ≠ tag)
      (undeclared : name ∉ names (lookup tag (before ++ after))) :
      Pads (tagged tag names) (.obj (before ++ after)) (.obj (before ++ (name, extra) :: after))
  | entry {entries : Layout} {name : String} {old new : Json}
      (before after : List (String × Json)) (padded : Pads entries old new) :
      Pads (table entries) (.obj (before ++ (name, old) :: after))
        (.obj (before ++ (name, new) :: after))

/-- The fields that are declared. -/
def kept (names : List String) (given : List (String × Json)) : List (String × Json) :=
  given.filter fun field => names.contains field.1

/-- The fields of an object, each changed according to its name. -/
def changed (change : String → Json → Json) (given : List (String × Json)) :
    List (String × Json) := given.map fun field => (field.1, change field.1 field.2)

/-- The items of an array, each changed according to the name of the field that it stands for. -/
def along (change : String → Json → Json) : List String → List Json → List Json
  | name :: names, item :: items => change name item :: along change names items
  | _, items => items

/-- A value without the fields that are not declared. -/
def strip : Layout → Json → Json
  | record names inner, obj given =>
    obj (changed (fun name => strip (inner name)) (kept names given))
  | record names inner, arr items => arr (along (fun name => strip (inner name)) names items)
  | tagged tag names, obj given => obj (kept (tag :: names (lookup tag given)) given)
  | table entries, obj given => obj (changed (fun _ => strip entries) given)
  | _, json => json

@[simp] theorem strip_value : strip value = id := rfl

section Fields

variable {names later : List String} {given before after : List (String × Json)} {name key : String}
  {change : String → Json → Json}

theorem kept_insert_of_mem (value : Json) (declared : name ∈ names) :
    kept names (before ++ (name, value) :: after) =
      kept names before ++ (name, value) :: kept names after := by
  simp [kept, declared]

theorem kept_insert_of_not_mem (value : Json) (undeclared : name ∉ names) :
    kept names (before ++ (name, value) :: after) = kept names (before ++ after) := by
  simp [kept, undeclared]

theorem changed_insert {old new : Json} (same : change name old = change name new) :
    changed change (before ++ (name, old) :: after) =
      changed change (before ++ (name, new) :: after) := by
  simp [changed, same]

theorem along_insert {old new : Json} {items : List Json} (rest : List Json)
    (place : items.length = names.length) (same : change name old = change name new) :
    along change (names ++ name :: later) (items ++ old :: rest) =
      along change (names ++ name :: later) (items ++ new :: rest) := by
  induction names generalizing items with
  | nil =>
    obtain rfl := List.eq_nil_of_length_eq_zero place
    exact congrArg (· :: along change later rest) same
  | cons first names ih =>
    obtain ⟨head, items, rfl⟩ := List.exists_cons_of_length_eq_add_one place
    exact congrArg (change first head :: ·) (ih (Nat.succ.inj place))

theorem lookup_insert (extra : Json) (other : name ≠ key) :
    lookup key (before ++ (name, extra) :: after) = lookup key (before ++ after) := by
  induction before with
  | nil => exact if_neg other
  | cons first before ih => simp only [List.cons_append, lookup, ih]

theorem lookup_kept (declared : key ∈ names) :
    lookup key (kept names given) = lookup key given := by
  induction given with
  | nil => rfl
  | cons field given ih =>
    obtain ⟨name, value⟩ := field
    by_cases listed : name ∈ names
    · rw [kept, List.filter_cons_of_pos (by simpa using listed), lookup, lookup]
      exact congrArg (ite _ _) ih
    · have other : name ≠ key := by
        rintro rfl
        exact listed declared
      rw [kept, List.filter_cons_of_neg (by simpa using listed), lookup, if_neg other]
      exact ih

theorem lookup_changed :
    lookup key (changed change given) = (lookup key given).map (change key) := by
  induction given with
  | nil => rfl
  | cons field given ih =>
    obtain ⟨name, value⟩ := field
    by_cases same : name = key
    · subst same
      simp [changed, lookup]
    · simpa [changed, lookup, same] using ih

/-- What is missing at the end of an array stays missing. -/
theorem along_padded {items : List Json} (short : items.length ≤ names.length) :
    (along change names items).map some ++
        List.replicate (names.length - (along change names items).length) none =
      List.zipWith (fun name value => value.map (change name)) names
        (items.map some ++ List.replicate (names.length - items.length) none) := by
  induction names generalizing items with
  | nil =>
    obtain rfl := List.eq_nil_of_length_eq_zero (Nat.le_zero.1 short)
    rfl
  | cons name names ih =>
    cases items with
    | nil => simpa [along, List.replicate_succ] using @ih [] (Nat.zero_le _)
    | cons item items => simpa [along] using ih (Nat.le_of_succ_le_succ short)

theorem length_along (items : List Json) : (along change names items).length = items.length := by
  induction names generalizing items with
  | nil => rfl
  | cons name names ih => cases items <;> simp [along, ih]

end Fields

/-- An undeclared field is struck off. -/
theorem strip_of_pads {layout : Layout} {old new : Json} (h : Pads layout old new) :
    layout.strip old = layout.strip new := by
  induction h with
  | field before after extra undeclared =>
    rw [strip, strip, kept_insert_of_not_mem extra undeclared]
  | @within names _ name _ _ before after padded ih =>
    rw [strip, strip]
    by_cases declared : name ∈ names
    · rw [kept_insert_of_mem _ declared, kept_insert_of_mem _ declared, changed_insert ih]
    · rw [kept_insert_of_not_mem _ declared, kept_insert_of_not_mem _ declared]
  | item rest place padded ih => rw [strip, strip, along_insert rest place ih]
  | beside before after extra other undeclared =>
    rw [strip, strip, lookup_insert extra other, kept_insert_of_not_mem extra]
    exact not_or.2 ⟨other, undeclared⟩ ∘ List.mem_cons.1
  | entry before after padded ih => rw [strip, strip, changed_insert ih]

end Layout

open Layout

/-! ## §2 Fields -/

variable {names : List String} {json : Json}

theorem length_of_fields? {values : List (Option Json)} (h : fields? names json = some values) :
    values.length = names.length := by
  cases json with
  | obj given =>
    obtain rfl := Option.some.inj h
    exact List.length_map ..
  | arr items =>
    rw [fields?] at h
    split at h
    · next short =>
      obtain rfl := Option.some.inj h
      simp [short]
    · cases h
  | _ => cases h

/-- The fields of a stripped record are those of the record, each of them stripped. -/
theorem fields?_strip (names : List String) (inner : String → Layout) (json : Json) :
    fields? names ((record names inner).strip json) = (fields? names json).map
      (List.zipWith (fun name value => value.map (inner name).strip) names) := by
  cases json with
  | obj given =>
    rw [strip, fields?, fields?, Option.map_some, List.zipWith_map_right, List.zipWith_self]
    refine congrArg some (List.map_congr_left fun key declared => ?_)
    rw [lookup_changed, lookup_kept declared]
  | arr items =>
    rw [strip, fields?, fields?, length_along]
    split
    · next short =>
      refine congrArg some (Eq.trans ?_ (along_padded short))
      rw [length_along]
    · rfl
  | _ => rfl

theorem fields?_obj_congr {given other : List (String × Json)}
    (same : ∀ name ∈ names, lookup name given = lookup name other) :
    fields? names (obj given) = fields? names (obj other) :=
  congrArg some (List.map_congr_left same)

theorem choice?_obj (place : Place) (tagName : String) (alternatives : List (List String))
    (given : List (String × Json)) :
    choice? place tagName alternatives (obj given) =
      ((lookup tagName given).bind (tag? place alternatives)).map fun index =>
        (index, obj given) := by
  rw [choice?]
  cases lookup tagName given <;> rfl

/-- Of a record that ends in another one only that field has to be stripped. -/
theorem fields?_ending (front : List String) (last : String) (sub : Layout) (absent : last ∉ front)
    (json : Json) : fields? (front ++ [last]) ((ending front last sub).strip json) =
      (fields? (front ++ [last]) json).map fun values =>
        values.modify front.length (Option.map sub.strip) := by
  rw [ending, fields?_strip]
  cases read : fields? (front ++ [last]) json with
  | none => rfl
  | some values =>
    have length : values.length = front.length + 1 := by simpa using length_of_fields? read
    refine congrArg some (List.ext_getElem (by simp [length]) fun i here there => ?_)
    rw [List.getElem_zipWith, List.getElem_modify]
    rcases Nat.lt_or_ge i front.length with before | after
    · have other : front[i] ≠ last := fun same => absent (same ▸ List.getElem_mem before)
      simp [List.getElem_append_left before, other, Nat.ne_of_gt before]
    · obtain rfl : i = front.length := by
        rw [List.length_modify, length] at there
        omega
      simp

/-- What is read from such a record is the same if the reader does not see what is struck off from
the last field. -/
theorem bind_fields?_ending {β : Type} (front : List String) (last : String) (sub : Layout)
    (absent : last ∉ front) {rest : List (Option Json) → Option β}
    (blind : ∀ values, values.length = front.length + 1 →
      rest (values.modify front.length (Option.map sub.strip)) = rest values) (json : Json) :
    (fields? (front ++ [last]) ((ending front last sub).strip json)).bind rest =
      (fields? (front ++ [last]) json).bind rest := by
  rw [fields?_ending front last sub absent]
  cases read : fields? (front ++ [last]) json with
  | none => rfl
  | some values =>
    refine blind values ?_
    rw [length_of_fields? read, List.length_append, List.length_singleton]

/-- A record without records in its fields reads the same. -/
theorem fields?_strip_flat (names : List String) (json : Json) :
    fields? names ((record names fun _ => value).strip json) = fields? names json := by
  rw [fields?_strip]
  cases read : fields? names json with
  | none => rfl
  | some values =>
    have length := length_of_fields? read
    refine congrArg some (List.ext_getElem (by simp [length]) fun i _ _ => ?_)
    cases value : values[i] <;> simp [strip, value]

end Json

/-! ## §3 Datasets -/

open Json (Layout)

namespace Dataset

/-- The names of the parameters beside the tag. -/
def Params.declared (tag : Option Json) : List String :=
  match tag.bind (Json.tag? .enclosed [["RAW"], ["MEMORY"]]) with
  | some 0 => ["path", "dtype", "detector_size", "scan_size", "enable_direct"]
  | some 1 => ["dtype", "detector_size", "scan_size"]
  | _ => []

def Details.layout : Layout := .tagged "type" fun tag => "shape" :: Params.declared tag

def layout : Layout := .ending ["id"] "params" Details.layout

/-- Objects that agree on the tag and on what is declared for it are read as the same parameters. -/
theorem Params.ofJson?_congr {given other : List (String × Json)}
    (tag : Json.lookup "type" given = Json.lookup "type" other)
    (same : ∀ name ∈ declared (Json.lookup "type" other),
      Json.lookup name given = Json.lookup name other) :
    ofJson? .enclosed (.obj given) = ofJson? .enclosed (.obj other) := by
  unfold ofJson?
  rw [Json.choice?_obj, Json.choice?_obj, tag]
  rw [declared] at same
  cases place : (Json.lookup "type" other).bind (Json.tag? .enclosed [["RAW"], ["MEMORY"]]) with
  | none => rfl
  | some index =>
    rw [place] at same
    dsimp only [Option.map_some, Option.bind_eq_bind, Option.bind_some]
    rcases index with _ | _ | index
    · exact congrArg (Option.bind · _) (Json.fields?_obj_congr same)
    · exact congrArg (Option.bind · _) (Json.fields?_obj_congr same)
    · rfl

theorem Params.shape_not_mem_declared (tag : Option Json) : "shape" ∉ declared tag := by
  unfold declared
  split <;> decide

/-- Whether the sizes and the shape can be written. -/
def Sized (dataset : Dataset) : Prop :=
  dataset.details.params.Sized ∧ ∀ size ∈ dataset.shape, size < Json.natLimit

/-- The parameters are found among the fields that lie beside the shape. -/
theorem Details.ofJson?_toJson {details : Details} (params : details.params.Sized)
    (shape : ∀ size ∈ details.shape, size < Json.natLimit) :
    ofJson? details.toJson = some details := by
  have beside (name : String) (other : name ≠ "shape") :
      Json.lookup name (details.params.toFields ++ [("shape", .ofList .ofNat details.shape)]) =
        Json.lookup name details.params.toFields := by
    rw [Layout.lookup_insert _ other.symm, List.append_nil]
  have last : Json.lookup "shape"
      (details.params.toFields ++ [("shape", .ofList .ofNat details.shape)]) =
        some (.ofList .ofNat details.shape) := by
    obtain ⟨_ | _, _⟩ := details <;> rfl
  have read : Params.ofJson? .enclosed
      (.obj (details.params.toFields ++ [("shape", .ofList .ofNat details.shape)])) =
        some details.params := by
    rw [← Params.ofJson?_toJson .enclosed params]
    refine Params.ofJson?_congr (beside "type" (by decide)) fun name declared => beside name ?_
    rintro rfl
    exact Params.shape_not_mem_declared _ declared
  rw [toJson, ofJson?, last]
  simp [Params.sizes?_ofList shape, read]

theorem ofJson?_toJson {dataset : Dataset} (h : dataset.Sized) :
    ofJson? dataset.toJson = some dataset := by
  simp [ofJson?, toJson, Json.fields?, Json.lookup, Details.ofJson?_toJson h.1 h.2]

theorem sized_of_ofJson? {json : Json} {dataset : Dataset} (h : ofJson? json = some dataset) :
    dataset.Sized := by
  unfold ofJson? at h
  obtain ⟨fields, -, h⟩ := Option.bind_eq_some_iff.1 h
  split at h
  · simp only [Option.bind_eq_bind, Option.bind_eq_some_iff] at h
    obtain ⟨id, -, details, read, h⟩ := h
    cases h
    unfold Details.ofJson? at read
    split at read
    · simp only [Option.bind_eq_bind, Option.bind_eq_some_iff] at read
      obtain ⟨_, -, shape, sizes, params, found, read⟩ := read
      cases read
      exact ⟨Params.sized_of_ofJson? found, Params.lt_natLimit_of_sizes? sizes⟩
    · cases read
  · cases h

theorem Details.ofJson?_strip (json : Json) : ofJson? (layout.strip json) = ofJson? json := by
  cases json with
  | obj given =>
    let declared := "type" :: "shape" :: Params.declared (Json.lookup "type" given)
    have same : ∀ name ∈ declared, Json.lookup name (Layout.kept declared given) =
        Json.lookup name given := fun _ listed => Layout.lookup_kept listed
    have params := Params.ofJson?_congr (same "type" List.mem_cons_self) fun name listed =>
      same name (List.mem_cons_of_mem _ (List.mem_cons_of_mem _ listed))
    show ofJson? (.obj (Layout.kept declared given)) = _
    rw [ofJson?, ofJson?, same "shape" (List.mem_cons_of_mem _ List.mem_cons_self), params]
  | _ => rfl

theorem ofJson?_strip (json : Json) : ofJson? (layout.strip json) = ofJson? json := by
  refine Json.bind_fields?_ending ["id"] "params" Details.layout (by decide)
    (fun values length => ?_) json
  rcases values with _ | ⟨id, _ | ⟨params, _ | _⟩⟩ <;> try cases length
  cases id <;> cases params <;> simp [Details.ofJson?_strip]

end Dataset

/-! ## §4 Analyses -/

namespace Analysis

def Details.layout : Layout := .record ["analysisType", "parameters"] fun _ => .value

def layout : Layout := .ending ["id", "dataset", "compoundAnalysis"] "details" Details.layout

theorem fields?_toJson (analysis : Analysis) :
    analysis.toJson.fields? ["id", "dataset", "compoundAnalysis", "details"] =
      some [some analysis.id.toJson, some analysis.dataset.toJson, some analysis.compound.toJson,
        some analysis.details.toJson] := by
  -- The names come first: looking up a name that is not known yet is a case for each field.
  simp only [toJson, Json.fields?, List.map_cons, List.map_nil]
  simp [Json.lookup]

theorem ofJson?_toJson (analysis : Analysis) : ofJson? analysis.toJson = some analysis := by
  unfold ofJson?
  rw [fields?_toJson]
  simp

theorem Details.ofJson?_strip (place : Json.Place) (json : Json) :
    ofJson? place (layout.strip json) = ofJson? place json := by
  unfold ofJson? layout
  rw [Json.fields?_strip_flat]

theorem ofJson?_strip (json : Json) : ofJson? (layout.strip json) = ofJson? json := by
  refine Json.bind_fields?_ending ["id", "dataset", "compoundAnalysis"] "details" Details.layout
    (by decide) (fun values length => ?_) json
  rcases values with _ | ⟨id, _ | ⟨dataset, _ | ⟨compound, _ | ⟨details, _ | _⟩⟩⟩⟩ <;>
    try cases length
  cases id <;> cases dataset <;> cases compound <;> cases details <;>
    simp [Details.ofJson?_strip]

end Analysis

namespace Compound

def Details.layout : Layout := .record ["mainType", "analyses"] fun _ => .value

def layout : Layout := .ending ["id", "dataset"] "details" Details.layout

theorem ofJson?_toJson (compound : Compound) : ofJson? compound.toJson = some compound := by
  simp [ofJson?, toJson, Json.fields?, Json.lookup]

theorem Details.ofJson?_strip (place : Json.Place) (json : Json) :
    ofJson? place (layout.strip json) = ofJson? place json := by
  unfold ofJson? layout
  rw [Json.fields?_strip_flat]

theorem ofJson?_strip (json : Json) : ofJson? (layout.strip json) = ofJson? json := by
  refine Json.bind_fields?_ending ["id", "dataset"] "details" Details.layout (by decide)
    (fun values length => ?_) json
  rcases values with _ | ⟨id, _ | ⟨dataset, _ | ⟨details, _ | _⟩⟩⟩ <;> try cases length
  cases id <;> cases dataset <;> cases details <;> simp [Details.ofJson?_strip]

end Compound

namespace Job

def Handle.layout : Layout := .record ["job", "analysis"] fun _ => .value

def Record.layout : Layout := .record ["id", "analysis", "status"] fun _ => .value

@[simp] theorem Status.ofJson?_toJson (place : Json.Place) (status : Status) :
    ofJson? place status.toJson = some status := by
  cases status <;> rfl

theorem Handle.ofJson?_toJson (handle : Handle) : ofJson? handle.toJson = some handle := by
  simp [ofJson?, toJson, toFields, Json.fields?, Json.lookup]

theorem Record.ofJson?_toJson (record : Record) : ofJson? record.toJson = some record := by
  simp [ofJson?, toJson, Json.fields?, Json.lookup]

theorem Handle.ofJson?_strip (json : Json) : ofJson? (layout.strip json) = ofJson? json := by
  unfold ofJson? layout
  rw [Json.fields?_strip_flat]

theorem Record.ofJson?_strip (json : Json) : ofJson? (layout.strip json) = ofJson? json := by
  unfold ofJson? layout
  rw [Json.fields?_strip_flat]

end Job

/-! ## §5 Servers -/

namespace Config.ResultFormat

def layout : Layout := .record ["identifier", "description"] fun _ => .value

theorem ofJson?_toJson (format : ResultFormat) : ofJson? format.toJson = some format := by
  simp [ofJson?, toJson, Json.fields?, Json.lookup, Json.string?]

theorem ofJson?_strip (json : Json) : ofJson? (layout.strip json) = ofJson? json := by
  unfold ofJson? layout
  rw [Json.fields?_strip_flat]

end Config.ResultFormat

namespace Capabilities

open Config (ResultFormat)

/-- The formats are a table, in which every name is one of a format. -/
def names : List String :=
  ["version", "revision", "localCores", "cwd", "separator", "resultFileFormats"]

def layout : Layout :=
  .ending ["version", "revision", "localCores", "cwd", "separator"] "resultFileFormats"
    (.table ResultFormat.layout)

/-- Whether the number of cores can be written. -/
def Sized (capabilities : Capabilities) : Prop := capabilities.localCores < Json.natLimit

theorem formats?_toJson (formats : List (String × ResultFormat)) :
    formats? (formats.map fun (name, format) => (name, format.toJson)) = some formats := by
  induction formats with
  | nil => rfl
  | cons first formats ih => simp only [List.map_cons, formats?, ResultFormat.ofJson?_toJson, ih]

theorem fields?_toJson (capabilities : Capabilities) :
    capabilities.toJson.fields? names = some [some (.str capabilities.version),
      some (.str capabilities.revision), some (.ofNat capabilities.localCores),
      some (.str capabilities.cwd), some (.str capabilities.separator),
      some (.obj (capabilities.formats.map fun (name, format) => (name, format.toJson)))] := by
  simp only [toJson, names, Json.fields?, List.map_cons, List.map_nil]
  simp [Json.lookup]

theorem ofJson?_toJson {capabilities : Capabilities} (h : capabilities.Sized) :
    ofJson? capabilities.toJson = some capabilities := by
  unfold ofJson?
  rw [← names, fields?_toJson]
  refine Option.bind_eq_some_iff.2 ⟨_, rfl, ?_⟩
  refine Option.bind_eq_some_iff.2 ⟨capabilities.version, rfl, ?_⟩
  refine Option.bind_eq_some_iff.2 ⟨capabilities.revision, rfl, ?_⟩
  refine Option.bind_eq_some_iff.2 ⟨capabilities.localCores, Json.nat?_ofNat h, ?_⟩
  refine Option.bind_eq_some_iff.2 ⟨capabilities.cwd, rfl, ?_⟩
  refine Option.bind_eq_some_iff.2 ⟨capabilities.separator, rfl, ?_⟩
  exact Option.bind_eq_some_iff.2 ⟨capabilities.formats, formats?_toJson _, rfl⟩

theorem sized_of_ofJson? {json : Json} {capabilities : Capabilities}
    (h : ofJson? json = some capabilities) : capabilities.Sized := by
  unfold ofJson? at h
  obtain ⟨fields, -, h⟩ := Option.bind_eq_some_iff.1 h
  split at h
  · simp only [Option.bind_eq_bind, Option.bind_eq_some_iff] at h
    obtain ⟨_, -, _, -, cores, read, _, -, _, -, _, -, h⟩ := h
    cases h
    exact Json.lt_natLimit_of_nat? read
  · cases h

theorem formats?_changed (given : List (String × Json)) :
    formats? (Layout.changed (fun _ => ResultFormat.layout.strip) given) = formats? given := by
  induction given with
  | nil => rfl
  | cons first given ih =>
    obtain ⟨name, value⟩ := first
    rw [formats?, ← ih, ← ResultFormat.ofJson?_strip value]
    rfl

theorem ofJson?_strip (json : Json) : ofJson? (layout.strip json) = ofJson? json := by
  refine Json.bind_fields?_ending ["version", "revision", "localCores", "cwd", "separator"]
    "resultFileFormats" (.table ResultFormat.layout) (by decide) (fun values length => ?_) json
  rcases values with _ | ⟨version, _ | ⟨revision, _ | ⟨cores, _ | ⟨cwd, _ | ⟨separator, _ |
    ⟨formats, _ | _⟩⟩⟩⟩⟩⟩ <;> try cases length
  rcases version with _ | version
  · rfl
  rcases revision with _ | revision
  · rfl
  rcases cores with _ | cores
  · rfl
  rcases cwd with _ | cwd
  · rfl
  rcases separator with _ | separator
  · rfl
  rcases formats with _ | _ | _ | _ | _ | _ | _ | given
  case some.obj => simp only [List.length_cons, List.length_nil, Option.map_some,
    List.modify_succ_cons, List.modify_zero_cons, Layout.strip, formats?_changed]
  all_goals rfl

end Capabilities

/-! ## §6 Records -/

/-- Records of a kind survive the wire. One that fits is read back from what is written for it, and
every record that is read fits. Fields that are not declared can be added one after the other. -/
structure Survives {α : Type} (write : α → Json) (read : Json → Option α) (layout : Layout)
    (fits : α → Prop) : Prop where
  round_trip : ∀ record, fits record → read (write record) = some record
  fits_of_read : ∀ json record, read json = some record → fits record
  padded : ∀ old new, Relation.ReflTransGen layout.Pads old new → read new = read old

/-- A reader that does not see what is struck off does not see what is added either. -/
theorem read_padded {α : Type} {read : Json → Option α} {layout : Layout}
    (blind : ∀ json, read (layout.strip json) = read json) (old new : Json)
    (h : Relation.ReflTransGen layout.Pads old new) : read new = read old := by
  induction h with
  | refl => rfl
  | tail _ step ih => rw [← blind, ← Layout.strip_of_pads step, blind, ih]

/-- The records that are stored, and those that clients are told, survive the wire. Counts in them
have at most 64 bits; nothing else in a record can keep it from being written. -/
theorem records_survive :
    Survives Dataset.toJson Dataset.ofJson? Dataset.layout Dataset.Sized ∧
    Survives Analysis.toJson Analysis.ofJson? Analysis.layout (fun _ => True) ∧
    Survives Compound.toJson Compound.ofJson? Compound.layout (fun _ => True) ∧
    Survives Job.Record.toJson Job.Record.ofJson? Job.Record.layout (fun _ => True) ∧
    Survives Job.Handle.toJson Job.Handle.ofJson? Job.Handle.layout (fun _ => True) ∧
    Survives Capabilities.toJson Capabilities.ofJson? Capabilities.layout Capabilities.Sized where
  left := ⟨fun _ => Dataset.ofJson?_toJson, fun _ _ => Dataset.sized_of_ofJson?,
    read_padded Dataset.ofJson?_strip⟩
  right := ⟨
    ⟨fun analysis _ => analysis.ofJson?_toJson, fun _ _ _ => trivial,
      read_padded Analysis.ofJson?_strip⟩,
    ⟨fun compound _ => compound.ofJson?_toJson, fun _ _ _ => trivial,
      read_padded Compound.ofJson?_strip⟩,
    ⟨fun record _ => record.ofJson?_toJson, fun _ _ _ => trivial,
      read_padded Job.Record.ofJson?_strip⟩,
    ⟨fun handle _ => handle.ofJson?_toJson, fun _ _ _ => trivial,
      read_padded Job.Handle.ofJson?_strip⟩,
    ⟨fun _ => Capabilities.ofJson?_toJson, fun _ _ => Capabilities.sized_of_ofJson?,
      read_padded Capabilities.ofJson?_strip⟩⟩

/-- The largest size there is, a field beside the identifier, and two among the parameters that
only a file would have. -/
theorem records_survive_padded :
    let largest := Json.natLimit - 1
    let dataset : Dataset := ⟨.ofNat 171, .memory ⟨.uint8, [8, 8], [largest]⟩, [largest, 8, 8]⟩
    let sizes : List (String × Json) := [("dtype", dataset.details.params.dtype.toJson),
      ("detector_size", .ofList .ofNat [8, 8]), ("scan_size", .ofList .ofNat [largest])]
    let shape : String × Json := ("shape", .ofList .ofNat [largest, 8, 8])
    let padded : Json := .obj [("note", .null), ("id", dataset.id.toJson),
      ("params", .obj (("type", .str "MEMORY") :: ("path", .int 3) ::
        sizes ++ [shape, ("enable_direct", .str "no")]))]
    dataset.Sized ∧ Dataset.ofJson? dataset.toJson = some dataset ∧
      Dataset.ofJson? padded = some dataset := by
  intro largest dataset sizes shape padded
  have sized : dataset.Sized := by
    simp [Dataset.Sized, Dataset.Params.Sized, Dataset.Params.detectorSize,
      Dataset.Params.scanSize, Dataset.shape, dataset, largest, Json.natLimit]
  obtain ⟨round_trip, -, pads⟩ := records_survive.1
  refine ⟨sized, round_trip dataset sized, ?_⟩
  rw [← round_trip dataset sized]
  refine pads _ _ (.tail (.tail (.tail .refl
    (.within [("id", dataset.id.toJson)] [] (.beside [("type", .str "MEMORY")] (sizes ++ [shape])
      (.int 3) (by decide) (by decide))))
    (.within [("id", dataset.id.toJson)] [] (.beside (("type", .str "MEMORY") :: ("path", .int 3) ::
      sizes ++ [shape]) [] (.str "no") (by decide) (by decide))))
    (.field [] [("id", dataset.id.toJson), _] .null (by decide)))

end Coordination
