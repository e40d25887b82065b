/-
Coordination.Proofs.Requests — what is taken from a request is what stands in it.

A request in object form is read field by field. Of what a client describes,
nothing is rewritten on the way in: the parameters of an analysis are the
value that was given, whatever is in it, and of the parameters of a dataset
every declared field is written again just as it was given (`Params.Echo`).
Beside them there is only what the server adds: the shape, and the flag of a
file where it was left out.

Two things have more than one spelling. The variant of a dataset may be given
by its place and is then written by its name; the element type may be given as
an object, and `Params.described_of_object` is about the other case.

  §1 Values    — `Json.at?`, and that readers of simple values keep them.
  §2 Datasets  — `Params.Echo`.
  §3 Commands  — `putAnalysis_of_object`, `registerDataset_of_object`.
-/
import Coordination.Core.Command
import Coordination.Proofs.CommandCodec
import Coordination.Proofs.Preparation

namespace Coordination

/-! ## §1 Values -/

namespace Json

/-- The value at the end of a path of names. -/
def at? : List String → Json → Option Json
  | [], value => some value
  | name :: path, value => (value.field? name).bind (at? path)

theorem eq_of_string? {value : Json} {s : String} (h : value.string? = some s) :
    value = .str s := by
  cases value <;> cases h
  rfl

theorem eq_of_bool? {value : Json} {b : Bool} (h : value.bool? = some b) : value = .bool b := by
  cases value <;> cases h
  rfl

theorem eq_of_nat? {value : Json} {n : Nat} (h : value.nat? = some n) : value = .ofNat n := by
  cases value with
  | int i =>
    rw [nat?] at h
    split at h
    · next fits =>
      cases h
      rw [ofNat, Int.toNat_of_nonneg fits.1]
    · cases h
  | _ => cases h

theorem eq_of_all? {α : Type} {read : Json → Option α} {write : α → Json}
    (keeps : ∀ {value a}, read value = some a → value = write a) {items : List Json}
    {values : List α} (h : all? read items = some values) : items = values.map write := by
  induction items generalizing values with
  | nil =>
    cases h
    rfl
  | cons item items ih =>
    rw [all?] at h
    split at h
    · next first others =>
      cases h
      rw [List.map_cons, ← keeps first, ← ih others]
    · cases h

theorem eq_of_list? {α : Type} {read : Json → Option α} {write : α → Json}
    (keeps : ∀ {value a}, read value = some a → value = write a) {value : Json}
    {values : List α} (h : list? read value = some values) : value = .ofList write values := by
  cases value with
  | arr items => rw [ofList, ← eq_of_all? keeps h]
  | _ => cases h

end Json

theorem ElementType.eq_of_ofName? {s : String} {type : ElementType} (h : ofName? s = some type) :
    s = type.name := by
  unfold ofName? at h
  split at h <;> cases h <;> rfl

/-- Of a record in object form the declared fields are taken by their names. -/
theorem Json.fields?_obj (names : List String) (given : List (String × Json)) :
    Json.fields? names (.obj given) = some (names.map fun name => lookup name given) := rfl

theorem Analysis.Details.parameters_eq {place : Json.Place} {given : List (String × Json)}
    {details : Details} {parameters : Json}
    (there : Json.lookup "parameters" given = some parameters)
    (h : ofJson? place (.obj given) = some details) : details.parameters = parameters := by
  unfold ofJson? at h
  simp only [Json.fields?_obj, List.map, there] at h
  obtain ⟨fields, named, h⟩ := Option.bind_eq_some_iff.1 h
  cases named
  split at h
  · next listed =>
    simp only [List.cons.injEq, and_true] at listed
    obtain ⟨-, rfl⟩ := listed
    obtain ⟨kind, -, h⟩ := Option.bind_eq_some_iff.1 h
    cases h
    rfl
  · cases h

/-! ## §2 Datasets -/

namespace Dataset.Params

/-- What is written for the parameters of a dataset, beside what was given for them. -/
structure Echo (given echoed : List (String × Json)) : Prop where
  /-- There are the fields of a variant and the shape, and no others. -/
  names : echoed.map Prod.fst ∈
    [["type", "path", "dtype", "detector_size", "scan_size", "enable_direct", "shape"],
      ["type", "dtype", "detector_size", "scan_size", "shape"]]
  /-- The variant is written by its name. -/
  variant : Json.lookup "type" echoed =
    some (.str (if "path" ∈ echoed.map Prod.fst then "RAW" else "MEMORY"))
  /-- The name is the one that was given, unless the variant was given by its place. -/
  named : ∀ name, Json.lookup "type" given = some (.str name) →
    Json.lookup "type" echoed = some (.str name)
  /-- What was given is what is written. -/
  declared : ∀ name ∈ ["path", "dtype", "detector_size", "scan_size"],
    name ∈ echoed.map Prod.fst → Json.lookup name echoed = Json.lookup name given
  /-- A flag that was left out is not set. -/
  flag : "enable_direct" ∈ echoed.map Prod.fst → Json.lookup "enable_direct" echoed =
    some ((Json.lookup "enable_direct" given).getD (.bool false))
  /-- The shape is the scan followed by the detector. -/
  shape : ∃ scan detector, Json.lookup "scan_size" echoed = some (.arr scan) ∧
    Json.lookup "detector_size" echoed = some (.arr detector) ∧
    Json.lookup "shape" echoed = some (.arr (scan ++ detector))

/-- If there is a shape, it is the scan followed by the detector. -/
theorem eq_of_geometry? {params : Params} {shape : List Nat}
    (h : params.geometry? = .ok shape) : shape = params.scanSize ++ params.detectorSize := by
  rcases wellShaped_or_misshapen params with shaped | ⟨problem, misshapen⟩
  · rw [geometry?_of_wellShaped shaped] at h
    exact (Except.ok.inj h).symm
  · rw [geometry?_of_misshapen misshapen] at h
    cases h

theorem eq_of_sizes? {value : Json} {sizes : List Nat} (h : sizes? value = some sizes) :
    value = .ofList .ofNat sizes :=
  Json.eq_of_list? Json.eq_of_nat? h

/-- An element type that was given by its name is written so. -/
theorem eq_of_dtype {place : Json.Place} {given : List (String × Json)} {name : String}
    {value : Json} {type : ElementType} (text : Json.lookup "dtype" given = some (.str name))
    (there : Json.lookup "dtype" given = some value)
    (h : ElementType.ofJson? place value = some type) : value = type.toJson := by
  rw [there] at text
  obtain rfl := Option.some.inj text
  exact congrArg Json.str (ElementType.eq_of_ofName? h)

/-- The alternative that is chosen, and the name of it where it is chosen by a name. -/
theorem choice_of_object {given : List (String × Json)} {index : Nat} {body : Json}
    (h : Json.choice? .enclosed "type" [["RAW"], ["MEMORY"]] (.obj given) = some (index, body)) :
    body = .obj given ∧ ∀ name, Json.lookup "type" given = some (.str name) →
      name = "RAW" ∧ index = 0 ∨ name = "MEMORY" ∧ index = 1 := by
  rw [Json.choice?] at h
  obtain ⟨tag, there, h⟩ := Option.bind_eq_some_iff.1 h
  obtain ⟨index, chosen, h⟩ := Option.map_eq_some_iff.1 h
  cases h
  refine ⟨rfl, fun name text => ?_⟩
  rw [there] at text
  obtain rfl := Option.some.inj text
  have spelled : Json.alternative? name [["RAW"], ["MEMORY"]] = some index := chosen
  by_cases raw : name = "RAW"
  · simp_all [Json.alternative?]
  · by_cases memory : name = "MEMORY" <;> simp_all [Json.alternative?]

/-- The fields of an object from which parameters are read, each as it is written. -/
inductive Described (given : List (String × Json)) : Params → Prop
  | raw (p : RawParams)
      (named : ∀ name, Json.lookup "type" given = some (.str name) → name = "RAW")
      (path : Json.lookup "path" given = some (.str p.path))
      (dtype : Json.lookup "dtype" given = some p.dtype.toJson)
      (detector : Json.lookup "detector_size" given = some (.ofList .ofNat p.detectorSize))
      (scan : Json.lookup "scan_size" given = some (.ofList .ofNat p.scanSize))
      (flag : (Json.lookup "enable_direct" given).getD (.bool false) = .bool p.enableDirect) :
      Described given (.raw p)
  | memory (p : MemoryParams)
      (named : ∀ name, Json.lookup "type" given = some (.str name) → name = "MEMORY")
      (dtype : Json.lookup "dtype" given = some p.dtype.toJson)
      (detector : Json.lookup "detector_size" given = some (.ofList .ofNat p.detectorSize))
      (scan : Json.lookup "scan_size" given = some (.ofList .ofNat p.scanSize)) :
      Described given (.memory p)

theorem described_of_object {given : List (String × Json)} {params : Params} {name : String}
    (text : Json.lookup "dtype" given = some (.str name))
    (h : ofJson? .enclosed (.obj given) = some params) : Described given params := by
  unfold ofJson? at h
  obtain ⟨⟨index, body⟩, chosen, h⟩ := Option.bind_eq_some_iff.1 h
  obtain ⟨rfl, named⟩ := choice_of_object chosen
  dsimp only at h
  split at h
  · next body eq =>
    cases eq
    obtain ⟨fields, listed, h⟩ := Option.bind_eq_some_iff.1 h
    rw [Json.fields?_obj] at listed
    obtain rfl := Option.some.inj listed
    split at h
    · next path dtype detector scan direct fields =>
      simp only [List.map, List.cons.injEq, and_true] at fields
      obtain ⟨path', dtype', detector', scan', rfl⟩ := fields
      simp only [Option.bind_eq_bind, Option.bind_eq_some_iff] at h
      obtain ⟨p, hp, t, ht, d, hd, s, hs, h⟩ := h
      obtain ⟨flag, hflag, rfl⟩ : ∃ flag,
          (Json.lookup "enable_direct" given).getD (.bool false) = .bool flag ∧
            params = .raw ⟨p, t, d, s, flag⟩ := by
        cases direct : Json.lookup "enable_direct" given with
        | none =>
          rw [direct] at h
          cases h
          exact ⟨false, rfl, rfl⟩
        | some value =>
          rw [direct] at h
          obtain ⟨flag, hf, h⟩ := Option.bind_eq_some_iff.1 h
          cases h
          exact ⟨flag, Json.eq_of_bool? hf, rfl⟩
      refine .raw _ (fun name given => ?_) (Json.eq_of_string? hp ▸ path')
        (eq_of_dtype text dtype' ht ▸ dtype') (eq_of_sizes? hd ▸ detector')
        (eq_of_sizes? hs ▸ scan') hflag
      simpa using named name given
    · cases h
  · next body eq =>
    cases eq
    obtain ⟨fields, listed, h⟩ := Option.bind_eq_some_iff.1 h
    rw [Json.fields?_obj] at listed
    obtain rfl := Option.some.inj listed
    split at h
    · next dtype detector scan fields =>
      simp only [List.map, List.cons.injEq, and_true] at fields
      obtain ⟨dtype', detector', scan'⟩ := fields
      simp only [Option.bind_eq_bind, Option.bind_eq_some_iff] at h
      obtain ⟨t, ht, d, hd, s, hs, h⟩ := h
      cases h
      refine .memory _ (fun name given => ?_) (eq_of_dtype text dtype' ht ▸ dtype')
        (eq_of_sizes? hd ▸ detector') (eq_of_sizes? hs ▸ scan')
      simpa using named name given
    · cases h
  · cases h

/-- Parameters are written as they were described. -/
theorem Described.echo {given : List (String × Json)} {params : Params}
    (h : Described given params) : Echo given (params.toFields ++
      [("shape", .ofList .ofNat (params.scanSize ++ params.detectorSize))]) := by
  have shape (scan detector : List Nat) : Json.ofList Json.ofNat (scan ++ detector) =
      .arr (scan.map .ofNat ++ detector.map .ofNat) := congrArg Json.arr List.map_append
  cases h with
  | raw p named path dtype detector scan flag =>
    refine ⟨.head _, rfl, fun name text => named name text ▸ rfl, ?_, fun _ => flag ▸ rfl,
      _, _, rfl, rfl, congrArg some (shape _ _)⟩
    intro name declared _
    simp only [List.mem_cons, List.not_mem_nil, or_false] at declared
    obtain rfl | rfl | rfl | rfl := declared
    exacts [path.symm, dtype.symm, detector.symm, scan.symm]
  | memory p named dtype detector scan =>
    refine ⟨.tail _ (.head _), rfl, fun name text => named name text ▸ rfl, ?_, ?_,
      _, _, rfl, rfl, congrArg some (shape _ _)⟩
    · intro name declared there
      simp only [List.mem_cons, List.not_mem_nil, or_false] at declared
      obtain rfl | rfl | rfl | rfl := declared
      · simp [toFields] at there
      exacts [dtype.symm, detector.symm, scan.symm]
    · simp [toFields]

end Dataset.Params

/-! ## §3 Commands -/

namespace Command

/-- The operation of a request in object form is the one that it names. -/
theorem variant_of_object {fields : List (String × Json)} {name op : String} {body : Json}
    (named : Json.lookup "op" fields = some (.str name)) (known : name ∈ ops)
    (h : Json.variant? .alone "op" ops (.obj fields) = some (op, body)) :
    op = name ∧ body = .obj fields := by
  rw [Json.variant?_obj .alone named known] at h
  cases h
  exact ⟨rfl, rfl⟩

theorem putAnalysis_of_object {fields : List (String × Json)} {command : Command}
    (named : Json.lookup "op" fields = some (.str "createOrUpdateAnalysis"))
    (h : ofJson? (.obj fields) = some command) :
    ∃ id compound details, command = .putAnalysis id compound details ∧
      (Json.lookup "id" fields).bind Ident.ofJson? = some id ∧
      (Json.lookup "details" fields).bind (Analysis.Details.ofJson? .enclosed) = some details := by
  unfold ofJson? at h
  obtain ⟨⟨op, body⟩, chosen, h⟩ := Option.bind_eq_some_iff.1 h
  obtain ⟨rfl, rfl⟩ := variant_of_object named (by simp [ops]) chosen
  obtain ⟨given, listed, h⟩ := Option.bind_eq_some_iff.1 h
  rw [Json.fields?_obj] at listed
  obtain rfl := Option.some.inj listed
  split at h
  · next id compound details found =>
    simp only [List.map, List.cons.injEq, and_true] at found
    simp only [Option.bind_eq_bind, Option.bind_eq_some_iff] at h
    obtain ⟨i, hi, c, -, d, hd, h⟩ := h
    cases h
    exact ⟨i, c, d, rfl, by rw [found.1]; exact hi, by rw [found.2.2]; exact hd⟩
  · cases h

theorem registerDataset_of_object {fields : List (String × Json)} {command : Command}
    (named : Json.lookup "op" fields = some (.str "registerDataset"))
    (h : ofJson? (.obj fields) = some command) :
    ∃ id params, command = .registerDataset id params ∧
      (Json.lookup "id" fields).bind Ident.ofJson? = some id ∧
      (Json.lookup "params" fields).bind (Dataset.Params.ofJson? .enclosed) = some params := by
  unfold ofJson? at h
  obtain ⟨⟨op, body⟩, chosen, h⟩ := Option.bind_eq_some_iff.1 h
  obtain ⟨rfl, rfl⟩ := variant_of_object named (by simp [ops]) chosen
  obtain ⟨given, listed, h⟩ := Option.bind_eq_some_iff.1 h
  rw [Json.fields?_obj] at listed
  obtain rfl := Option.some.inj listed
  split at h
  · next id params found =>
    simp only [List.map, List.cons.injEq, and_true] at found
    simp only [Option.bind_eq_bind, Option.bind_eq_some_iff] at h
    obtain ⟨i, hi, p, hp, h⟩ := h
    cases h
    exact ⟨i, p, rfl, by rw [found.1]; exact hi, by rw [found.2]; exact hp⟩
  · cases h

end Command

end Coordination
