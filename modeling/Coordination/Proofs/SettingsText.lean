/-
Coordination.Proofs.SettingsText — what is read from settings that were written.

Settings are written as a document with a row for each of them, and the log
file comes last. Numbers and lists of formats are plain values, so all rows
but the last one are read as they were written, whatever the settings are;
only what is read for the log file depends on its name (`ofText_render`).

  §1 Numerals   — `count_toString`, `positive_toString`.
  §2 Formats    — `formatList_intercalate`.
  §3 Settings   — `Settings.InRange`: every setting that is read is.
  §4 Rows       — `Settings.rows`, `toList_render`.
  §5 Documents  — `ofDocument_written`, `ofText_render`.
-/
import Coordination.Config.Parse
import Coordination.Config.Render
import Coordination.Proofs.Checks
import Coordination.Proofs.IniRows
import Coordination.Proofs.Texts

namespace Coordination

open Text (isBlank trim)
open Config.Ini (Plain isSolid plain_of_solid)

/-! ## §1 Numerals -/

namespace Text

theorem isSolid_of_isDigit {c : Char} (h : c.isDigit = true) : isSolid c = true := by
  simp only [Char.isDigit, Bool.and_eq_true, decide_eq_true_eq] at h
  have low : '0'.toNat ≤ c.toNat := UInt32.le_iff_toNat_le.1 h.1
  have high : c.toNat ≤ '9'.toNat := UInt32.le_iff_toNat_le.1 h.2
  have solid : ∀ d : Fin 10, isSolid (Char.ofNat ('0'.toNat + d.val)) = true := by decide
  have digit := solid ⟨c.toNat - '0'.toNat, Nat.sub_lt_left_of_lt_add low (Nat.lt_succ_of_le high)⟩
  rwa [Nat.add_sub_cancel' low, Char.ofNat_toNat] at digit

theorem plain_toString (n : Nat) : Plain (toString n).toList :=
  plain_of_solid fun _ h => isSolid_of_isDigit (isDigit_of_mem_toString h)

end Text

namespace Config

theorem count_toString {limit n : Nat} (h : n < limit) (reason : String) :
    count limit reason (toString n) = .ok n := by
  rw [count, (Text.plain_toString n).trimmed, Text.numeral?_toString h]

theorem positive_toString {limit n : Nat} (h : 0 < n ∧ n < limit) (reason : String) :
    positive limit reason (toString n) = .ok n := by
  rw [positive, count_toString h.2]
  split
  · next zero => exact absurd (Except.ok.inj zero) (Nat.ne_of_gt h.1)
  · rfl

/-! ## §2 Formats -/

/-- The identifiers of the formats in the catalogue are read as they are written. -/
theorem identifier_listed : ∀ item ∈ catalogue.map (·.identifier),
    String.ofList (Text.lower (trim item.toList)) = item ∧ item.isEmpty = false ∧
      ',' ∉ item.toList ∧ item.toList.all isSolid = true := by
  decide +kernel

theorem isSome_formatOf? {item : String} :
    (formatOf? item).isSome = true ↔ item ∈ catalogue.map (·.identifier) := by
  rw [formatOf?, List.find?_isSome, List.mem_map]
  simp only [decide_eq_true_eq]

/-- The text of a list of formats. -/
theorem toList_intercalate (items : List String) :
    (",".intercalate items).toList = List.intercalate [','] (items.map String.toList) :=
  String.toList_intercalate

theorem listed_intercalate {items : List String}
    (h : ∀ item ∈ items, (formatOf? item).isSome = true) :
    listed (",".intercalate items) = items := by
  have known := fun item hi => identifier_listed item (isSome_formatOf?.1 (h item hi))
  have kept : items.map (fun item => String.ofList (Text.lower (trim item.toList))) = items :=
    (List.map_congr_left fun item hi => (known item hi).1).trans (List.map_id' items)
  have full : items.filter (!·.isEmpty) = items :=
    List.filter_eq_self.2 fun item hi => by rw [(known item hi).2.1]; rfl
  cases items with
  | nil => rfl
  | cons first others =>
    rw [listed, toList_intercalate, Text.split_intercalate]
    · rw [List.map_map]
      exact (congrArg (List.filter _) kept).trans full
    · intro piece hp
      obtain ⟨item, hi, rfl⟩ := List.mem_map.1 hp
      exact (known item hi).2.2.1
    · exact List.cons_ne_nil _ _

theorem formatList_intercalate {items : List String}
    (h : ∀ item ∈ items, (formatOf? item).isSome = true) :
    formatList (",".intercalate items) = .ok items := by
  have known : items.find? (fun item => (formatOf? item).isNone) = none := by
    rw [List.find?_eq_none]
    intro item hi
    simp [Option.isNone_iff_eq_none, Option.isSome_iff_ne_none.1 (h item hi)]
  rw [formatList, listed_intercalate h, known]

theorem forall_mem_intercalate {p : Char → Prop} {comma : Char} (between : p comma)
    {pieces : List (List Char)} (h : ∀ piece ∈ pieces, ∀ c ∈ piece, p c) :
    ∀ c ∈ List.intercalate [comma] pieces, p c := by
  induction pieces with
  | nil => exact nofun
  | cons piece pieces ih =>
    rw [List.forall_mem_cons] at h
    cases pieces with
    | nil => simpa [List.intercalate] using h.1
    | cons next pieces =>
      rw [List.intercalate_cons_cons, List.append_assoc]
      exact List.forall_mem_append.2 ⟨h.1, List.forall_mem_cons.2 ⟨between, ih h.2⟩⟩

theorem plain_intercalate {items : List String}
    (h : ∀ item ∈ items, (formatOf? item).isSome = true) :
    Plain (",".intercalate items).toList := by
  rw [toList_intercalate]
  refine plain_of_solid (forall_mem_intercalate (by decide) fun piece hp => ?_)
  obtain ⟨item, hi, rfl⟩ := List.mem_map.1 hp
  exact List.all_eq_true.1 (identifier_listed item (isSome_formatOf?.1 (h item hi))).2.2.2

/-! ## §3 Settings -/

namespace Settings

/-- The settings besides the log file are such as can be read. -/
structure InRange (settings : Settings) : Prop where
  localCores : 0 < settings.localCores ∧ settings.localCores < Nat.pow 2 64
  formats : ∀ item ∈ settings.formats, (formatOf? item).isSome = true
  connectTimeout : 0 < settings.connectTimeout ∧ settings.connectTimeout < Nat.pow 2 64
  queueCapacity : 0 < settings.queueCapacity ∧ settings.queueCapacity < Nat.pow 2 64
  steps : settings.steps < Nat.pow 2 32
  stepDelay : settings.stepDelay < Nat.pow 2 64

theorem inRange_default {around : Surroundings}
    (cores : 0 < around.cores ∧ around.cores < Nat.pow 2 64) : (default around).InRange where
  localCores := cores
  formats := fun _ => isSome_formatOf?.2
  connectTimeout := show 0 < 2000 ∧ 2000 < Nat.pow 2 64 by decide
  queueCapacity := show 0 < 1024 ∧ 1024 < Nat.pow 2 64 by decide
  steps := show 4 < Nat.pow 2 32 by decide
  stepDelay := show 25 < Nat.pow 2 64 by decide

end Settings

/-- What holds of a default and of every value that can be read holds of a setting. -/
theorem of_readAt {α : Type} (P : α → Prop) {document : Ini.Document} {sectionName key : String}
    {default result : α} {read : String → Except String α}
    (h : readAt document sectionName key default read = .ok result) (base : P default)
    (sound : ∀ {value result}, read value = .ok result → P result) : P result := by
  unfold readAt at h
  split at h
  · cases h
    exact base
  · split at h
    · next found =>
      cases h
      exact sound found
    · cases h

theorem lt_of_count {limit n : Nat} {reason value : String} (h : count limit reason value = .ok n) :
    n < limit := by
  unfold count at h
  split at h
  · next found =>
    cases h
    exact Text.lt_of_numeral? found
  · cases h

theorem bounds_of_positive {limit n : Nat} {reason value : String}
    (h : positive limit reason value = .ok n) : 0 < n ∧ n < limit := by
  unfold positive at h
  split at h
  · cases h
  · next apart =>
    refine ⟨Nat.pos_of_ne_zero ?_, lt_of_count h⟩
    rintro rfl
    exact apart h

theorem known_of_formatList {items : List String} {value : String}
    (h : formatList value = .ok items) : ∀ item ∈ items, (formatOf? item).isSome = true := by
  unfold formatList at h
  split at h
  · cases h
  · next none =>
    cases h
    intro item hi
    simpa [Option.ne_none_iff_isSome] using List.find?_eq_none.1 none item hi

namespace Settings

/-- Settings that were read are in range, and the log file is the default one or a path. -/
theorem eq_of_ofDocument {around : Surroundings} {document : Ini.Document} {c : Settings}
    (cores : 0 < around.cores ∧ around.cores < Nat.pow 2 64)
    (h : ofDocument around document = .ok c) :
    c.InRange ∧ (c.logFile = around.logPath ∨
      ∃ value, c.logFile = pathOr around.logPath around.home value) := by
  obtain ⟨localCores, readCores, h⟩ := bind_eq_ok.1 h
  obtain ⟨formats, readFormats, h⟩ := bind_eq_ok.1 h
  obtain ⟨connectTimeout, readTimeout, h⟩ := bind_eq_ok.1 h
  obtain ⟨queueCapacity, readCapacity, h⟩ := bind_eq_ok.1 h
  obtain ⟨steps, readSteps, h⟩ := bind_eq_ok.1 h
  obtain ⟨stepDelay, readDelay, h⟩ := bind_eq_ok.1 h
  obtain ⟨logFile, readLog, h⟩ := bind_eq_ok.1 h
  obtain rfl := Except.ok.inj h
  have base := inRange_default cores
  refine ⟨⟨?_, ?_, ?_, ?_, ?_, ?_⟩, ?_⟩
  · exact of_readAt (fun n => 0 < n ∧ n < Nat.pow 2 64) readCores base.localCores bounds_of_positive
  · exact of_readAt (fun items => ∀ item ∈ items, (formatOf? item).isSome = true) readFormats
      base.formats known_of_formatList
  · exact of_readAt (fun n => 0 < n ∧ n < Nat.pow 2 64) readTimeout base.connectTimeout
      bounds_of_positive
  · exact of_readAt (fun n => 0 < n ∧ n < Nat.pow 2 64) readCapacity base.queueCapacity
      bounds_of_positive
  · exact of_readAt (· < Nat.pow 2 32) readSteps base.steps lt_of_count
  · exact of_readAt (· < Nat.pow 2 64) readDelay base.stepDelay lt_of_count
  · refine of_readAt (fun path => path = around.logPath ∨
      ∃ value, path = pathOr around.logPath around.home value) readLog (.inl rfl) fun read => ?_
    exact .inr ⟨_, (Except.ok.inj read).symm⟩

/-! ## §4 Rows -/

/-- The rows before the log file. -/
def rows (settings : Settings) : List Ini.Row :=
  [.header "server",
    .comment "Number of cores advertised for local connections (default: number of CPU cores)",
    .entry "local_cores" (toString settings.localCores),
    .comment "Result file formats offered to clients, comma separated (default: npz,tiff,raw)",
    .comment "  npz  - numpy format (.npz)",
    .comment "  tiff - TIFF format (.tif)",
    .comment "  raw  - RAW format (.raw)",
    .entry "result_formats" (",".intercalate settings.formats),
    .blank,
    .header "cluster",
    .comment "Timeout in milliseconds when probing a cluster scheduler address (default: 2000)",
    .entry "connect_timeout_ms" (toString settings.connectTimeout),
    .blank,
    .header "events",
    .comment "Messages buffered per observer (default: 1024)",
    .comment "An observer that falls this far behind is disconnected",
    .entry "subscriber_queue_capacity" (toString settings.queueCapacity),
    .blank,
    .header "executor",
    .comment "Progress events emitted per job by the built-in executor (default: 4)",
    .entry "progress_steps" (toString settings.steps),
    .comment "Pause between progress events in milliseconds (default: 25)",
    .entry "step_delay_ms" (toString settings.stepDelay),
    .blank,
    .header "logging",
    .comment "Log file, truncated on every start (default: ~/.framehub/framehub.log)"]

variable (around : Surroundings) (c : Settings)

theorem lines_eq : c.lines around =
    c.rows.map Ini.Row.text ++ ["file = " ++ abbreviateHome around.home c.logFile] := by
  simp [lines, rows, Ini.Row.text]

/-- The document is its rows, and the line for the log file. -/
theorem toList_render : (c.render around).toList =
    Ini.document c.rows ++ ("file".toList ++ ' ' :: '=' :: ' ' ::
      ((abbreviateHome around.home c.logFile).toList ++ ['\n'])) := by
  have front : (c.rows.map Ini.Row.text).flatMap (fun line => (line ++ "\n").toList) =
      Ini.document c.rows := by
    rw [Ini.document, List.flatMap_map]
    exact congrArg (List.flatMap · c.rows) (funext fun _ => String.toList_append)
  have last (path : String) : ("file = " ++ path ++ "\n").toList =
      "file".toList ++ ' ' :: '=' :: ' ' :: (path.toList ++ ['\n']) := by simp
  rw [render, String.toList_join, List.flatMap_map, lines_eq, List.flatMap_append, front,
    List.flatMap_singleton, last]

variable {c}

theorem readable_rows (range : c.InRange) : ∀ row ∈ c.rows, row.Readable := by
  have note {text : List Char} (h : '\n' ∉ text) :
      (Ini.Row.comment (String.ofList text)).Readable := by
    rwa [Ini.Row.Readable, String.toList_ofList]
  simp only [rows, List.forall_mem_cons]
  refine ⟨by decide, note (by decide), ⟨by decide, Text.plain_toString _⟩, note (by decide),
    note (by decide), note (by decide), note (by decide),
    ⟨by decide, plain_intercalate range.formats⟩, trivial, by decide, note (by decide),
    ⟨by decide, Text.plain_toString _⟩, trivial, by decide, note (by decide), note (by decide),
    ⟨by decide, Text.plain_toString _⟩, trivial, by decide, note (by decide),
    ⟨by decide, Text.plain_toString _⟩, note (by decide), ⟨by decide, Text.plain_toString _⟩,
    trivial, by decide, note (by decide), nofun⟩

/-! ## §5 Documents -/

theorem readAt_of_found {α : Type} {document : Ini.Document} {sectionName key value : String}
    {default result : α} {read : String → Except String α}
    (found : document.get? sectionName key = some value) (accepted : read value = .ok result) :
    readAt document sectionName key default read = .ok result := by
  simp only [readAt, found, accepted]

/-- The sections that the items of the rows give, the log file, and more items. -/
def written (c : Settings) (path : String) (others : List Ini.Item) : Ini.Document :=
  ⟨⟨"server", [("local_cores", toString c.localCores),
      ("result_formats", ",".intercalate c.formats)]⟩ ::
    ⟨"cluster", [("connect_timeout_ms", toString c.connectTimeout)]⟩ ::
    ⟨"events", [("subscriber_queue_capacity", toString c.queueCapacity)]⟩ ::
    ⟨"executor", [("progress_steps", toString c.steps),
      ("step_delay_ms", toString c.stepDelay)]⟩ ::
    ⟨"logging", ("file", path) :: (Ini.group others).1⟩ :: (Ini.group others).2⟩

theorem group_rows (c : Settings) (path : String) (others : List Ini.Item) :
    ⟨(Ini.group (c.rows.filterMap Ini.Row.item? ++ .entry "file" path :: others)).2⟩ =
      c.written path others := rfl

/-- Of each setting the first item counts, so what more items there are makes no difference. -/
theorem ofDocument_written (range : c.InRange) (path : String) (others : List Ini.Item) :
    ofDocument around (c.written path others) =
      .ok { c with logFile := pathOr around.logPath around.home path } := by
  refine bind_eq_ok.2 ⟨_, readAt_of_found ?_ (positive_toString range.localCores _), ?_⟩
  · simp [written, Ini.Document.get?]
  refine bind_eq_ok.2 ⟨_, readAt_of_found ?_ (formatList_intercalate range.formats), ?_⟩
  · simp [written, Ini.Document.get?]
  refine bind_eq_ok.2 ⟨_, readAt_of_found ?_ (positive_toString range.connectTimeout _), ?_⟩
  · simp [written, Ini.Document.get?]
  refine bind_eq_ok.2 ⟨_, readAt_of_found ?_ (positive_toString range.queueCapacity _), ?_⟩
  · simp [written, Ini.Document.get?]
  refine bind_eq_ok.2 ⟨_, readAt_of_found ?_ (count_toString range.steps _), ?_⟩
  · simp [written, Ini.Document.get?]
  refine bind_eq_ok.2 ⟨_, readAt_of_found ?_ (count_toString range.stepDelay _), ?_⟩
  · simp [written, Ini.Document.get?]
  have file : (c.written path others).get? "logging" "file" = some path := by
    simp [written, Ini.Document.get?]
  exact bind_eq_ok.2 ⟨_, readAt_of_found file rfl, rfl⟩

/-- Reading settings that were written is reading the log file. -/
theorem ofText_render (range : c.InRange) (wording : Wording) : ∃ limit,
    let path := (abbreviateHome around.home c.logFile).toList
    ofText around (c.render around) wording =
      match Ini.value (' ' :: (path ++ ['\n'])) with
      | .error _ => .error (.unreadable (wording.document (c.render around)))
      | .ok (text, after) => match Ini.items limit (Ini.skip false after) with
        | none => .error (.unreadable (wording.document (c.render around)))
        | some _ =>
          .ok { c with logFile := pathOr around.logPath around.home (String.ofList text) } := by
  generalize hp : (abbreviateHome around.home c.logFile).toList = path
  obtain ⟨limit, parsed⟩ : ∃ limit, Ini.parse? (Ini.document c.rows ++
      ("file".toList ++ ' ' :: '=' :: ' ' :: (path ++ ['\n']))) =
      match Ini.value (' ' :: (path ++ ['\n'])) with
      | .error _ => none
      | .ok (text, after) => (Ini.items limit (Ini.skip false after)).map fun others =>
        ⟨(Ini.group (c.rows.filterMap Ini.Row.item? ++
          .entry (String.ofList "file".toList) (String.ofList text) :: others)).2⟩ :=
    Ini.parse?_rows (readable_rows range) (by decide) path
  have unmarked : withoutMark (c.render around).toList = (c.render around).toList := by
    rw [toList_render]
    rfl
  refine ⟨limit, ?_⟩
  dsimp only
  rw [ofText, unmarked, toList_render, hp, parsed]
  cases Ini.value (' ' :: (path ++ ['\n'])) with
  | error position => rfl
  | ok found =>
    cases hi : Ini.items limit (Ini.skip false found.2) with
    | none => simp only [hi, Option.map_none]
    | some others =>
      simp only [hi, Option.map_some, String.ofList_toList, group_rows]
      exact ofDocument_written around range _ _

end Settings

end Config

end Coordination
