/-
Coordination.Proofs.SettingsValues — which documents have settings, and which.

What a value in a document has to be is said without reference to the
readers: a count is a numeral below a limit, with blanks around it, and some
counts are not zero; a list of formats is cut at its commas, and every item
that is not blank is one of the catalogue; for the log file everything will
do. Each reader gives what its relation says, or its reason (`Follows`).

Six places of a document are looked at in a fixed order (`checks`), and the
log file after them. The settings are those that the document gives
(`Chosen`), if it passes all checks, and the first fault otherwise
(`FirstFault`); that goes along the chain of readers, one place at a time.

  §1 Numerals  — `Text.IsNumeral`, `numeral?_eq_some_iff`.
  §2 Values    — `Counted`, `Positive`, `Offered`, `LogFile`, and their readers.
  §3 Places    — `Given`, `Check.Fault`, `FirstFault`.
  §4 Settings  — `Chosen`, `checks`, `settings_validated`.
-/
import Coordination.Proofs.Reload

namespace Coordination

open Text (trim lower)

/-! ## §1 Numerals -/

namespace Text

theorem digit?_eq_none {c : Char} (h : c.isDigit = false) : digit? c = none := by
  rw [digit?, if_neg]
  simpa [Char.isDigit, Char.le_def] using h

theorem digits?_eq_some_iff {acc n : Nat} {cs : List Char} :
    digits? acc cs = some n ↔
      (∀ c ∈ cs, c.isDigit = true) ∧ n = Nat.ofDigitChars 10 cs acc := by
  constructor
  · intro read
    have digits : ∀ c ∈ cs, c.isDigit = true := by
      induction cs generalizing acc with
      | nil => exact List.forall_mem_nil _
      | cons c cs ih =>
        cases digit : c.isDigit with
        | false => simp [digits?, digit?_eq_none digit] at read
        | true =>
          rw [digits?, digit?_of_isDigit digit] at read
          exact List.forall_mem_cons.2 ⟨digit, ih read⟩
    rw [digits?_of_isDigit digits] at read
    exact ⟨digits, (Option.some.inj read).symm⟩
  · rintro ⟨digits, rfl⟩
    exact digits?_of_isDigit digits acc

/-- A text is the numeral of a number: decimal digits, and perhaps a plus sign before them. -/
def IsNumeral (cs : List Char) (n : Nat) : Prop :=
  ∃ digits, (cs = digits ∨ cs = '+' :: digits) ∧ digits ≠ [] ∧
    (∀ c ∈ digits, c.isDigit = true) ∧ n = Nat.ofDigitChars 10 digits 0

theorem isNumeral_of_ne {c : Char} (h : c ≠ '+') (cs : List Char) (n : Nat) :
    IsNumeral (c :: cs) n ↔
      (∀ d ∈ c :: cs, d.isDigit = true) ∧ n = Nat.ofDigitChars 10 (c :: cs) 0 := by
  constructor
  · rintro ⟨digits, rfl | signed, -, decimal, value⟩
    · exact ⟨decimal, value⟩
    · exact absurd (List.cons.inj signed).1 h
  · rintro ⟨decimal, value⟩
    exact ⟨_, .inl rfl, List.cons_ne_nil _ _, decimal, value⟩

/-- A plus sign is not a digit, so a numeral has one at most. -/
theorem isNumeral_plus (cs : List Char) (n : Nat) :
    IsNumeral ('+' :: cs) n ↔
      cs ≠ [] ∧ (∀ d ∈ cs, d.isDigit = true) ∧ n = Nat.ofDigitChars 10 cs 0 := by
  constructor
  · rintro ⟨digits, rfl | signed, full, decimal, value⟩
    · exact absurd (decimal '+' List.mem_cons_self) (by decide)
    · obtain rfl := (List.cons.inj signed).2
      exact ⟨full, decimal, value⟩
  · rintro ⟨full, decimal, value⟩
    exact ⟨cs, .inr rfl, full, decimal, value⟩

/-- What is read from digits counts if it is below the limit. -/
def below (limit : Nat) (read : Option Nat) : Option Nat :=
  read.bind fun n => if n < limit then some n else none

theorem below_eq_some_iff {limit n : Nat} {read : Option Nat} :
    below limit read = some n ↔ read = some n ∧ n < limit := by
  simp only [below, Option.bind_eq_some_iff, Option.ite_none_right_eq_some, Option.some.injEq]
  constructor
  · rintro ⟨m, read, small, rfl⟩
    exact ⟨read, small⟩
  · rintro ⟨read, small⟩
    exact ⟨n, read, small, rfl⟩

theorem numeral?_of_ne {limit : Nat} {c : Char} (h : c ≠ '+') (cs : List Char) :
    numeral? limit (c :: cs) = below limit (digits? 0 (c :: cs)) := by
  rw [numeral?, below]
  · cases digits? 0 (c :: cs) <;> rfl
  · exact fun _ signed => h (List.cons.inj signed).1
  · exact List.cons_ne_nil _ _

theorem numeral?_plus (limit : Nat) (c : Char) (cs : List Char) :
    numeral? limit ('+' :: c :: cs) = below limit (digits? 0 (c :: cs)) := by
  rw [numeral?, below]
  · cases digits? 0 (c :: cs) <;> rfl
  · exact List.cons_ne_nil _ _

theorem numeral?_eq_some_iff {limit n : Nat} {cs : List Char} :
    numeral? limit cs = some n ↔ IsNumeral cs n ∧ n < limit := by
  rcases cs with _ | ⟨c, cs⟩
  · refine ⟨nofun, ?_⟩
    rintro ⟨⟨digits, rfl | signed, full, -⟩, -⟩
    · exact absurd rfl full
    · cases signed
  by_cases plus : c = '+'
  · subst plus
    rw [isNumeral_plus]
    rcases cs with _ | ⟨c, cs⟩
    · exact ⟨nofun, fun h => absurd rfl h.1.1⟩
    · rw [numeral?_plus, below_eq_some_iff, digits?_eq_some_iff]
      exact and_congr_left fun _ => (and_iff_right (List.cons_ne_nil _ _)).symm
  · rw [numeral?_of_ne plus, below_eq_some_iff, digits?_eq_some_iff, isNumeral_of_ne plus]

theorem intercalate_split (s : Char) (cs : List Char) :
    List.intercalate [s] (split s cs) = cs := by
  induction cs with
  | nil => rfl
  | cons c cs ih =>
    by_cases same : c = s
    · subst same
      obtain ⟨piece, pieces, hp⟩ := List.exists_cons_of_ne_nil (split_ne_nil (s := c) cs)
      rw [split_separator, hp, List.intercalate_cons_cons, ← hp, ih]
      rfl
    · obtain ⟨piece, pieces, hp, hc⟩ := split_cons_of_ne same cs
      rw [hp] at ih
      rw [hc]
      cases pieces with
      | nil => simpa [List.intercalate] using ih
      | cons next pieces =>
        rw [List.intercalate_cons_cons] at ih ⊢
        exact congrArg (c :: ·) ih

theorem not_mem_of_mem_split {s : Char} {cs piece : List Char} (h : piece ∈ split s cs) :
    s ∉ piece := by
  induction cs generalizing piece with
  | nil =>
    obtain rfl := List.mem_singleton.1 h
    exact List.not_mem_nil
  | cons c cs ih =>
    by_cases same : c = s
    · subst same
      rw [split_separator] at h
      rcases List.mem_cons.1 h with rfl | later
      · exact List.not_mem_nil
      · exact ih later
    · obtain ⟨first, pieces, hp, hc⟩ := split_cons_of_ne same cs
      rw [hc] at h
      rw [hp] at ih
      rcases List.mem_cons.1 h with rfl | later
      · exact fun there => (List.mem_cons.1 there).elim (fun e => same e.symm)
          (ih List.mem_cons_self)
      · exact ih (List.mem_cons_of_mem _ later)

end Text

namespace Config

/-! ## §2 Values -/

/-- A value is a count below a limit. -/
def Counted (limit : Nat) (value : String) (n : Nat) : Prop :=
  Text.IsNumeral (trim value.toList) n ∧ n < limit

/-- A value is a count below a limit that is not zero. -/
def Positive (limit : Nat) (value : String) (n : Nat) : Prop := Counted limit value n ∧ 0 < n

/-- The items of a value between commas, in lowercase and without blanks around them, those that
are empty left out. -/
def Itemized (value : String) (items : List String) : Prop :=
  ∃ pieces, pieces ≠ [] ∧ (∀ piece ∈ pieces, ',' ∉ piece) ∧
    value.toList = List.intercalate [','] pieces ∧
    items = (pieces.map fun piece => String.ofList (lower (trim piece))).filter (!·.isEmpty)

/-- A value lists formats of the catalogue. -/
def Offered (value : String) (items : List String) : Prop :=
  Itemized value items ∧ ∀ item ∈ items, item ∈ catalogue.map (·.identifier)

/-- A value is a path, or blank, which means the path that there is by default. A path may start at
the home directory, if there is one. -/
def LogFile (around : Surroundings) (value path : String) : Prop :=
  (trim value.toList = [] ∧ path = around.logPath) ∨
    (∃ dir rest, around.home = some dir ∧ trim value.toList = '~' :: '/' :: rest ∧
      path = joinPath dir (String.ofList rest)) ∨
    (trim value.toList ≠ [] ∧
      (around.home.isSome → ∀ rest, trim value.toList ≠ '~' :: '/' :: rest) ∧
      path = String.ofList (trim value.toList))

/-- A reader gives what a relation says of a value, and if there is nothing, a reason. -/
structure Follows {α : Type} (read : String → Except String α) (relation : String → α → Prop)
    (reason : String → String) : Prop where
  ok : ∀ {value result}, read value = .ok result ↔ relation value result
  error : ∀ {value text}, read value = .error text → text = reason value

theorem follows_count (limit : Nat) (reason : String) :
    Follows (count limit reason) (Counted limit) fun _ => reason where
  ok {value n} := by
    rw [Counted, ← Text.numeral?_eq_some_iff, count]
    cases Text.numeral? limit (trim value.toList) with
    | none => constructor <;> rintro ⟨⟩
    | some m => exact ⟨fun h => congrArg some (Except.ok.inj h),
        fun h => congrArg _ (Option.some.inj h)⟩
  error {value text} h := by
    unfold count at h
    split at h
    · cases h
    · exact (Except.error.inj h).symm

theorem follows_positive (limit : Nat) (reason : String) :
    Follows (positive limit reason) (Positive limit) fun _ => reason where
  ok {value n} := by
    rw [Positive, ← (follows_count limit reason).ok, positive]
    split
    · next zero =>
      constructor
      · rintro ⟨⟩
      · rintro ⟨read, above⟩
        rw [zero] at read
        exact absurd (Except.ok.inj read) (Nat.ne_of_lt above)
    · next apart =>
      refine ⟨fun read => ⟨read, Nat.pos_of_ne_zero ?_⟩, fun h => h.1⟩
      rintro rfl
      exact apart read
  error {value text} h := by
    unfold positive at h
    split at h
    · exact (Except.error.inj h).symm
    · exact (follows_count limit reason).error h

/-- The items of a value are those that are read. -/
theorem itemized_iff {value : String} {items : List String} :
    Itemized value items ↔ items = listed value := by
  constructor
  · rintro ⟨pieces, full, apart, text, rfl⟩
    rw [listed, text, Text.split_intercalate apart full]
  · rintro rfl
    exact ⟨Text.split ',' value.toList, Text.split_ne_nil _, fun _ => Text.not_mem_of_mem_split,
      (Text.intercalate_split ',' _).symm, rfl⟩

/-- The first item that is not in the catalogue. -/
def firstUnknown (value : String) : Option String :=
  (listed value).find? fun item => (formatOf? item).isNone

/-- Why a list with an unknown item is not acceptable. -/
def unknownFormat (item : Option String) : String :=
  "unknown format '" ++ item.getD "" ++ "', expected npz, tiff or raw"

theorem follows_formatList :
    Follows formatList Offered fun value => unknownFormat (firstUnknown value) where
  ok {value items} := by
    rw [Offered, itemized_iff]
    constructor
    · intro read
      have known := known_of_formatList read
      refine ⟨?_, fun item there => isSome_formatOf?.1 (known item there)⟩
      unfold formatList at read
      split at read
      · cases read
      · exact (Except.ok.inj read).symm
    · rintro ⟨rfl, known⟩
      have none : (listed value).find? (fun item => (formatOf? item).isNone) = none := by
        rw [List.find?_eq_none]
        intro item there
        simp [Option.isNone_iff_eq_none, Option.isSome_iff_ne_none.1
          (isSome_formatOf?.2 (known item there))]
      rw [formatList, none]
  error {value text} h := by
    unfold formatList at h
    split at h
    · next found =>
      rw [firstUnknown, found]
      exact (Except.error.inj h).symm
    · cases h

theorem follows_pathOr (around : Surroundings) :
    Follows (fun value => .ok (pathOr around.logPath around.home value)) (LogFile around)
      fun _ => "" where
  ok {value path} := by
    have cases := pathOr_cases around.logPath around.home value.toList
    rw [String.ofList_toList] at cases
    constructor
    · intro read
      obtain rfl := Except.ok.inj read
      exact cases
    · intro given
      refine congrArg Except.ok ?_
      rcases cases with ⟨blank, same⟩ | ⟨dir, rest, home, tilde, same⟩ | ⟨full, apart, same⟩
      · rcases given with ⟨-, rfl⟩ | ⟨_, _, -, tilde, -⟩ | ⟨full, -⟩
        · exact same
        · rw [blank] at tilde
          cases tilde
        · exact absurd blank full
      · rcases given with ⟨blank, -⟩ | ⟨dir', rest', home', tilde', rfl⟩ | ⟨-, apart, -⟩
        · rw [blank] at tilde
          cases tilde
        · rw [home] at home'
          rw [tilde] at tilde'
          obtain rfl := Option.some.inj home'
          obtain rfl : rest = rest' := by simpa using tilde'
          exact same
        · exact absurd tilde (apart (home ▸ rfl) rest)
      · rcases given with ⟨blank, -⟩ | ⟨dir, rest, home, tilde, -⟩ | ⟨-, -, rfl⟩
        · exact absurd blank full
        · exact absurd tilde (apart (home ▸ rfl) rest)
        · exact same
  error h := nomatch h

/-! ## §3 Places -/

variable {α β : Type} {around : Surroundings} {document : Ini.Document} {sectionName key : String}
  {default result : α} {read : String → Except String α} {relation : String → α → Prop}
  {reason : String → String} {problem : Problem}

/-- What a document gives for a setting: what its value means, or the default if there is none. -/
def Given (document : Ini.Document) (sectionName key : String) (default : α)
    (relation : String → α → Prop) (result : α) : Prop :=
  match document.get? sectionName key with
  | none => result = default
  | some value => relation value result

/-- A place in a document, what is acceptable there, and the reason why a value is not. -/
structure Check where
  sectionName : String
  key : String
  Accepts : String → Prop
  reason : String → String

namespace Check

/-- What is at the place, if anything is, is acceptable. -/
def Passes (check : Check) (document : Ini.Document) : Prop :=
  ∀ value, document.get? check.sectionName check.key = some value → check.Accepts value

/-- What is at the place is not acceptable, and that is the problem. -/
def Fault (check : Check) (document : Ini.Document) (problem : Problem) : Prop :=
  ∃ value, document.get? check.sectionName check.key = some value ∧ ¬check.Accepts value ∧
    problem = .invalidValue check.sectionName check.key value (check.reason value)

theorem Fault.not_passes {check : Check} (h : check.Fault document problem) :
    ¬check.Passes document := by
  obtain ⟨value, found, refused, -⟩ := h
  exact fun passes => refused (passes value found)

theorem passes_of_not_fault {check : Check} (h : ∀ problem, ¬check.Fault document problem) :
    check.Passes document := fun value found =>
  Classical.not_not.1 fun refused => h _ ⟨value, found, refused, rfl⟩

end Check

/-- A problem is the fault of the first check that a document does not pass. -/
def FirstFault (document : Ini.Document) (problem : Problem) : List Check → Prop
  | [] => False
  | check :: later =>
    check.Fault document problem ∨ (check.Passes document ∧ FirstFault document problem later)

/-- A document without a fault is one that passes all checks. -/
theorem forall_not_firstFault_iff (checks : List Check) :
    (∀ problem, ¬FirstFault document problem checks) ↔
      ∀ check ∈ checks, check.Passes document := by
  induction checks with
  | nil => simp [FirstFault]
  | cons check later ih =>
    rw [List.forall_mem_cons, ← ih]
    constructor
    · intro sound
      have passes : check.Passes document :=
        Check.passes_of_not_fault fun _ => sound _ ∘ .inl
      exact ⟨passes, fun problem fault => sound problem (.inr ⟨passes, fault⟩)⟩
    · rintro ⟨passes, sound⟩ problem (fault | ⟨-, fault⟩)
      · exact fault.not_passes passes
      · exact sound problem fault

theorem readAt_eq_ok_iff (h : Follows read relation reason) :
    readAt document sectionName key default read = .ok result ↔
      Given document sectionName key default relation result := by
  unfold readAt Given
  cases document.get? sectionName key with
  | none => exact ⟨fun same => (Except.ok.inj same).symm, fun same => congrArg _ same.symm⟩
  | some value =>
    refine Iff.trans ?_ h.ok
    dsimp only
    cases read value with
    | ok given => exact ⟨fun same => congrArg _ (Except.ok.inj same),
        fun same => congrArg _ (Except.ok.inj same)⟩
    | error text => exact ⟨nofun, nofun⟩

theorem readAt_eq_error_iff (h : Follows read relation reason) :
    readAt document sectionName key default read = .error problem ↔
      Check.Fault ⟨sectionName, key, fun value => ∃ result, relation value result, reason⟩
        document problem := by
  unfold readAt Check.Fault
  cases document.get? sectionName key with
  | none => simp
  | some value =>
    dsimp only
    cases given : read value with
    | ok result =>
      refine ⟨nofun, ?_⟩
      rintro ⟨_, ⟨⟩, refused, -⟩
      exact absurd ⟨result, h.ok.1 given⟩ refused
    | error text =>
      constructor
      · rintro ⟨⟩
        refine ⟨value, rfl, ?_, by rw [h.error given]⟩
        rintro ⟨result, accepted⟩
        rw [h.ok.2 accepted] at given
        cases given
      · rintro ⟨_, ⟨⟩, -, rfl⟩
        rw [h.error given]

/-- A place is looked at, and if what is there is acceptable, the chain goes on. -/
theorem bind_readAt_eq_error_iff (h : Follows read relation reason) {later : List Check}
    {rest : α → Except Problem β}
    (next : ∀ result, rest result = .error problem ↔ FirstFault document problem later) :
    readAt document sectionName key default read >>= rest = .error problem ↔
      FirstFault document problem
        (⟨sectionName, key, fun value => ∃ result, relation value result, reason⟩ :: later) := by
  cases first : readAt document sectionName key default read with
  | error fault =>
    have faulty := (readAt_eq_error_iff h).1 first
    constructor
    · intro same
      obtain rfl : fault = problem := Except.error.inj same
      exact .inl faulty
    · rintro (fault | ⟨passes, -⟩)
      · rw [(readAt_eq_error_iff h).2 fault] at first
        exact congrArg Except.error (Except.error.inj first).symm
      · exact absurd passes faulty.not_passes
  | ok result =>
    have sound (problem : Problem) : ¬Check.Fault ⟨sectionName, key,
        fun value => ∃ result, relation value result, reason⟩ document problem := by
      intro fault
      rw [(readAt_eq_error_iff h).2 fault] at first
      cases first
    refine (next result).trans ⟨fun later => .inr ⟨Check.passes_of_not_fault sound, later⟩, ?_⟩
    exact fun h => h.elim (fun fault => absurd fault (sound problem)) And.right

/-! ## §4 Settings -/

/-- The checks, in the order in which they are made. -/
def checks : List Check :=
  [⟨"server", "local_cores", fun value => ∃ n, Positive (Nat.pow 2 64) value n,
      fun _ => "must be a positive integer"⟩,
    ⟨"server", "result_formats", fun value => ∃ items, Offered value items,
      fun value => unknownFormat (firstUnknown value)⟩,
    ⟨"cluster", "connect_timeout_ms", fun value => ∃ n, Positive (Nat.pow 2 64) value n,
      fun _ => "must be a positive integer (milliseconds)"⟩,
    ⟨"events", "subscriber_queue_capacity", fun value => ∃ n, Positive (Nat.pow 2 64) value n,
      fun _ => "must be a positive integer"⟩,
    ⟨"executor", "progress_steps", fun value => ∃ n, Counted (Nat.pow 2 32) value n,
      fun _ => "must be a non-negative integer"⟩,
    ⟨"executor", "step_delay_ms", fun value => ∃ n, Counted (Nat.pow 2 64) value n,
      fun _ => "must be a non-negative integer (milliseconds)"⟩]

/-- The settings that a document gives. -/
structure Settings.Chosen (around : Surroundings) (document : Ini.Document) (settings : Settings) :
    Prop where
  localCores : Given document "server" "local_cores" around.cores (Positive (Nat.pow 2 64))
    settings.localCores
  formats : Given document "server" "result_formats" (catalogue.map (·.identifier)) Offered
    settings.formats
  connectTimeout : Given document "cluster" "connect_timeout_ms" 2000 (Positive (Nat.pow 2 64))
    settings.connectTimeout
  queueCapacity : Given document "events" "subscriber_queue_capacity" 1024
    (Positive (Nat.pow 2 64)) settings.queueCapacity
  steps : Given document "executor" "progress_steps" 4 (Counted (Nat.pow 2 32)) settings.steps
  stepDelay : Given document "executor" "step_delay_ms" 25 (Counted (Nat.pow 2 64))
    settings.stepDelay
  logFile : Given document "logging" "file" around.logPath (LogFile around) settings.logFile

namespace Settings

variable {settings : Settings}

theorem ofDocument_eq_ok_iff :
    ofDocument around document = .ok settings ↔ Chosen around document settings := by
  constructor
  · intro h
    obtain ⟨localCores, readCores, h⟩ := bind_eq_ok.1 h
    obtain ⟨formats, readFormats, h⟩ := bind_eq_ok.1 h
    obtain ⟨connectTimeout, readTimeout, h⟩ := bind_eq_ok.1 h
    obtain ⟨queueCapacity, readCapacity, h⟩ := bind_eq_ok.1 h
    obtain ⟨steps, readSteps, h⟩ := bind_eq_ok.1 h
    obtain ⟨stepDelay, readDelay, h⟩ := bind_eq_ok.1 h
    obtain ⟨logFile, readLog, h⟩ := bind_eq_ok.1 h
    obtain rfl := Except.ok.inj h
    exact ⟨(readAt_eq_ok_iff (follows_positive _ _)).1 readCores,
      (readAt_eq_ok_iff follows_formatList).1 readFormats,
      (readAt_eq_ok_iff (follows_positive _ _)).1 readTimeout,
      (readAt_eq_ok_iff (follows_positive _ _)).1 readCapacity,
      (readAt_eq_ok_iff (follows_count _ _)).1 readSteps,
      (readAt_eq_ok_iff (follows_count _ _)).1 readDelay,
      (readAt_eq_ok_iff (follows_pathOr around)).1 readLog⟩
  · intro h
    refine bind_eq_ok.2 ⟨_, (readAt_eq_ok_iff (follows_positive _ _)).2 h.localCores, ?_⟩
    refine bind_eq_ok.2 ⟨_, (readAt_eq_ok_iff follows_formatList).2 h.formats, ?_⟩
    refine bind_eq_ok.2 ⟨_, (readAt_eq_ok_iff (follows_positive _ _)).2 h.connectTimeout, ?_⟩
    refine bind_eq_ok.2 ⟨_, (readAt_eq_ok_iff (follows_positive _ _)).2 h.queueCapacity, ?_⟩
    refine bind_eq_ok.2 ⟨_, (readAt_eq_ok_iff (follows_count _ _)).2 h.steps, ?_⟩
    refine bind_eq_ok.2 ⟨_, (readAt_eq_ok_iff (follows_count _ _)).2 h.stepDelay, ?_⟩
    exact bind_eq_ok.2 ⟨_, (readAt_eq_ok_iff (follows_pathOr around)).2 h.logFile, rfl⟩

theorem ofDocument_eq_error_iff :
    ofDocument around document = .error problem ↔ FirstFault document problem checks := by
  refine bind_readAt_eq_error_iff (follows_positive _ _) fun localCores => ?_
  refine bind_readAt_eq_error_iff follows_formatList fun formats => ?_
  refine bind_readAt_eq_error_iff (follows_positive _ _) fun connectTimeout => ?_
  refine bind_readAt_eq_error_iff (follows_positive _ _) fun queueCapacity => ?_
  refine bind_readAt_eq_error_iff (follows_count _ _) fun steps => ?_
  refine bind_readAt_eq_error_iff (follows_count _ _) fun stepDelay => ?_
  -- Everything is acceptable for the log file.
  obtain ⟨path, read⟩ : ∃ path, readAt document "logging" "file" around.logPath
      (fun value => .ok (pathOr around.logPath around.home value)) = .ok path := by
    unfold readAt
    cases document.get? "logging" "file" <;> exact ⟨_, rfl⟩
  show (readAt document "logging" "file" around.logPath
    (fun value => .ok (pathOr around.logPath around.home value)) >>= _) = _ ↔ False
  rw [read]
  exact ⟨nofun, False.elim⟩

/-- What becomes of a document. It gives settings iff whatever stands at the six places that are
checked is acceptable there, and otherwise the problem is the first value that is not, with its
place and its reason. Settings that are given are the defaults, but for what the document says;
they are in range, if the machine has a number of cores that is. -/
theorem settings_validated (around : Surroundings) (document : Ini.Document) :
    ((∃ settings, ofDocument around document = .ok settings) ↔
      ∀ check ∈ checks, check.Passes document) ∧
    (∀ problem, ofDocument around document = .error problem ↔
      FirstFault document problem checks) ∧
    (∀ settings, ofDocument around document = .ok settings ↔ Chosen around document settings) ∧
    (0 < around.cores ∧ around.cores < Nat.pow 2 64 → ∀ settings,
      ofDocument around document = .ok settings → settings.InRange) := by
  refine ⟨?_, fun _ => ofDocument_eq_error_iff, fun _ => ofDocument_eq_ok_iff,
    fun cores _ read => (eq_of_ofDocument cores read).1⟩
  rw [← forall_not_firstFault_iff]
  have faults (problem : Problem) := @ofDocument_eq_error_iff around document problem
  simp only [← faults]
  cases ofDocument around document with
  | ok settings => exact ⟨fun _ _ => nofun, fun _ => ⟨settings, rfl⟩⟩
  | error problem => exact ⟨nofun, fun sound => absurd rfl (sound problem)⟩

/-- Blanks, a plus sign and a leading zero around a count, formats with an empty item, and a blank
log file; and a document in which the second fault stands before the first one. -/
theorem settings_validated_first :
    let around : Surroundings := ⟨some "/home/user", 1⟩
    let server : Ini.Section :=
      ⟨"server", [("local_cores", "\t+08 "), ("result_formats", "TIFF,, npz ,npz")]⟩
    let executor : Ini.Section :=
      ⟨"executor", [("step_delay_ms", "-1"), ("progress_steps", "4294967296")]⟩
    let settings : Settings :=
      { Settings.default around with localCores := 8, formats := ["tiff", "npz", "npz"] }
    (0 < around.cores ∧ around.cores < Nat.pow 2 64) ∧
    Chosen around ⟨[⟨"logging", [("file", "  ")]⟩, server]⟩ settings ∧ settings.InRange ∧
    FirstFault ⟨[executor, server]⟩ (.invalidValue "executor" "progress_steps" "4294967296"
      "must be a non-negative integer") checks := by
  intro around server executor settings
  have cores : 0 < around.cores ∧ around.cores < Nat.pow 2 64 := by decide
  have read : ofDocument around ⟨[⟨"logging", [("file", "  ")]⟩, server]⟩ = .ok settings := by
    decide +kernel
  have refused : ofDocument around ⟨[executor, server]⟩ = .error (.invalidValue "executor"
      "progress_steps" "4294967296" "must be a non-negative integer") := by
    decide +kernel
  obtain ⟨-, -, chosen, range⟩ :=
    settings_validated around ⟨[⟨"logging", [("file", "  ")]⟩, server]⟩
  obtain ⟨-, first, -⟩ := settings_validated around ⟨[executor, server]⟩
  exact ⟨cores, (chosen settings).1 read, range cores settings read, (first _).1 refused⟩

end Settings

end Config

end Coordination
