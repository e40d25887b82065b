/-
Coordination.Config.Parse — settings from a document.

Every setting has a place in the document: a section and a key. What is
not in the document has its default. The settings are checked in a fixed
order, and the first value that is not acceptable is reported as it is
written there.

  §1 Problems  — `Problem`.
  §2 Readers   — counts, formats and paths.
  §3 Settings  — `Settings.ofDocument`, `Settings.ofBytes`.
-/
import Coordination.Config.Ini
import Coordination.Config.Settings
import Coordination.Text.Case
import Coordination.Text.Numeral
import Coordination.Wording

namespace Coordination.Config

/-! ## §1 Problems -/

/-- Why settings cannot be read or written. -/
inductive Problem where
  | unreadable (reason : String)
  | unwritable (reason : String)
  | invalidValue (sectionName key value reason : String)
  | noDirectory (reason : String)
  deriving DecidableEq, Repr

def Problem.text : Problem → String
  | unreadable reason => "Failed to read config file: " ++ reason
  | unwritable reason => "Failed to write config file: " ++ reason
  | invalidValue sectionName key value reason =>
    "Invalid configuration: " ++ sectionName ++ "." ++ key ++ " = '" ++ value ++ "' - " ++ reason
  | noDirectory reason => "Failed to create config directory: " ++ reason

/-! ## §2 Readers

A reader gives the value of a text, or the reason why it is not acceptable. -/

/-- A numeral below a limit, white space around it ignored. -/
def count (limit : Nat) (reason value : String) : Except String Nat :=
  match Text.numeral? limit (Text.trim value.toList) with
  | some n => .ok n
  | none => .error reason

/-- A count that is not zero. -/
def positive (limit : Nat) (reason value : String) : Except String Nat :=
  match count limit reason value with
  | .ok 0 => .error reason
  | result => result

/-- The items of a list with commas, in lowercase and without white space around them; empty items
do not count. -/
def listed (value : String) : List String :=
  ((Text.split ',' value.toList).map fun item => String.ofList (Text.lower (Text.trim item))).filter
    (!·.isEmpty)

/-- A list of formats that are in the catalogue. -/
def formatList (value : String) : Except String (List String) :=
  match (listed value).find? fun item => (formatOf? item).isNone with
  | some unknown => .error ("unknown format '" ++ unknown ++ "', expected npz, tiff or raw")
  | none => .ok (listed value)

/-- A path, in which `~/` at the start stands for the home directory, if there is one. -/
def expandHome (home : Option String) (path : String) : String :=
  match home, path.toList with
  | some home, '~' :: '/' :: rest => joinPath home (String.ofList rest)
  | _, _ => path

/-- A path with white space around it ignored, or a default for a blank one. -/
def pathOr (default : String) (home : Option String) (value : String) : String :=
  let trimmed := String.ofList (Text.trim value.toList)
  if trimmed.isEmpty then default else expandHome home trimmed

/-! ## §3 Settings -/

/-- The setting at a place in a document. -/
def readAt {α : Type} (document : Ini.Document) (sectionName key : String) (default : α)
    (read : String → Except String α) : Except Problem α :=
  match document.get? sectionName key with
  | none => .ok default
  | some value => match read value with
    | .ok result => .ok result
    | .error reason => .error (.invalidValue sectionName key value reason)

namespace Settings

def ofDocument (around : Surroundings) (document : Ini.Document) : Except Problem Settings := do
  let base := default around
  let localCores ← readAt document "server" "local_cores" base.localCores
    (positive (Nat.pow 2 64) "must be a positive integer")
  let formats ← readAt document "server" "result_formats" base.formats formatList
  let connectTimeout ← readAt document "cluster" "connect_timeout_ms" base.connectTimeout
    (positive (Nat.pow 2 64) "must be a positive integer (milliseconds)")
  let queueCapacity ← readAt document "events" "subscriber_queue_capacity" base.queueCapacity
    (positive (Nat.pow 2 64) "must be a positive integer")
  let steps ← readAt document "executor" "progress_steps" base.steps
    (count (Nat.pow 2 32) "must be a non-negative integer")
  let stepDelay ← readAt document "executor" "step_delay_ms" base.stepDelay
    (count (Nat.pow 2 64) "must be a non-negative integer (milliseconds)")
  let logFile ← readAt document "logging" "file" base.logFile
    fun value => .ok (pathOr base.logFile around.home value)
  return { localCores, formats, connectTimeout, queueCapacity, steps, stepDelay, logFile }

/-- A text without the mark that may begin a file. -/
def withoutMark : List Char → List Char
  | '\ufeff' :: rest => rest
  | cs => cs

/-- The settings in a text. -/
def ofText (around : Surroundings) (text : String) (wording : Wording := {}) :
    Except Problem Settings :=
  match Ini.parse? (withoutMark text.toList) with
  | some document => ofDocument around document
  | none => .error (.unreadable (wording.document text))

/-- The settings in the contents of a file. -/
def ofBytes (around : Surroundings) (bytes : ByteArray) (wording : Wording := {}) :
    Except Problem Settings :=
  match String.fromUTF8? bytes with
  | some text => ofText around text wording
  | none => .error (.unreadable "stream did not contain valid UTF-8")

end Settings

end Coordination.Config
