/-
Coordination.Config.Settings — the settings of a server.

  §1 Surroundings  — where the settings file is, and how many cores there are.
  §2 Formats       — the catalogue of result formats.
  §3 Settings      — the settings and their defaults.
-/
import Coordination.Text.Path

namespace Coordination.Config

/-! ## §1 Surroundings -/

/-- What the defaults depend on. -/
structure Surroundings where
  /-- The home directory, if there is one. -/
  home : Option String
  cores : Nat
  deriving DecidableEq, Repr

/-- A path below a directory. -/
def joinPath (base path : String) : String := String.ofList (Text.Path.join base.toList path.toList)

namespace Surroundings

/-- The directory of the settings and the log. Without a home directory it is in the current
one. -/
def directory (around : Surroundings) : String := joinPath (around.home.getD ".") ".framehub"

def settingsPath (around : Surroundings) : String := joinPath around.directory "config.ini"

def logPath (around : Surroundings) : String := joinPath around.directory "framehub.log"

end Surroundings

/-! ## §2 Formats -/

/-- A format in which results are offered. -/
structure ResultFormat where
  identifier : String
  description : String
  deriving DecidableEq, Repr

/-- The formats that a server knows. -/
def catalogue : List ResultFormat :=
  [⟨"npz", "numpy format (.npz)"⟩, ⟨"tiff", "TIFF format (.tif)"⟩, ⟨"raw", "RAW format (.raw)"⟩]

def formatOf? (identifier : String) : Option ResultFormat :=
  catalogue.find? (·.identifier = identifier)

/-! ## §3 Settings -/

structure Settings where
  /-- The cores advertised for a local pool. -/
  localCores : Nat
  /-- The identifiers of the formats offered. -/
  formats : List String
  /-- How long to wait for a cluster, in milliseconds. -/
  connectTimeout : Nat := 2000
  /-- How many messages may wait for an observer. -/
  queueCapacity : Nat := 1024
  /-- The steps that the built-in engine reports of each job. -/
  steps : Nat := 4
  /-- The pause before each step, in milliseconds. -/
  stepDelay : Nat := 25
  logFile : String
  deriving DecidableEq, Repr

namespace Settings

def default (around : Surroundings) : Settings :=
  { localCores := around.cores
    formats := catalogue.map (·.identifier)
    logFile := around.logPath }

/-- Whether two settings are equal; the log files are compared by components. -/
def same (a b : Settings) : Bool :=
  decide ({ a with logFile := b.logFile } = b) &&
    Text.Path.same a.logFile.toList b.logFile.toList

end Settings

end Coordination.Config
