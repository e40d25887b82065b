/-
Coordination.Config.Capabilities — what a server tells clients about itself.
-/
import Coordination.Config.Settings
import Coordination.Json.Record

namespace Coordination

open Config (ResultFormat Settings)

namespace Config.ResultFormat

def toJson (format : ResultFormat) : Json :=
  .obj [("identifier", .str format.identifier), ("description", .str format.description)]

def ofJson? (json : Json) : Option ResultFormat := do
  match ← json.fields? ["identifier", "description"] with
  | [some identifier, some description] =>
    return ⟨← identifier.string?, ← description.string?⟩
  | _ => none

end Config.ResultFormat

structure Capabilities where
  version : String
  revision : String
  localCores : Nat
  cwd : String
  separator : String
  /-- The formats by name. -/
  formats : List (String × ResultFormat)
  deriving DecidableEq, Repr

namespace Capabilities

def currentVersion : String := "0.3.0"

def currentRevision : String := "unknown"

/-- The formats of the catalogue that are offered, in the order of their identifiers. -/
def offered (identifiers : List String) : List ResultFormat :=
  (Config.catalogue.filter (·.identifier ∈ identifiers)).mergeSort fun a b =>
    decide (a.identifier ≤ b.identifier)

def ofSettings (cwd : String) (settings : Settings) : Capabilities :=
  { version := currentVersion
    revision := currentRevision
    localCores := settings.localCores
    cwd := cwd
    separator := "/"
    formats := (offered settings.formats).map fun format => (format.identifier, format) }

def toJson (capabilities : Capabilities) : Json :=
  .obj [("version", .str capabilities.version), ("revision", .str capabilities.revision),
    ("localCores", .ofNat capabilities.localCores), ("cwd", .str capabilities.cwd),
    ("separator", .str capabilities.separator),
    ("resultFileFormats",
      .obj (capabilities.formats.map fun (name, format) => (name, format.toJson)))]

/-- Every field of an object as a format. -/
def formats? : List (String × Json) → Option (List (String × ResultFormat))
  | [] => some []
  | (name, value) :: rest => match ResultFormat.ofJson? value, formats? rest with
    | some format, some formats => some ((name, format) :: formats)
    | _, _ => none

def ofJson? (json : Json) : Option Capabilities := do
  match ← json.fields?
      ["version", "revision", "localCores", "cwd", "separator", "resultFileFormats"] with
  | [some version, some revision, some localCores, some cwd, some separator, some (.obj formats)] =>
    return {
      version := ← version.string?
      revision := ← revision.string?
      localCores := ← localCores.nat?
      cwd := ← cwd.string?
      separator := ← separator.string?
      formats := ← formats? formats }
  | _ => none

end Capabilities

end Coordination
