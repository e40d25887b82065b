/-
Coordination.Wording — reasons that are given in the words of others.

A value or a text that cannot be read is reported with the reason that the
library gives which reads it. The reason depends on the value or the text
alone, and nothing depends on the reason but the texts that pass it on.
-/
import Coordination.Json.Basic

namespace Coordination

structure Wording where
  /-- Why a value is no command. -/
  command : Json → String := fun _ => "the command cannot be read"
  /-- Why a value is no region of interest. -/
  region : Json → String := fun _ => "the region cannot be read"
  /-- Why a text is no array of values. -/
  script : String → String := fun _ => "the text is no array of values"
  /-- Why a text is no settings document. -/
  document : String → String := fun _ => "the text is malformed"

end Coordination
