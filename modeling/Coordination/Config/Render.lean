/-
Coordination.Config.Render — settings as a commented document.
-/
import Coordination.Config.Settings

namespace Coordination.Config

/-- A path, in which `~/` stands for the home directory if there is one and the path is below
it. -/
def abbreviateHome (home : Option String) (path : String) : String :=
  match home.bind fun home => Text.Path.below? home.toList path.toList with
  | some rest => "~/" ++ String.ofList rest
  | none => path

namespace Settings

/-- The lines of the document. -/
def lines (around : Surroundings) (settings : Settings) : List String :=
  ["[server]",
    "; Number of cores advertised for local connections (default: number of CPU cores)",
    "local_cores = " ++ toString settings.localCores,
    "; Result file formats offered to clients, comma separated (default: npz,tiff,raw)",
    ";   npz  - numpy format (.npz)",
    ";   tiff - TIFF format (.tif)",
    ";   raw  - RAW format (.raw)",
    "result_formats = " ++ ",".intercalate settings.formats,
    "",
    "[cluster]",
    "; Timeout in milliseconds when probing a cluster scheduler address (default: 2000)",
    "connect_timeout_ms = " ++ toString settings.connectTimeout,
    "",
    "[events]",
    "; Messages buffered per observer (default: 1024)",
    "; An observer that falls this far behind is disconnected",
    "subscriber_queue_capacity = " ++ toString settings.queueCapacity,
    "",
    "[executor]",
    "; Progress events emitted per job by the built-in executor (default: 4)",
    "progress_steps = " ++ toString settings.steps,
    "; Pause between progress events in milliseconds (default: 25)",
    "step_delay_ms = " ++ toString settings.stepDelay,
    "",
    "[logging]",
    "; Log file, truncated on every start (default: ~/.framehub/framehub.log)",
    "file = " ++ abbreviateHome around.home settings.logFile]

/-- The document; every line ends with a line break. -/
def render (around : Surroundings) (settings : Settings) : String :=
  String.join ((settings.lines around).map (· ++ "\n"))

end Settings

end Coordination.Config
