/-
Coordination.Cli.Program — the command line program.

The program is written over any host, so that it can be run on a disk in
memory as well as on a real system. All that it prints is its result.

  §1 Results   — `Result`, `Failure`.
  §2 Settings  — reading and writing the settings file.
  §3 Actions   — one function per action.
  §4 Program   — `Cli.run`.
-/
import Coordination.Cli.Arguments
import Coordination.Cli.Replay
import Coordination.Config.Parse
import Coordination.Config.Render

namespace Coordination.Cli

open Config (Settings Surroundings)

/-! ## §1 Results -/

/-- What a run of the program leaves: an exit code and what was printed. -/
structure Result where
  exit : Nat
  stdout : String
  stderr : String
  deriving DecidableEq, Repr

/-- Why an action fails. -/
inductive Failure where
  | noLog (reason : String)
  | config (problem : Config.Problem)
  | unreadableFile (path reason : String)
  | invalidScript (path reason : String)
  deriving DecidableEq, Repr

namespace Failure

def text : Failure → String
  | noLog reason => "Failed to initialize logging: " ++ reason
  | config problem => "Configuration error: " ++ problem.text
  | unreadableFile path reason => "Failed to read file '" ++ path ++ "': " ++ reason
  | invalidScript path reason => "Invalid replay script '" ++ path ++ "': " ++ reason

/-- What helps the user, set apart by an empty line. -/
def advice : Failure → List String
  | invalidScript _ _ =>
    ["", "A replay script is a JSON array of commands, for example:",
      "  [\x7b\"op\": \"connect\", \"connection\": " ++
        "\x7b\"type\": \"local\", \"numWorkers\": 2\x7d\x7d]"]
  | config _ => ["", "Run 'framehub config path' to locate the configuration file."]
  | _ => []

end Failure

/-- A text of lines, each with a line break. -/
def unlines (lines : List String) : String := String.join (lines.map (· ++ "\n"))

/-- The result of an action: what it prints, or a failure. -/
def Result.of : Except Failure String → Result
  | .ok printed => ⟨0, printed, ""⟩
  | .error failure => ⟨1, "", unlines (("Error: " ++ failure.text) :: failure.advice)⟩

/-! ## §2 Settings -/

/-- What the program knows about where it runs. -/
structure Setup where
  around : Surroundings
  cwd : String
  /-- The identifiers of the jobs to come. -/
  jobIds : Nat → JobId
  wording : Wording := {}

variable {m : Type → Type} [Monad m]

/-- Whether there is anything at a path. -/
def found (host : Host m) (path : String) : m Bool := do
  match ← host.status path with
  | .unavailable _ => return false
  | _ => return true

/-- The settings in a file; the defaults if there is none. -/
def load (host : Host m) (around : Surroundings) (path : String) (wording : Wording := {}) :
    m (Except Config.Problem Settings) := do
  if ← found host path then
    match ← host.read path with
    | .ok bytes => return Settings.ofBytes around bytes wording
    | .error reason => return .error (.unreadable reason)
  else return .ok (Settings.default around)

/-- Writes settings to a file, and makes the directory for it. -/
def save (host : Host m) (around : Surroundings) (settings : Settings) (path : String) :
    m (Except Config.Problem Unit) := do
  let made ← match Text.Path.parent? path.toList with
    | some above => host.makeDirectories (String.ofList above)
    | none => pure (.ok ())
  match made with
  | .error reason => return .error (.noDirectory reason)
  | .ok () => return (← host.write path (settings.render around)).mapError .unwritable

/-- Makes an empty log file. -/
def startLog (host : Host m) (path : String) : m (Except String Unit) := do
  match Text.Path.fileName? path.toList with
  | none => return .error ("log path has no file name: " ++ path)
  | some _ =>
    let above := String.ofList ((Text.Path.parent? path.toList).getD [])
    match ← host.makeDirectories (if above.isEmpty then "." else above) with
    | .error reason => return .error reason
    | .ok () => host.write path ""

/-! ## §3 Actions -/

def configShow (host : Host m) (setup : Setup) (path : String) : m (Except Failure String) := do
  match ← load host setup.around path setup.wording with
  | .ok settings => return .ok (settings.render setup.around)
  | .error problem => return .error (.config problem)

def configInit (host : Host m) (setup : Setup) (path : String) (force : Bool) :
    m (Except Failure String) := do
  if (← found host path) && !force then
    return .ok (unlines
      ["Configuration file already exists: " ++ path, "Use --force to overwrite it with defaults."])
  else
    match ← save host setup.around (.default setup.around) path with
    | .ok () => return .ok (unlines ["Wrote default configuration to " ++ path])
    | .error problem => return .error (.config problem)

/-- Reads the settings and starts the log, as every action does that needs a server. -/
def prepare (host : Host m) (setup : Setup) (path : String) : m (Except Failure Settings) := do
  match ← load host setup.around path setup.wording with
  | .error problem => return .error (.config problem)
  | .ok settings => match ← startLog host settings.logFile with
    | .error reason => return .error (.noLog reason)
    | .ok () => return .ok settings

/-- A fresh server with the built-in engine. -/
def serverFor (setup : Setup) (settings : Settings) : Server :=
  { bus := .ofCapacity settings.queueCapacity
    engine := .builtIn ⟨settings.steps, settings.stepDelay⟩ setup.wording
    capabilities := .ofSettings setup.cwd settings
    wording := setup.wording
    jobIds := setup.jobIds }

def info (host : Host m) (setup : Setup) (path : String) : m (Except Failure String) := do
  match ← prepare host setup path with
  | .error failure => return .error failure
  | .ok settings =>
    return .ok (unlines [(Capabilities.ofSettings setup.cwd settings).toJson.indented 0])

/-- The commands in a script file. -/
def loadScript (host : Host m) (setup : Setup) (path : String) :
    m (Except Failure (List Json)) := do
  match ← host.read path with
  | .error reason => return .error (.unreadableFile path reason)
  | .ok bytes => match String.fromUTF8? bytes with
    | none => return .error (.unreadableFile path "stream did not contain valid UTF-8")
    | some text => match script? text with
      | some commands => return .ok commands
      | none => return .error (.invalidScript path (setup.wording.script text))

def replayFile (host : Host m) (setup : Setup) (path : String) (options : ReplayOptions) :
    m (Except Failure String) := do
  match ← prepare host setup path with
  | .error failure => return .error failure
  | .ok settings => match ← loadScript host setup options.script with
    | .error failure => return .error failure
    | .ok commands =>
      return .ok (unlines
        (← replay host (serverFor setup settings) options.observe options.settleMs commands))

def perform (host : Host m) (setup : Setup) (invocation : Invocation) :
    m (Except Failure String) :=
  let path := invocation.config.getD setup.around.settingsPath
  match invocation.action with
  | .configShow => configShow host setup path
  | .configPath => pure (.ok (unlines [path]))
  | .configInit force => configInit host setup path force
  | .info => info host setup path
  | .replay options => replayFile host setup path options

/-! ## §4 Program -/

def usage : String :=
  unlines
    ["Coordination core for interactive detector-data analysis", "",
      "Usage: framehub [OPTIONS] <COMMAND>", "",
      "Commands:",
      "  config  Manage the configuration file (show, path, init [--force])",
      "  info    Print the server configuration as JSON",
      "  replay  Run a JSON script of commands against a fresh core",
      "          (<SCRIPT> [--observe] [--settle-ms <MS>])", "",
      "Options:",
      "      --config <CONFIG>  Use this configuration file",
      "      --debug            Enable debug logging",
      "  -h, --help             Print help",
      "  -V, --version          Print version"]

/-- Runs the program. -/
def run (host : Host m) (setup : Setup) (arguments : List String) : m Result := do
  match Invocation.parse arguments with
  | .error .version => return ⟨0, unlines ["framehub " ++ Capabilities.currentVersion], ""⟩
  | .error .help => return ⟨0, usage, ""⟩
  | .error .usage => return ⟨2, "", usage⟩
  | .ok invocation => return Result.of (← perform host setup invocation)

end Coordination.Cli
