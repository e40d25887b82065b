/-
Coordination.Cli.Arguments — what a command line asks for.

Arguments are read from left to right. Options start with two dashes and
may have their value behind an equals sign or as the next argument, which
then must not look like an option. After two dashes alone there are no
more options. The options `--config` and `--debug` may stand anywhere,
and count where they stand deepest; no option is given twice at one
level. The first argument that does not fit ends the reading.

  §1 Invocations  — `Invocation`, `Action`.
  §2 Levels       — the options and words of one level, `readLevel`.
  §3 Reading      — `Invocation.parse`.
-/
import Coordination.Text.Numeral

namespace Coordination.Cli

/-! ## §1 Invocations -/

structure ReplayOptions where
  script : String
  /-- Whether to print what an observer hears. -/
  observe : Bool := false
  /-- How long to wait for jobs after the last command, in milliseconds. -/
  settleMs : Nat := 5000
  deriving DecidableEq, Repr

inductive Action where
  | configShow
  | configPath
  | configInit (force : Bool)
  | info
  | replay (options : ReplayOptions)
  deriving DecidableEq, Repr

/-- An action and the options that any action may have. -/
structure Invocation where
  config : Option String
  debug : Bool
  action : Action
  deriving DecidableEq, Repr

/-- How reading a command line ends without an action. -/
inductive Stop where
  | version
  | help
  /-- The arguments make no sense. -/
  | usage
  deriving DecidableEq, Repr

/-! ## §2 Levels -/

/-- The options that a level has besides `--config` and `--debug`. -/
structure Level where
  /-- Options without a value. -/
  flags : List String := []
  /-- Options with a value, each with a test of the value. -/
  valued : List (String × (String → Bool)) := []
  /-- Whether `--version` is an option. -/
  version : Bool := false
  /-- The number of words that may stand at the level. -/
  words : Nat := 0
  /-- Whether the first word is the name of a level below. -/
  nested : Bool := false

/-- What was read at a level. -/
structure Found where
  flags : List String := []
  values : List (String × String) := []
  words : List String := []
  /-- What follows the name of a level below. -/
  rest : List String := []
  deriving DecidableEq, Repr

def Level.allFlags (level : Level) : List String := "debug" :: level.flags

def Level.allValued (level : Level) : List (String × (String → Bool)) :=
  ("config", fun value => !value.isEmpty) :: level.valued

/-- An argument by its form. -/
inductive Token where
  | word (text : String)
  | option (name : String) (value : Option String)
  /-- One dash and some letters. -/
  | short (letter : Char)
  /-- Two dashes alone. -/
  | dashes

def Token.ofString (argument : String) : Token :=
  match argument.toList with
  | ['-', '-'] => .dashes
  | '-' :: '-' :: rest =>
    let name := rest.takeWhile (· ≠ '=')
    .option (String.ofList name)
      (if name.length < rest.length then some (String.ofList (rest.drop (name.length + 1)))
        else none)
  | '-' :: letter :: _ => .short letter
  | _ => .word argument

/-- Whether an argument can be the value of the option before it. -/
def Token.isWord : Token → Bool
  | .word _ => true
  | _ => false

/-- Enters an option without a value. -/
def Found.addFlag (found : Found) (name : String) : Except Stop Found :=
  if name ∈ found.flags then .error .usage else .ok { found with flags := name :: found.flags }

/-- Enters an option with a value. -/
def Found.addValue (found : Found) (name : String) (test : String → Bool) (value : String) :
    Except Stop Found :=
  if name ∈ found.values.map Prod.fst || !test value then .error .usage
  else .ok { found with values := (name, value) :: found.values }

/-- Enters a word; words are not empty. -/
def Found.addWord (found : Found) (level : Level) (word : String) : Except Stop Found :=
  if found.words.length < level.words && !word.isEmpty then
    .ok { found with words := found.words ++ [word] }
  else .error .usage

/-- Enters the arguments behind two dashes alone. -/
def Found.addWords (found : Found) (level : Level) : List String → Except Stop Found
  | [] => .ok found
  | word :: rest => do (← found.addWord level word).addWords level rest

/-- Reads the arguments of a level. -/
def readLevel (level : Level) (found : Found) : List String → Except Stop Found
  | [] => .ok found
  | argument :: rest => match Token.ofString argument with
    | .dashes => if level.nested then .error .usage else found.addWords level rest
    | .short 'h' => .error .help
    | .short 'V' => .error (if level.version then .version else .usage)
    | .short _ => .error .usage
    | .word word =>
      if level.nested then .ok { found with words := [word], rest := rest }
      else do readLevel level (← found.addWord level word) rest
    | .option name value =>
      match level.allValued.find? (·.1 = name), value with
      | some (_, test), some value => do readLevel level (← found.addValue name test value) rest
      | some (_, test), none => match rest with
        | [] => .error .usage
        | next :: others =>
          if (Token.ofString next).isWord then do
            readLevel level (← found.addValue name test next) others
          else .error .usage
      | none, some _ => .error .usage
      | none, none =>
        if name ∈ level.allFlags then do readLevel level (← found.addFlag name) rest
        else if name = "help" then .error .help
        else if name = "version" ∧ level.version then .error .version
        else .error .usage

/-! ## §3 Reading -/

/-- The value of an option. -/
def Found.value? (found : Found) (name : String) : Option String :=
  (found.values.find? (·.1 = name)).map (·.2)

/-- The options for any action, from the deepest level up. -/
def shared (levels : List Found) (action : Action) : Invocation :=
  { config := levels.findSome? (·.value? "config")
    debug := levels.any ("debug" ∈ ·.flags)
    action := action }

def topLevel : Level := { version := true, nested := true }

def configLevel : Level := { nested := true }

def plainLevel : Level := {}

def initLevel : Level := { flags := ["force"] }

/-- A number of milliseconds. -/
def milliseconds? (value : String) : Option Nat := Text.numeral? (Nat.pow 2 64) value.toList

def replayLevel : Level :=
  { flags := ["observe"]
    valued := [("settle-ms", fun value => (milliseconds? value).isSome)]
    words := 1 }

/-- Whether some words lead to an action or to a level with actions. -/
def isCommand : List String → Bool
  | [] | ["config"] | ["info"] | ["replay"] | ["help"] => true
  | ["config", name] => ["show", "path", "init", "help"].contains name
  | _ => false

/-- How the reading ends at a request for help on some words. -/
def helpOn (words : List String) : Stop := if isCommand words then .help else .usage

/-- Reads what follows `config`. -/
def parseConfig (top : Found) (arguments : List String) : Except Stop Invocation := do
  let found ← readLevel configLevel {} arguments
  match found.words with
  | ["show"] =>
    let last ← readLevel plainLevel {} found.rest
    return shared [last, found, top] .configShow
  | ["path"] =>
    let last ← readLevel plainLevel {} found.rest
    return shared [last, found, top] .configPath
  | ["init"] =>
    let last ← readLevel initLevel {} found.rest
    return shared [last, found, top] (.configInit ("force" ∈ last.flags))
  | ["help"] => .error (helpOn ("config" :: found.rest))
  | _ => .error .usage

/-- Reads what follows `replay`. -/
def parseReplay (top : Found) (arguments : List String) : Except Stop Invocation := do
  let found ← readLevel replayLevel {} arguments
  match found.words with
  | [script] =>
    return shared [found, top] (.replay
      { script := script
        observe := "observe" ∈ found.flags
        settleMs := ((found.value? "settle-ms").bind milliseconds?).getD 5000 })
  | _ => .error .usage

/-- Reads a command line. -/
def Invocation.parse (arguments : List String) : Except Stop Invocation := do
  let top ← readLevel topLevel {} arguments
  match top.words with
  | ["config"] => parseConfig top top.rest
  | ["info"] =>
    let found ← readLevel plainLevel {} top.rest
    return shared [found, top] .info
  | ["replay"] => parseReplay top top.rest
  | ["help"] => .error (helpOn top.rest)
  | _ => .error .usage

end Coordination.Cli
