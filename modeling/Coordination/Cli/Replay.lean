/-
Coordination.Cli.Replay — a script of commands for a fresh server.

Every entry of a script is carried out in turn and answered with one
line, whether it can be read as a command or not. Then the jobs may go on
for some time, the server is shut down, and, if an observer was there
from the start, all that it heard is printed.
-/
import Coordination.Host.System
import Coordination.Json.Reader
import Coordination.Json.Writer
import Coordination.Server.State

namespace Coordination.Cli

/-- The commands of a script. Each is read when its turn comes. -/
def script? (text : String) : Option (List Json) :=
  match Json.parse? text.toList with
  | some (.arr commands) => some commands
  | _ => none

/-- The facts that a command has to be told. -/
def factsOf {m : Type → Type} [Monad m] (host : Host m) (request : Json) : m Facts := do
  match Command.ofJson? request with
  | some (.registerDataset _ params) => match params.path? with
    | some path => return { file := ← host.status path }
    | none => return {}
  | some (.connect spec) => match spec.target with
    | .ok (some address) => return { unreachable := ← host.knock address }
    | _ => return {}
  | _ => return {}

/-- Carries out commands in turn. It gives the replies. The engine runs beside the script and may go
on at any time; here it gets its turn after each command. -/
def performAll {m : Type → Type} [Monad m] (host : Host m) (server : Server) :
    List Json → m (Server × List Json)
  | [] => return (server, [])
  | request :: rest => do
    let (next, outcome) := server.dispatch (← factsOf host request) request
    let (last, replies) ← performAll host next.settle rest
    return (last, outcome.toJson :: replies)

/-- How often a waiting server looks for live jobs, in milliseconds. -/
def pollInterval : Nat := 10

/-- Waits for live jobs, for as many polls as there is time for and some milliseconds more. -/
def await (server : Server) (more : Nat) : (polls : Nat) → Server
  | 0 => if server.hasLiveJob then server.pass more else server
  | polls + 1 => if server.hasLiveJob then await (server.pass pollInterval) more polls else server

/-- Waits until no job is live, but no longer than some milliseconds. -/
def settleFor (server : Server) (ms : Nat) : Server :=
  await server (ms % pollInterval) (ms / pollInterval)

/-- Runs a script on a server. It gives the lines that are printed. -/
def replay {m : Type → Type} [Monad m] (host : Host m) (server : Server) (observe : Bool)
    (settleMs : Nat) (commands : List Json) : m (List String) := do
  let (observed, observer) :=
    if observe then
      let (subscribed, id) := server.subscribe
      (subscribed, some id)
    else (server, none)
  let (done, replies) ← performAll host observed commands
  let closed := (settleFor done settleMs).shutDown
  let heard := match observer with
    | some id => (closed.bus.drain id).2.map Message.toJson
    | none => []
  return (replies ++ heard).map Json.compact

end Coordination.Cli
