/-
Coordination.Server.State — a server: the core, its observers and its engine.

A step of the server is a command, a report of the engine, or the passing
of time. The effects of a step take place in their order: messages go to
the observers, jobs to the engine. Reports are taken in until the server
is shut down.

  §1 Server     — `Server`, `carryOut`.
  §2 Commands   — `dispatch`.
  §3 Reports    — `report`, `pass`.
  §4 Observers  — `subscribe`, `shutDown`.
-/
import Coordination.Broadcast.Bus
import Coordination.Core.Dispatch
import Coordination.Server.Engine

namespace Coordination

/-! ## §1 Server -/

structure Server where
  core : Core := {}
  bus : Bus Message
  engine : Engine
  capabilities : Capabilities
  wording : Wording := {}
  /-- The identifiers of jobs, by the number of jobs that were handed to the engine before. -/
  jobIds : Nat → JobId
  /-- The number of jobs that were handed to the engine. -/
  started : Nat := 0
  /-- Whether reports are taken in. -/
  listening : Bool := true

namespace Server

/-- Carries out one effect. -/
def carryOut (server : Server) : Effect → Server
  | .probe _ => server
  | .start request =>
    { server with engine := server.engine.start request, started := server.started + 1 }
  | .cancel job => { server with engine := server.engine.cancel job }
  | .publish message => { server with bus := server.bus.publish message }

/-- Carries out effects one after the other. -/
def carryOutAll (server : Server) (effects : List Effect) : Server :=
  effects.foldl carryOut server

/-! ## §2 Commands -/

/-- What a command is told. -/
def context (server : Server) (facts : Facts) : Context :=
  { capabilities := server.capabilities
    facts := facts
    nextJob := server.jobIds server.started
    answer := server.engine.answer
    wording := server.wording }

/-- Carries out any value that is read as a command; also gives the reply and the effects. -/
def dispatch (server : Server) (facts : Facts) (request : Json) : Server × Outcome :=
  let outcome := server.core.dispatchValue (server.context facts) request
  ({ server with core := outcome.core }.carryOutAll outcome.effects, outcome)

/-! ## §3 Reports -/

/-- Takes in a report of the engine. -/
def report (server : Server) (report : Job.Report) : Server :=
  if server.listening then
    let change := server.core.applyReport report
    { server with core := change.core }.carryOutAll change.effects
  else server

/-- Lets some milliseconds pass. -/
def pass (server : Server) (ms : Nat) : Server :=
  let (engine, reports) := server.engine.advance ms
  reports.foldl report { server with engine := engine }

/-- Takes in all that is reported without the clock moving. -/
def settle (server : Server) : Server := server.pass 0

/-- Whether a job is still expected to go on. -/
def hasLiveJob (server : Server) : Bool := server.core.jobs.records.any (!·.status.isFinal)

/-! ## §4 Observers -/

/-- Enters an observer, whose first message is the state at that time; also gives its number. -/
def subscribe (server : Server) : Server × Nat :=
  let (bus, id) := server.bus.subscribe (.initialState server.core.snapshot)
  ({ server with bus := bus }, id)

/-- Stops the engine, takes in no more reports, and cuts off the observers. -/
def shutDown (server : Server) : Server :=
  { server with engine := server.engine.shutDown, listening := false, bus := server.bus.close }

end Server

end Coordination
