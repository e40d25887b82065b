/-
Coordination.Connection.Spec — the compute resource a server is attached to.

A server works either with a pool of local workers or with a remote
cluster, and is attached to at most one of them at a time.
-/
import Coordination.Json.Record

namespace Coordination

namespace Connection

/-- What a client asks the server to attach to. -/
inductive Spec where
  /-- A local pool with a number of workers. -/
  | pool (workers : Nat)
  /-- A cluster scheduler at an address. -/
  | cluster (address : String)
  deriving DecidableEq, Repr

namespace Spec

/-- A short name of the kind of resource. -/
def kind : Spec → String
  | pool _ => "local"
  | cluster _ => "cluster"

def toJson : Spec → Json
  | pool workers => .obj [("type", .str "local"), ("numWorkers", .ofNat workers)]
  | cluster address => .obj [("type", .str "tcp"), ("address", .str address)]

/-- The spellings of the two kinds. -/
def tags : List (List String) := [["local", "LOCAL"], ["tcp", "TCP", "cluster", "CLUSTER"]]

def ofJson? (place : Json.Place) (json : Json) : Option Spec := do
  match ← json.choice? place "type" tags with
  | (0, body) => match ← body.fields? ["numWorkers"] with
    | [some workers] => return pool (← workers.nat?)
    | _ => none
  | (1, body) => match ← body.fields? ["address"] with
    | [some address] => return cluster (← address.string?)
    | _ => none
  | _ => none

end Spec

end Connection

/-- The current attachment. -/
inductive Connection where
  | disconnected
  | connected (spec : Connection.Spec)
  deriving DecidableEq, Repr

namespace Connection

def isConnected : Connection → Bool
  | disconnected => false
  | connected _ => true

def spec? : Connection → Option Spec
  | disconnected => none
  | connected spec => some spec

/-- The attachment as a value: the spec, or an object with no fields. -/
def body : Connection → Json
  | disconnected => .empty
  | connected spec => spec.toJson

/-- The answer to a question about the connection. -/
def status : Connection → Json
  | disconnected => .obj [("status", .str "disconnected"), ("connection", .empty)]
  | connected spec => .obj [("status", .str "ok"), ("connection", spec.toJson)]

/-- Detaches; also tells whether there was anything to detach from. -/
def disconnect (connection : Connection) : Connection × Bool :=
  (disconnected, connection.isConnected)

/-- Attaches to a checked spec; also gives the attachment it replaces. -/
def attach (connection : Connection) (spec : Spec) : Connection × Connection :=
  (connected spec, connection)

end Connection

end Coordination
