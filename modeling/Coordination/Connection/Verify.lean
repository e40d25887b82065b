/-
Coordination.Connection.Verify — checks before a connection is made.

A pool needs at least one worker. A cluster needs an address of the form
`tcp://host:port`, and something has to answer there. The checks change
nothing: only a spec that passes them is ever attached.

  §1 Addresses  — `Address.ofString?`.
  §2 Checks     — `Spec.target`, `verify`.
-/
import Coordination.Connection.Spec
import Coordination.Text.Blank
import Coordination.Text.Numeral

namespace Coordination.Connection

/-! ## §1 Addresses -/

/-- A host and a port. -/
structure Address where
  host : String
  port : Nat
  deriving DecidableEq, Repr

namespace Address

/-- Splits a text at its last colon. -/
def splitLast? (cs : List Char) : Option (List Char × List Char) :=
  let port := (cs.reverse.takeWhile (· ≠ ':')).reverse
  match cs.reverse.dropWhile (· ≠ ':') with
  | [] => none
  | _ :: host => some (host.reverse, port)

/-- A text without the scheme `tcp://`. -/
def withoutScheme (cs : List Char) : List Char :=
  let scheme := "tcp://".toList
  if cs.take scheme.length = scheme then cs.drop scheme.length else cs

/-- A host without the opening brackets before it and the closing brackets after it. -/
def unbracket (cs : List Char) : List Char :=
  ((cs.dropWhile (· = '[')).reverse.dropWhile (· = ']')).reverse

/-- Reads `tcp://host:port`, where the scheme may be left out. White space around the whole is
ignored. The host is not empty and has no slash in it; brackets around it are removed. -/
def ofChars? (cs : List Char) : Option Address :=
  match splitLast? (withoutScheme (Text.trim cs)) with
  | none => none
  | some (host, port) =>
    if host.isEmpty ∨ '/' ∈ host then none
    else match Text.numeral? (Nat.pow 2 16) port with
      | some 0 => none
      | some n => some ⟨String.ofList (unbracket host), n⟩
      | none => none

def ofString? (s : String) : Option Address := ofChars? s.toList

end Address

/-! ## §2 Checks -/

/-- Why a connection cannot be made. -/
inductive Problem where
  | invalidSpec (reason : String)
  | unreachable (address reason : String)
  deriving DecidableEq, Repr

def Problem.text : Problem → String
  | invalidSpec reason => "invalid connection spec: " ++ reason
  | unreachable address reason => "cluster at " ++ address ++ " is unreachable: " ++ reason

/-- Where to knock before attaching; nowhere for a pool. -/
def Spec.target : Spec → Except Problem (Option Address)
  | .pool 0 => .error (.invalidSpec "numWorkers must be a positive integer")
  | .pool _ => .ok none
  | .cluster address => match Address.ofString? address with
    | some target => .ok (some target)
    | none =>
      .error (.invalidSpec ("address '" ++ address ++ "' is not of the form tcp://host:port"))

/-- Checks a spec, given what knocking at its address brought: nothing, or the reason why nobody
answered. -/
def verify (spec : Spec) (unreachable : Option String) : Except Problem Unit := do
  match spec, ← spec.target, unreachable with
  | .cluster address, some _, some reason => .error (.unreachable address reason)
  | _, _, _ => .ok ()

end Coordination.Connection
