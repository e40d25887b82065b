/-
Coordination.Main — the program on a real system.

Only this module does input and output; what is done is decided in
`Cli.run`. Network connections cannot be opened here, so that every
cluster is reported as unreachable.
-/
import Coordination.Cli.Program

namespace Coordination.Console

/-- The reason of a failed call, with the number that the system gives it. -/
def reasonOf : IO.Error → String
  | .noFileOrDirectory _ code details => details ++ " (os error " ++ toString code ++ ")"
  | .permissionDenied _ code details => details ++ " (os error " ++ toString code ++ ")"
  | .alreadyExists _ code details => details ++ " (os error " ++ toString code ++ ")"
  | .inappropriateType _ code details => details ++ " (os error " ++ toString code ++ ")"
  | error => toString error

/-- Turns a failed call into a reason. -/
def attempt {α : Type} (call : IO α) : IO (Except String α) := do
  match ← call.toBaseIO with
  | .ok value => return .ok value
  | .error error => return .error (reasonOf error)

/-- What is found at a path, behind all links. -/
def statusOf (path : String) : IO Dataset.FileStatus := do
  match ← attempt (do (← IO.FS.realPath path).metadata) with
  | .error reason => return .unavailable reason
  | .ok data => match data.type with
    | .file => return .regular data.byteSize.toNat
    | _ => return .irregular

/-- The system that the program was started on. -/
def system : Host IO where
  status := statusOf
  read path := attempt (IO.FS.readBinFile path)
  write path text := attempt (IO.FS.writeFile path text)
  makeDirectories path := if path.isEmpty then return .ok () else attempt (IO.FS.createDirAll path)
  knock _ := return some "network connections cannot be opened"

/-- The number of processors, at least one. -/
def countCores : IO Nat := do
  match ← attempt (IO.FS.lines "/proc/cpuinfo") with
  | .ok lines => return max 1 (lines.toList.filter (·.startsWith "processor")).length
  | .error _ => return 1

/-- A number of random bytes. -/
def randomNat (bytes : USize) : IO Nat := do
  return (← IO.getRandomBytes bytes).foldl (fun n byte => 256 * n + byte.toNat) 0

end Coordination.Console

open Coordination Console in
def main (arguments : List String) : IO UInt32 := do
  let seed ← randomNat 16
  let setup : Cli.Setup :=
    { around := { home := ← IO.getEnv "HOME", cores := ← countCores }
      cwd := (← IO.currentDir).toString
      jobIds := fun n => ⟨Uuid.ofRandom (seed + n)⟩ }
  let result ← Cli.run system setup arguments
  IO.print result.stdout
  IO.eprint result.stderr
  return result.exit.toUInt32
