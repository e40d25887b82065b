/-
Coordination.Dataset.Prepare — checks before a dataset is registered.

The geometry is checked first, then, for a dataset in a file, whether its
size can be counted in 64 bits, whether the file can be reached, and
whether it is large enough. The first check that fails names the error.

  §1 Geometry     — `Params.geometry?`, the shape of a sound description.
  §2 Size         — `Params.byteSize?`.
  §3 Preparation  — `prepare`, given what is known of the file.
-/
import Coordination.Dataset.Params

namespace Coordination.Dataset

/-- Why a dataset cannot be registered or found. -/
inductive Problem where
  | invalid (reason : String)
  | unreachable (path reason : String)
  | tooSmall (path : String) (expected actual : Nat)
  | notFound (id : DatasetId)
  deriving DecidableEq, Repr

def Problem.text : Problem → String
  | invalid reason => reason
  | unreachable path reason => "cannot access " ++ path ++ ": " ++ reason
  | tooSmall path expected actual =>
    path ++ " holds " ++ toString actual ++ " bytes, geometry requires " ++ toString expected
  | notFound id => "dataset " ++ id.toString ++ " not found"

/-! ## §1 Geometry -/

/-- The shape of the whole, scan grid first: there is at least one scan dimension and there are
two detector dimensions, and none of them is zero. -/
def Params.geometry? (params : Params) : Except Problem (List Nat) :=
  if params.scanSize.isEmpty then
    .error (.invalid "scan_size must have at least one dimension")
  else if params.detectorSize.length ≠ 2 then
    .error (.invalid
      ("detector_size must have 2 dimensions, got " ++ toString params.detectorSize.length))
  else if 0 ∈ params.scanSize then .error (.invalid "scan_size entries must be positive")
  else if 0 ∈ params.detectorSize then .error (.invalid "detector_size entries must be positive")
  else .ok (params.scanSize ++ params.detectorSize)

/-! ## §2 Size -/

/-- A number as a word of 64 bits, if it has no more. -/
def word? (n : Nat) : Option UInt64 := if n < Nat.pow 2 64 then some (.ofNat n) else none

/-- Multiplies up 64-bit words. The product `*` of words wraps, so it is taken only where the exact
product is a word. -/
def wordProduct? (acc : UInt64) : List UInt64 → Option UInt64
  | [] => some acc
  | word :: rest =>
    if acc.toNat * word.toNat < Nat.pow 2 64 then wordProduct? (acc * word) rest else none

/-- The bytes that a dataset of a shape takes. -/
def Params.byteSize? (params : Params) (shape : List Nat) : Except Problem Nat :=
  match (shape.mapM word?).bind (wordProduct? (.ofNat params.dtype.size)) with
  | some size => .ok size.toNat
  | none => .error (.invalid "dataset size overflows")

/-! ## §3 Preparation -/

/-- What is known of a file before it is opened. -/
inductive FileStatus where
  /-- It could not be looked at. -/
  | unavailable (reason : String)
  /-- A directory or a device. -/
  | irregular
  | regular (size : Nat)
  deriving DecidableEq, Repr

/-- Whether a file holds a dataset of a size. -/
def checkFile (path : String) (expected : Nat) : FileStatus → Except Problem Unit
  | .unavailable reason => .error (.unreachable path reason)
  | .irregular => .error (.unreachable path "not a regular file")
  | .regular size => if size < expected then .error (.tooSmall path expected size) else .ok ()

/-- The record to register under an identifier, given what is known of the file. -/
def prepare (id : DatasetId) (params : Params) (file : FileStatus) : Except Problem Dataset := do
  let shape ← params.geometry?
  match params.path? with
  | some path =>
    let expected ← params.byteSize? shape
    checkFile path expected file
  | none => pure ()
  return ⟨id, params, shape⟩

end Coordination.Dataset
