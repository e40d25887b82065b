/-
Coordination.Dataset.Registry — the registered datasets.

They are listed in the order of registration. Registering under an
identifier that is taken replaces the dataset and moves it to the end,
since for clients the replacement is a new dataset.
-/
import Coordination.Dataset.Prepare
import Coordination.Roster

namespace Coordination

instance : Keyed Dataset DatasetId := ⟨Dataset.id⟩

namespace Dataset

/-- The registered datasets in the order of their registration. -/
structure Registry where
  datasets : List Dataset := []
  deriving DecidableEq, Repr

namespace Registry

def get? (registry : Registry) (id : DatasetId) : Option Dataset :=
  Roster.find? id registry.datasets

def contains (registry : Registry) (id : DatasetId) : Bool :=
  Roster.contains id registry.datasets

def ids (registry : Registry) : List DatasetId := Roster.keys registry.datasets

/-- Stores a dataset last; also gives the one it replaces. -/
def insert (registry : Registry) (dataset : Dataset) : Registry × Option Dataset :=
  (⟨Roster.renew dataset registry.datasets⟩, registry.get? dataset.id)

/-- Drops a dataset and gives it. -/
def remove (registry : Registry) (id : DatasetId) : Except Problem (Registry × Dataset) :=
  match registry.get? id with
  | some dataset => .ok (⟨Roster.erase id registry.datasets⟩, dataset)
  | none => .error (.notFound id)

end Registry

end Dataset

end Coordination
