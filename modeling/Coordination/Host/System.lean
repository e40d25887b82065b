/-
Coordination.Host.System — what the program asks of the system it runs on.
-/
import Coordination.Connection.Verify
import Coordination.Dataset.Prepare

namespace Coordination

/-- The files and addresses that a program can reach, in some monad. What fails gives a reason. -/
structure Host (m : Type → Type) where
  /-- What is found at a path. -/
  status : String → m Dataset.FileStatus
  /-- The contents of a file. -/
  read : String → m (Except String ByteArray)
  /-- Puts a text in a file and drops what was in it. -/
  write : String → String → m (Except String Unit)
  /-- Makes a directory, and all the directories above it that are missing. -/
  makeDirectories : String → m (Except String Unit)
  /-- The reason why nobody answers at an address, if nobody does. -/
  knock : Connection.Address → m (Option String)

end Coordination
