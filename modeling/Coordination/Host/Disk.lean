/-
Coordination.Host.Disk — a tree of files in memory.

A disk behaves as a file system without links: a path is followed piece
by piece from the root or from the working directory, and every piece but
the last has to be a directory. The nodes of the tree are numbered in the
order in which they were made, the root with zero; a directory knows its
parent and has a number for each of its names. Zero bytes at the end of a
file take no room until the file is read, so a disk can hold files of any
length.

  §1 Disk        — `Disk`, `Node`, `Contents`, `Failure`.
  §2 Paths       — `find`, `target`.
  §3 Operations  — `status`, `read`, `write`, `makeDirectories`, `files`.
  §4 Host        — `Disk.host`, a host that has only a disk.
-/
import Coordination.Host.System
import Coordination.Text.Path

namespace Coordination

/-! ## §1 Disk -/

namespace Disk

/-- The contents of a file: bytes, and zero bytes behind them that are only counted. -/
structure Contents where
  bytes : ByteArray := .empty
  zeros : Nat := 0

/-- The length of a file. -/
def Contents.size (contents : Contents) : Nat := contents.bytes.size + contents.zeros

/-- All bytes of a file. -/
def Contents.toBytes (contents : Contents) : ByteArray :=
  contents.bytes ++ ByteArray.mk (Array.replicate contents.zeros 0)

inductive Node where
  /-- A directory with the numbers of its parent and of what is in it. The root is its own parent. -/
  | directory (parent : Nat) (names : List (List Char × Nat))
  | file (contents : Contents)
  /-- A device that holds nothing and takes everything. -/
  | device

/-- Why an operation fails. -/
inductive Failure where
  | notFound
  | fileExists
  | notDirectory
  | isDirectory
  | nameTooLong
  | outOfMemory
  /-- A path with a zero character names nothing. -/
  | zeroCharacter
  deriving DecidableEq, Repr

def Failure.text : Failure → String
  | notFound => "No such file or directory (os error 2)"
  | fileExists => "File exists (os error 17)"
  | notDirectory => "Not a directory (os error 20)"
  | isDirectory => "Is a directory (os error 21)"
  | nameTooLong => "File name too long (os error 36)"
  | outOfMemory => "Cannot allocate memory (os error 12)"
  | zeroCharacter => "file name contained an unexpected NUL byte"

end Disk

/-- The nodes of a tree by their numbers, and the number of the working directory. -/
structure Disk where
  nodes : Array Disk.Node := #[.directory 0 []]
  cwd : Nat := 0

namespace Disk

/-- Adds a node to a directory under a name that is not taken. -/
def add (disk : Disk) (place : Nat) (name : List Char) (node : Node) : Disk :=
  match disk.nodes[place]? with
  | some (.directory parent names) =>
    let extended := Node.directory parent (names ++ [(name, disk.nodes.size)])
    { disk with nodes := (disk.nodes.setIfInBounds place extended).push node }
  | _ => disk

/-! ## §2 Paths -/

/-- The length of a text in bytes. -/
def byteLength (text : List Char) : Nat := (String.ofList text).utf8ByteSize

/-- What a name stands for in a directory. -/
def enter (disk : Disk) (place : Nat) (piece : List Char) : Except Failure Nat :=
  match disk.nodes[place]? with
  | some (.directory parent names) =>
    if piece = [] ∨ piece = ['.'] then .ok place
    else if piece = ['.', '.'] then .ok parent
    else if 255 < byteLength piece then .error .nameTooLong
    else match names.find? (·.1 = piece) with
      | some (_, number) => .ok number
      | none => .error .notFound
  | some _ => .error .notDirectory
  | none => .error .notFound

/-- Follows pieces from a place. -/
def follow (disk : Disk) (place : Nat) : List (List Char) → Except Failure Nat
  | [] => .ok place
  | piece :: rest => match disk.enter place piece with
    | .ok next => disk.follow next rest
    | .error failure => .error failure

/-- The pieces of a path that can name something. -/
def pieces (path : List Char) : Except Failure (List (List Char)) :=
  if '\x00' ∈ path then .error .zeroCharacter
  else if path = [] then .error .notFound
  else if 4096 ≤ byteLength path then .error .nameTooLong
  else .ok (Text.split '/' path)

/-- Where a path starts. -/
def origin (disk : Disk) (path : List Char) : Nat :=
  if Text.Path.isAbsolute path then 0 else disk.cwd

/-- The number of what a path names. -/
def find (disk : Disk) (path : List Char) : Except Failure Nat := do
  disk.follow (disk.origin path) (← pieces path)

/-- What a path names. -/
def resolve (disk : Disk) (path : List Char) : Except Failure Node := do
  match disk.nodes[← disk.find path]? with
  | some node => return node
  | none => .error .notFound

/-- The directory in which a path names something, and the name in it, whether there is anything of
that name or not. -/
def target (disk : Disk) (path : List Char) : Except Failure (Nat × List Char) := do
  let steps ← pieces path
  let place ← disk.follow (disk.origin path) steps.dropLast
  match disk.nodes[place]?, steps.getLast? with
  | some (.directory ..), some name =>
    if name = [] ∨ name = ['.'] ∨ name = ['.', '.'] then .error .isDirectory
    else return (place, name)
  | some _, some _ => .error .notDirectory
  | _, _ => .error .notFound

/-! ## §3 Operations -/

def status (disk : Disk) (path : List Char) : Dataset.FileStatus :=
  match disk.resolve path with
  | .ok (.file contents) => .regular contents.size
  | .ok _ => .irregular
  | .error failure => .unavailable failure.text

/-- The length of the longest file that can be read. -/
def readLimit : Nat := Nat.pow 2 23

def read (disk : Disk) (path : List Char) : Except Failure ByteArray :=
  match disk.resolve path with
  | .ok (.file contents) =>
    if contents.size ≤ readLimit then .ok contents.toBytes else .error .outOfMemory
  | .ok .device => .ok .empty
  | .ok (.directory ..) => .error .isDirectory
  | .error failure => .error failure

/-- Gives a file its contents; makes the file if there is none. -/
def write (disk : Disk) (path : List Char) (contents : Contents) : Except Failure Disk := do
  let (place, name) ← disk.target path
  match disk.enter place name with
  | .ok number => match disk.nodes[number]? with
    | some (.file _) =>
      return { disk with nodes := disk.nodes.setIfInBounds number (.file contents) }
    | some .device => return disk
    | _ => .error .isDirectory
  | .error .notFound => return disk.add place name (.file contents)
  | .error failure => .error failure

/-- Follows pieces from a directory and makes those that are missing. -/
def makeEach (disk : Disk) (place : Nat) : List (List Char) → Except Failure Disk
  | [] => .ok disk
  | piece :: rest => match disk.enter place piece with
    | .ok next => match disk.nodes[next]? with
      | some (.directory ..) => disk.makeEach next rest
      | _ => .error .fileExists
    | .error .notFound => (disk.add place piece (.directory place [])).makeEach disk.nodes.size rest
    | .error failure => .error failure

/-- Makes a directory and those above it. The empty path asks for nothing. -/
def makeDirectories (disk : Disk) (path : List Char) : Except Failure Disk := do
  if path = [] then return disk
  disk.makeEach (disk.origin path) (← pieces path)

/-- The paths of the files from a place on, down to a depth. -/
def filesFrom (disk : Disk) : (depth : Nat) → (path : List Char) → (place : Nat) → List String
  | 0, _, _ => []
  | depth + 1, path, place => match disk.nodes[place]? with
    | some (.directory _ names) => names.flatMap fun (name, number) =>
      disk.filesFrom depth (if path = [] then name else path ++ '/' :: name) number
    | some (.file _) => [String.ofList path]
    | _ => []

/-- The paths of all files in a directory and below it. A tree is not deeper than it has nodes. -/
def files (disk : Disk) (path : List Char) : List String :=
  match disk.find path with
  | .ok place => disk.filesFrom (disk.nodes.size + 1) [] place
  | .error _ => []

/-! ## §4 Host -/

/-- Carries out an operation that may change the disk. -/
def change (operation : Disk → Except Failure Disk) : StateM Disk (Except String Unit) := do
  match operation (← get) with
  | .ok disk =>
    set disk
    return .ok ()
  | .error failure => return .error failure.text

/-- A host that has only a disk, and an answer for every address. -/
def host (knock : Connection.Address → Option String) : Host (StateM Disk) where
  status path := return (← get).status path.toList
  read path := return ((← get).read path.toList).mapError Failure.text
  write path text := change fun disk => disk.write path.toList ⟨text.toUTF8, 0⟩
  makeDirectories path := change fun disk => disk.makeDirectories path.toList
  knock address := return knock address

end Disk

end Coordination
