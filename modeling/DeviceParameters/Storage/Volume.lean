import DeviceParameters.Host.Files
import DeviceParameters.Host.Directories
import DeviceParameters.Storage.Error

/-!
# Flash volumes

A volume is a flat file system in a directory of the host, with a capacity. The space in
use is the sum of the lengths of the files directly in the root; directories and what is in
them do not count. It is counted in words of 64 bits: a sum for which a word is too small wraps
round, and so says less than is in use.

Mounting only looks. Formatting removes whatever stands at the root and makes it an empty
directory; mounting with leave to format does so only where no directory stands. A write is
checked against the capacity before the file is opened, with the space of the file that it
replaces counted as free, so a write that is refused leaves the old contents.

A volume keeps nothing open: every operation looks the root up again.
-/

namespace DeviceParameters

/-- The capacity of a volume when none is asked for. -/
def defaultCapacity : Nat := 0x170000

/-- A mounted volume. -/
structure Volume where
  root : Path
  capacity : Nat
  deriving DecidableEq

namespace Volume

/-- Mount the directory at a root. -/
def mount (tree : FileTree) (root : Path) (capacity : Nat) : Except StorageError Volume :=
  if tree.isDirectory root then .ok ⟨root, capacity⟩
  else .error (.notMounted (.noFileSystem root.display))

/-- Remove whatever a root names. -/
def clear (tree : FileTree) (root : Path) : FileTree × Except HostError Unit :=
  if tree.isDirectory root then tree.removeDirectoryAll root
  else if tree.isPresent root then
    match tree.removeFile root with
    | .error cause => (tree, .error cause)
    | .ok removed => (removed, .ok ())
  else (tree, .ok ())

/-- Remove what stands at a root, make it an empty directory and mount that. -/
def format (tree : FileTree) (root : Path) (capacity : Nat) :
    FileTree × Except StorageError Volume :=
  match clear tree root with
  | (cleared, .error cause) => (cleared, .error (.io cause))
  | (cleared, .ok ()) =>
    match cleared.makeDirectoryAll root with
    | (made, .error cause) => (made, .error (.io cause))
    | (made, .ok ()) => (made, mount made root capacity)

/-- Mount a root, formatting it if that fails and formatting is allowed. The answer says
whether the volume was formatted. -/
def mountOrFormat (tree : FileTree) (root : Path) (capacity : Nat) (mayFormat : Bool) :
    FileTree × Except StorageError (Volume × Bool) :=
  match mount tree root capacity with
  | .ok volume => (tree, .ok (volume, false))
  | .error error =>
    if mayFormat then
      match format tree root capacity with
      | (formatted, .error cause) => (formatted, .error cause)
      | (formatted, .ok volume) => (formatted, .ok (volume, true))
    else (tree, .error error)

/-- The files directly in the root, with their contents. -/
def files (tree : FileTree) (volume : Volume) : Except StorageError (List (Name × Bytes)) :=
  match tree.listDirectory volume.root with
  | .error cause => .error (.io cause)
  | .ok listed => .ok (listed.filterMap fun entry =>
      entry.2.contents?.map fun contents => (entry.1, contents))

/-- How many numbers a word has. -/
def wordLimit : Nat := 18446744073709551616

/-- A sum of two numbers in a word, where one that is too large wraps round. -/
def wordSum (left right : Nat) : Nat := (left + right) % wordLimit

/-- The space in use, counted file after file. -/
def usedBytes (tree : FileTree) (volume : Volume) : Except StorageError Nat := do
  let files ← volume.files tree
  .ok (files.foldl (fun used file => wordSum used file.2.length) 0)

/-- The path of a file on the volume. -/
def pathFor (volume : Volume) (name : String) : Path := volume.root.join (.ofText name)

/-- The space that replacing what a path names would set free. -/
def replacedLength (tree : FileTree) (path : Path) : Except StorageError Nat :=
  match tree.stat path with
  | .ok node => .ok (FileTree.reportedLength node)
  | .error .notFound => .ok 0
  | .error cause => .error (.io cause)

/-- Create or truncate a file and write its contents, if they fit. -/
def write (tree : FileTree) (volume : Volume) (name : String) (contents : Bytes) :
    Except StorageError FileTree := do
  let path := volume.pathFor name
  let existing ← replacedLength tree path
  let used ← volume.usedBytes tree
  let available := volume.capacity - (used - existing)
  if available < contents.length then .error (.noSpace contents.length available)
  else match tree.writeFile path contents with
    | .error cause => .error (.io cause)
    | .ok written => .ok written

/-- The contents of a file, if there is one. -/
def read (tree : FileTree) (volume : Volume) (name : String) :
    Except StorageError (Option Bytes) :=
  match tree.readFile (volume.pathFor name) with
  | .ok contents => .ok (some contents)
  | .error .notFound => .ok none
  | .error cause => .error (.io cause)

/-- The names of the files directly in the root that are text, in byte order. -/
def list (tree : FileTree) (volume : Volume) : Except StorageError (List String) := do
  let files ← volume.files tree
  .ok (((files.map Prod.fst).mergeSort FileTree.listedBefore).filterMap Utf8.text?)

end Volume

end DeviceParameters
