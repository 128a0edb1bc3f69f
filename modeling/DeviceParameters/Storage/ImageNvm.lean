import DeviceParameters.Host.Files
import DeviceParameters.Host.Directories
import DeviceParameters.Storage.MemoryNvm

/-!
# Image devices

An image device keeps its bytes in a file of the host. Its size is settled when it is
opened: opening extends a shorter file with zeros and never shortens a longer one.

The host may resize the file behind an open image. A read beyond the real end then fails,
and never gives invented bytes; a write beyond it extends the file, with zeros in the gap.
The bounds of the device itself are those of a memory device of the same size.
-/

namespace DeviceParameters

/-- The size of an image when none is asked for. -/
def defaultImageSize : Nat := 256

/-- No host makes a file longer than this. What a single host refuses below it is not modelled. -/
def maximumFileLength : Nat := 9223372036854775807

/-- An open image file. -/
structure ImageNvm where
  path : Path
  handle : FileHandle
  /-- The size of the device, settled when it was opened. -/
  size : Nat
  deriving DecidableEq

namespace ImageNvm

/-- Make the directories above an image. -/
def house (tree : FileTree) (path : Path) : FileTree × Except HostError Unit :=
  match path.parent? with
  | none => (tree, .ok ())
  | some parent => tree.makeDirectoryAll parent

/-- Open an image of at least `size` bytes, making it and the directories above it where
they are missing. What was made before a failure stays. -/
def openSized (tree : FileTree) (path : Path) (size : Nat) :
    FileTree × Except StorageError ImageNvm :=
  match house tree path with
  | (housed, .error cause) => (housed, .error (.io cause))
  | (housed, .ok ()) =>
    match housed.openOrCreate path with
    | .error cause => (housed, .error (.io cause))
    | .ok (opened, handle) =>
      let contents := opened.contents handle
      if size ≤ contents.length then (opened, .ok ⟨path, handle, contents.length⟩)
      else if maximumFileLength < size then (opened, .error (.io .lengthTooLarge))
      else (opened.setContents handle (contents.resize size), .ok ⟨path, handle, size⟩)

/-- Open an image that exists, as large as it is. -/
def openExisting (tree : FileTree) (path : Path) : Except StorageError ImageNvm :=
  match tree.openExisting path with
  | .error cause => .error (.io cause)
  | .ok handle => .ok ⟨path, handle, (tree.contents handle).length⟩

/-- Read a range. An empty range within the device is read without the file. -/
def readAt (tree : FileTree) (nvm : ImageNvm) (offset length : Nat) :
    Except StorageError Bytes :=
  if InBounds offset length nvm.size then
    if length = 0 then .ok []
    else if InBounds offset length (tree.contents nvm.handle).length then
      .ok ((tree.contents nvm.handle).slice offset length)
    else .error (.io .shortRead)
  else .error (.readPastEnd offset length nvm.size)

/-- Write a range. Writing nothing within the device leaves the file alone. -/
def writeAt (tree : FileTree) (nvm : ImageNvm) (offset : Nat) (data : Bytes) :
    Except StorageError FileTree :=
  if InBounds offset data.length nvm.size then
    if data = [] then .ok tree
    else .ok (tree.setContents nvm.handle ((tree.contents nvm.handle).overwrite offset data))
  else .error (.writePastEnd offset data.length nvm.size)

end ImageNvm

end DeviceParameters
