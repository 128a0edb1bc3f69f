import DeviceParameters.Config
import DeviceParameters.Slot.Table
import DeviceParameters.Text.Json

/-!
# Usage of a medium

How large a medium is and how much of it is in use. The report only looks: a root that is not
mounted is not formatted, and an image that is missing or short is neither made nor extended.
The tree is not part of the result, so a report cannot have changed it.
-/

namespace DeviceParameters

/-- How much of a medium is in use. -/
structure Usage where
  backend : String
  path : String
  totalBytes : Nat
  usedBytes : Nat
  deriving DecidableEq, Repr

namespace Usage

/-- The usage of the medium that a platform has under a configuration. -/
def gather (tree : FileTree) (platform : Platform) (config : Config) :
    Except StorageError Usage :=
  match platform with
  | .flash => do
    let volume ← Volume.mount tree config.volumeRoot config.volumeCapacity
    let used ← volume.usedBytes tree
    .ok ⟨platform.backend, volume.root.display, volume.capacity, used⟩
  | .radio => do
    let nvm ← ImageNvm.openExisting tree config.imagePath
    .ok ⟨platform.backend, nvm.path.display, nvm.size, Slot.tableSize⟩

/-- A usage report as a record. -/
def toRecord (usage : Usage) : Json.Record :=
  [("backend", .text usage.backend), ("path", .text usage.path),
    ("total_bytes", .number usage.totalBytes), ("used_bytes", .number usage.usedBytes)]

end Usage

end DeviceParameters
