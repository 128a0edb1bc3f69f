import DeviceParameters.File.Name
import DeviceParameters.Reply

/-!
# The file store

Parameters in the files of a flash volume, one file a key. Any accepted key can be set, and a
value is stored whole or not at all.

The volume is mounted when the store is made, formatted if need be and allowed. A store whose
volume could not be mounted is made all the same: it stays without a medium, whatever happens
on the host later, and every call on it is refused. The key is looked at before the medium.
-/

namespace DeviceParameters

/-- Parameters in the files of a volume, if one was mounted. -/
structure FileStore where
  volume : Option Volume
  deriving DecidableEq

namespace FileStore

/-- The name of this kind of store. -/
def backend : String := Platform.flash.backend

/-- What is reported about the space in use of a volume. -/
def usageEvent (tree : FileTree) (volume : Volume) : Event :=
  match volume.usedBytes tree with
  | .ok used => .usage volume.capacity used
  | .error error => .usageFailed error

/-- Mount the volume of a configuration. The tree can change even where no volume is mounted. -/
def ofConfig (tree : FileTree) (config : Config) : FileTree × FileStore × List Event :=
  match Volume.mountOrFormat tree config.volumeRoot config.volumeCapacity config.mayFormat with
  | (reached, .ok (volume, formatted)) =>
    (reached, ⟨some volume⟩,
      (if formatted then [.formatted volume.root] else []) ++ [usageEvent reached volume])
  | (reached, .error error) => (reached, ⟨none⟩, [.mountFailed config.volumeRoot error])

/-- Whether the store has its volume. -/
def isMounted (store : FileStore) : Bool := store.volume.isSome

/-- Set a parameter. -/
def set (tree : FileTree) (store : FileStore) (key value : String) :
    Reply FileTree SetOutcome :=
  match FileName.ofKey key with
  | .error error => ⟨.error error, tree, []⟩
  | .ok name =>
    match store.volume with
    | none => ⟨.error .unmounted, tree, []⟩
    | some volume =>
      match volume.write tree name (Utf8.bytes value) with
      | .error cause => ⟨.error (.storage cause), tree, [.fileWriteFailed key cause]⟩
      | .ok written => ⟨.ok .stored, written, []⟩

/-- Read a parameter. -/
def get (tree : FileTree) (store : FileStore) (key : String) : Answer String :=
  match FileName.ofKey key with
  | .error error => ⟨.error error, []⟩
  | .ok name =>
    match store.volume with
    | none => ⟨.error .unmounted, []⟩
    | some volume =>
      match volume.read tree name with
      | .error cause => ⟨.error (.storage cause), [.fileReadFailed key cause]⟩
      | .ok none => ⟨.error (.keyNotFound key), [.fileMissing key]⟩
      | .ok (some contents) =>
        match Utf8.text contents with
        | .error fault => ⟨.error (.invalidValue key (.encoding fault)), []⟩
        | .ok value => ⟨.ok value, []⟩

/-- The keys that have a file, in the byte order of the file names. -/
def keys (tree : FileTree) (store : FileStore) : Except ParameterError (List String) :=
  match store.volume with
  | none => .error .unmounted
  | some volume =>
    match volume.list tree with
    | .error cause => .error (.storage cause)
    | .ok names => .ok (names.filterMap FileName.key?)

end FileStore

end DeviceParameters
