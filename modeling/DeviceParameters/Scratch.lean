import DeviceParameters.Opening

/-!
# Scratch stores

A store on a medium of its own that goes when the store goes. A scratch store in memory holds
everything itself; one on the host has a new directory at the top of the tree, which nothing
else uses, and can be opened again on the same medium as after a power cycle.
-/

namespace DeviceParameters

/-- The size of a scratch device. -/
def scratchSize : Nat := 256

/-- The capacity of a scratch volume. -/
def scratchCapacity : Nat := 65536

/-- A store and, where it has one, its directory. -/
structure ScratchStore where
  store : ParameterStore
  directory : Option Place
  deriving DecidableEq

namespace ScratchStore

/-- The configuration of a medium in a directory. -/
def configIn (directory : Place) : Config where
  volumeRoot := .build true (directory ++ [Utf8.bytes "spiffs"])
  volumeCapacity := scratchCapacity
  mayFormat := true
  imagePath := .build true (directory ++ [Utf8.bytes "nvm.bin"])
  imageSize := scratchSize

/-- A scratch store on a memory device. -/
def inMemory (nvm : MemoryNvm) : Except ParameterError ScratchStore :=
  match ParameterStore.ofDevice (.ofMemory nvm) with
  | .error error => .error error
  | .ok store => .ok ⟨store, none⟩

/-- The name of a directory for a scratch store. -/
def directoryName (number : Nat) : Name := Utf8.bytes s!"scratch-{number}"

/-- Make a directory for a scratch store. -/
def makeDirectory (tree : FileTree) : FileTree × Place :=
  let directory := [directoryName tree.nextSerial]
  ({ tree.putDirectory directory with nextSerial := tree.nextSerial + 1 }, directory)

/-- Open the store of a platform in a directory. -/
def openIn (tree : FileTree) (platform : Platform) (directory : Place) :
    Reply FileTree ScratchStore :=
  let reply := ParameterStore.openFor tree platform (configIn directory)
  ⟨reply.result.map fun store => ⟨store, some directory⟩, reply.state, reply.events⟩

/-- A scratch store on the host. -/
def onHost (tree : FileTree) (platform : Platform) : Reply FileTree ScratchStore :=
  let (made, directory) := makeDirectory tree
  openIn made platform directory

/-- The platform of a store. -/
def platform (scratch : ScratchStore) : Platform :=
  match scratch.store with
  | .slots _ => .radio
  | .files _ => .flash

/-- Open a scratch store again on its medium; one in memory has nothing to be opened. -/
def reopen (tree : FileTree) (scratch : ScratchStore) : Option (Reply FileTree ScratchStore) :=
  scratch.directory.map fun directory => openIn tree scratch.platform directory

/-- Remove the medium of a scratch store. -/
def discard (tree : FileTree) (scratch : ScratchStore) : FileTree :=
  match scratch.directory with
  | none => tree
  | some directory => tree.remove directory

end ScratchStore

end DeviceParameters
