import DeviceParameters.Store

/-!
# Opening a store

A platform and a configuration give a store. On the radio platform the image must open and
have room for the slot table; on the flash platform a store is always made, and one whose
volume did not mount refuses its calls. A build for no platform opens nothing by itself.
-/

namespace DeviceParameters.ParameterStore

/-- A slot store on a device. -/
def ofDevice (device : Device) : Except ParameterError ParameterStore :=
  match SlotStore.ofDevice device with
  | .error error => .error error
  | .ok store => .ok (.slots store)

/-- Open the image of a configuration as a slot store. -/
def openImage (tree : FileTree) (config : Config) :
    FileTree × Except ParameterError ParameterStore :=
  match ImageNvm.openSized tree config.imagePath config.imageSize with
  | (reached, .error cause) => (reached, .error (.storage cause))
  | (reached, .ok nvm) => (reached, ofDevice (.ofImage nvm))

/-- Open the store of a platform. -/
def openFor (tree : FileTree) (platform : Platform) (config : Config) :
    Reply FileTree ParameterStore :=
  match platform with
  | .flash =>
    let (reached, store, events) := FileStore.ofConfig tree config
    ⟨.ok (.files store), reached, .opening platform :: events⟩
  | .radio =>
    let (reached, result) := openImage tree config
    ⟨result, reached, [.opening platform]⟩

/-- Open the store of the platform for which a build stands. -/
def openCurrent (tree : FileTree) (build : Build) (config : Config) :
    Reply FileTree ParameterStore :=
  match Platform.current build with
  | none => ⟨.error .unsupportedPlatform, tree, []⟩
  | some platform => openFor tree platform config

/-- Open the store of the standard build. -/
def openPreferred (tree : FileTree) (config : Config) : Reply FileTree ParameterStore :=
  openCurrent tree .standard config

end DeviceParameters.ParameterStore
