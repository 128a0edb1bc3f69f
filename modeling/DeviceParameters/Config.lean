import DeviceParameters.Storage.ImageNvm
import DeviceParameters.Storage.Volume

/-!
# Configuration

Which medium a store uses and how that medium is described. A configuration always describes
both media; the platform says which of the two is opened. Where no platform is named, the build
decides: it was made for one of them, for both, or for none.
-/

namespace DeviceParameters

/-- The kinds of hardware that have a parameter store. -/
inductive Platform where
  /-- A microcontroller with a flash partition. -/
  | flash
  /-- A board whose only memory is on the attached radio module. -/
  | radio
  deriving DecidableEq, Repr

namespace Platform

/-- The name of a platform in events. -/
def label : Platform → String
  | .flash => "FlashFs"
  | .radio => "RadioNvm"

/-- The name of the store of a platform. -/
def backend : Platform → String
  | .flash => "flash-fs"
  | .radio => "radio-nvm"

end Platform

/-- The platforms for which the program was built. -/
structure Build where
  flash : Bool
  radio : Bool
  deriving DecidableEq, Repr

/-- The build that is made unless another is asked for. -/
def Build.standard : Build := ⟨true, false⟩

namespace Platform

/-- The platform for which a build stands, if there is one; the radio platform comes first. -/
def current (build : Build) : Option Platform :=
  if build.radio then some .radio
  else if build.flash then some .flash
  else none

/-- The platform of the standard build. -/
def preferred : Platform := .flash

theorem current_standard : current .standard = some preferred := rfl

end Platform

/-- How the media are described. -/
structure Config where
  /-- The root of the flash volume. -/
  volumeRoot : Path
  /-- The capacity of the flash volume. -/
  volumeCapacity : Nat
  /-- Whether a root that does not mount is formatted. -/
  mayFormat : Bool
  /-- The image of the radio module's memory. -/
  imagePath : Path
  /-- The least size of that image. -/
  imageSize : Nat
  deriving DecidableEq

/-- The configuration that is used where nothing else is asked for. -/
def Config.standard : Config where
  volumeRoot := .ofText "spiffs"
  volumeCapacity := defaultCapacity
  mayFormat := true
  imagePath := .ofText "nvm.bin"
  imageSize := defaultImageSize

end DeviceParameters
