import DeviceParameters.Config

/-!
# Invocations

What the program is asked to do: a command with what is needed for it, and the options. A path is
any bytes, and the words of a command are any texts. The medium is the one that the options name, the
image before the root; where they name none it is that of the build, if the build has one.
-/

namespace DeviceParameters.CommandLine

/-- The form of a report. -/
inductive Form where
  | text
  | json
  deriving DecidableEq, Repr

/-- The form that a word asks for; every word but one asks for text. -/
def Form.ofWord (word : String) : Form := if word = "json" then .json else .text

/-- What is to be done, with what is needed for it. -/
inductive Command where
  | set (key value : String)
  | get (key : String)
  | list (form : Form)
  | info (form : Form)
  | layout (form : Form)
  | version
  deriving DecidableEq, Repr

/-- A use of the program. -/
structure Invocation where
  root : Option Path
  image : Option Path
  capacity : Nat
  mayFormat : Bool
  verbose : Bool
  command : Command
  deriving DecidableEq

namespace Invocation

/-- The platform that an invocation works on in a build. -/
def platform? (invocation : Invocation) (build : Build) : Option Platform :=
  if invocation.image.isSome then some .radio
  else if invocation.root.isSome then some .flash
  else Platform.current build

/-- The configuration that an invocation asks for. -/
def config (invocation : Invocation) : Config where
  volumeRoot := invocation.root.getD Config.standard.volumeRoot
  volumeCapacity := invocation.capacity
  mayFormat := invocation.mayFormat
  imagePath := invocation.image.getD Config.standard.imagePath
  imageSize := Config.standard.imageSize

/-- The path of the medium that an invocation works on in a build. -/
def medium? (invocation : Invocation) (build : Build) : Option Path :=
  (invocation.platform? build).map fun
    | .flash => invocation.config.volumeRoot
    | .radio => invocation.config.imagePath

end Invocation

end DeviceParameters.CommandLine
