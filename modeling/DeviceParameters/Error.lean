import DeviceParameters.Storage.Error
import DeviceParameters.Text.Utf8

/-!
# Parameter errors

Why a parameter was not set or read. A key can be unknown to a store with fixed keys,
impossible as a file name, or merely absent; a value can be bytes that are no text; a store
can be without its medium; and the medium itself can fail.
-/

namespace DeviceParameters

/-- Why a key has no file name. -/
inductive KeyFault where
  | empty
  | tooLong
  | separator
  /-- Any other cause, in words. -/
  | stated (reason : String)
  deriving DecidableEq, Repr

/-- The wording of a key fault. -/
def KeyFault.message : KeyFault → String
  | .empty => "key is empty"
  | .tooLong => "key too long for file name"
  | .separator => "key contains a path separator"
  | .stated reason => reason

/-- Why stored bytes are no value. -/
inductive ValueFault where
  | encoding (fault : Utf8.Fault)
  /-- Any other cause, in words. -/
  | stated (reason : String)
  deriving DecidableEq, Repr

/-- The wording of a value fault. -/
def ValueFault.message : ValueFault → String
  | .encoding fault => fault.message
  | .stated reason => reason

/-- A cause for which a parameter is not set or read. -/
inductive ParameterError where
  | unknownKey (key : String)
  | invalidKey (key : String) (fault : KeyFault)
  | keyNotFound (key : String)
  | invalidValue (key : String) (fault : ValueFault)
  | unmounted
  | unsupportedPlatform
  | storage (cause : StorageError)
  deriving DecidableEq, Repr

namespace ParameterError

/-- The wording of a parameter error. -/
def message : ParameterError → String
  | .unknownKey key => "key not known: " ++ key
  | .invalidKey key fault => s!"invalid key {Quoted.quote key}: {fault.message}"
  | .keyNotFound key => "key not found: " ++ key
  | .invalidValue key fault => s!"invalid value for {key}: {fault.message}"
  | .unmounted => "filesystem not mounted"
  | .unsupportedPlatform => "no parameter backend for this platform"
  | .storage cause => "storage error: " ++ cause.message

/-- A parameter error with its structure. -/
def detailed : ParameterError → String
  | .unknownKey key => s!"UnknownKey \x7b key: {Quoted.quote key} \x7d"
  | .invalidKey key fault =>
    s!"InvalidKey \x7b key: {Quoted.quote key}, reason: {Quoted.quote fault.message} \x7d"
  | .keyNotFound key => s!"KeyNotFound \x7b key: {Quoted.quote key} \x7d"
  | .invalidValue key fault =>
    s!"InvalidValue \x7b key: {Quoted.quote key}, message: {Quoted.quote fault.message} \x7d"
  | .unmounted => "Unmounted"
  | .unsupportedPlatform => "UnsupportedPlatform"
  | .storage cause => s!"Storage({cause.detailed})"

end ParameterError

end DeviceParameters
