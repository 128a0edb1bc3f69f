import DeviceParameters.Host.Error

/-!
# Storage errors

Why a medium did not do what it was asked. A cause carries the numbers or the name that
decided it, so a caller can tell how much was missing; the wording is made from the cause
and never stored.
-/

namespace DeviceParameters

/-- Why a root was not accepted as a file system. -/
inductive MountFault where
  /-- No directory stands at the root. -/
  | noFileSystem (root : String)
  /-- Any other cause, in words. -/
  | stated (reason : String)
  deriving DecidableEq, Repr

/-- The wording of a mount fault. -/
def MountFault.message : MountFault → String
  | .noFileSystem root => "no filesystem at " ++ root
  | .stated reason => reason

/-- A cause for which a medium fails. -/
inductive StorageError where
  | io (cause : HostError)
  | readPastEnd (offset length size : Nat)
  | writePastEnd (offset length size : Nat)
  | noSpace (needed available : Nat)
  | tooSmall (required actual : Nat)
  | notMounted (cause : MountFault)
  | writeFault (offset : Nat)
  deriving DecidableEq, Repr

namespace StorageError

/-- The wording of a storage error. -/
def message : StorageError → String
  | .io cause => "I/O error: " ++ cause.message
  | .readPastEnd offset length size =>
    s!"read beyond end of device: offset {offset}, len {length}, size {size}"
  | .writePastEnd offset length size =>
    s!"write beyond end of device: offset {offset}, len {length}, size {size}"
  | .noSpace needed available => s!"no space left: need {needed} bytes, {available} available"
  | .tooSmall required actual => s!"device too small: need {required} bytes, have {actual}"
  | .notMounted cause => "filesystem not mounted: " ++ cause.message
  | .writeFault offset => s!"write fault at offset {offset}"

/-- A storage error with its structure. -/
def detailed : StorageError → String
  | .io cause => s!"Io({cause.detailed})"
  | .readPastEnd offset length size =>
    s!"ReadPastEnd \x7b offset: {offset}, len: {length}, size: {size} \x7d"
  | .writePastEnd offset length size =>
    s!"WritePastEnd \x7b offset: {offset}, len: {length}, size: {size} \x7d"
  | .noSpace needed available =>
    s!"NoSpace \x7b needed: {needed}, available: {available} \x7d"
  | .tooSmall required actual => s!"TooSmall \x7b required: {required}, actual: {actual} \x7d"
  | .notMounted cause => s!"NotMounted({Quoted.quote cause.message})"
  | .writeFault offset => s!"WriteFault \x7b offset: {offset} \x7d"

end StorageError

end DeviceParameters
