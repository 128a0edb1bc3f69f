import DeviceParameters.Text.Quoted

/-!
# Refusals of the host

Why the host did not carry out a request on its files. Most causes are numbered by the
host's own table; the others arise before the host is asked or after it has answered.
Every cause has two renderings: the message, and the detailed form used where an error is
shown with its structure.
-/

namespace DeviceParameters

/-- A cause for which the host refuses or cuts short a request. -/
inductive HostError where
  | notFound
  | busy
  | alreadyExists
  | notDirectory
  | isDirectory
  | invalidArgument
  | nameTooLong
  | directoryNotEmpty
  /-- A path with a zero byte never reaches the host. -/
  | nulInName
  /-- A file ended before the range that was asked for. -/
  | shortRead
  /-- A length that the host cannot express. -/
  | lengthTooLarge
  /-- Any other cause, in words. -/
  | stated (reason : String)
  deriving DecidableEq, Repr

namespace HostError

/-- The number of a cause in the host's table. -/
def number? : HostError → Option Nat
  | .notFound => some 2
  | .busy => some 16
  | .alreadyExists => some 17
  | .notDirectory => some 20
  | .isDirectory => some 21
  | .invalidArgument => some 22
  | .nameTooLong => some 36
  | .directoryNotEmpty => some 39
  | .nulInName | .shortRead | .lengthTooLarge | .stated _ => none

/-- The kind under which a cause falls. -/
def kind : HostError → String
  | .notFound => "NotFound"
  | .busy => "ResourceBusy"
  | .alreadyExists => "AlreadyExists"
  | .notDirectory => "NotADirectory"
  | .isDirectory => "IsADirectory"
  | .invalidArgument | .nulInName | .lengthTooLarge => "InvalidInput"
  | .nameTooLong => "InvalidFilename"
  | .directoryNotEmpty => "DirectoryNotEmpty"
  | .shortRead => "UnexpectedEof"
  | .stated _ => "Other"

/-- The wording of a cause, without its number. -/
def wording : HostError → String
  | .notFound => "No such file or directory"
  | .busy => "Device or resource busy"
  | .alreadyExists => "File exists"
  | .notDirectory => "Not a directory"
  | .isDirectory => "Is a directory"
  | .invalidArgument => "Invalid argument"
  | .nameTooLong => "File name too long"
  | .directoryNotEmpty => "Directory not empty"
  | .nulInName => "file name contained an unexpected NUL byte"
  | .shortRead => "failed to fill whole buffer"
  | .lengthTooLarge => "number too large to fit in target type"
  | .stated reason => reason

/-- The message of a cause: its wording, and its number where it has one. -/
def message (error : HostError) : String :=
  match error.number? with
  | some number => s!"{error.wording} (os error {number})"
  | none => error.wording

/-- A cause with its structure. -/
def detailed (error : HostError) : String :=
  match error.number?, error with
  | some number, _ =>
    s!"Os \x7b code: {number}, kind: {error.kind}, message: {Quoted.quote error.wording} \x7d"
  | none, .stated reason =>
    s!"Custom \x7b kind: {error.kind}, error: {Quoted.quote reason} \x7d"
  | none, _ => s!"Error \x7b kind: {error.kind}, message: {Quoted.quote error.wording} \x7d"

end HostError

end DeviceParameters
