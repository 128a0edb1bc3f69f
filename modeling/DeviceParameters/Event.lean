import DeviceParameters.Config
import DeviceParameters.Error
import DeviceParameters.Text.Json

/-!
# Events

What a store reports while it works, beside its result. An event is a value that says what
happened; its level, wording and fields are derived from it, so that a caller can filter
events and a reader can count on the fields.

Failures on a medium are events of the error level that carry the key in question.
-/

namespace DeviceParameters

/-- How much an event matters, the least first. -/
inductive Level where
  | debug
  | info
  | warn
  | error
  deriving DecidableEq, Repr

/-- The name of a level. -/
def Level.name : Level → String
  | .debug => "DEBUG"
  | .info => "INFO"
  | .warn => "WARN"
  | .error => "ERROR"

/-- Something that a store reports. -/
inductive Event where
  | opening (platform : Platform)
  | formatted (root : Path)
  | mountFailed (root : Path) (error : StorageError)
  | usage (total used : Nat)
  | usageFailed (error : StorageError)
  | fileWriteFailed (key : String) (error : StorageError)
  | fileReadFailed (key : String) (error : StorageError)
  | fileMissing (key : String)
  | truncated (key : String) (valueLength storedLength : Nat)
  | slotWritten (key : String) (offset : Nat)
  | keyUnknown (key : String)
  | slotWriteFailed (key : String) (error : ParameterError)
  | slotReadFailed (key : String) (error : ParameterError)
  | setting (key backend : String)
  | reading (key backend : String)
  deriving DecidableEq

namespace Event

/-- The level of an event. -/
def level : Event → Level
  | .opening _ | .slotWritten _ _ => .debug
  | .formatted _ | .usage _ _ | .setting _ _ | .reading _ _ => .info
  | .truncated _ _ _ => .warn
  | .mountFailed _ _ | .usageFailed _ | .fileWriteFailed _ _ | .fileReadFailed _ _
  | .fileMissing _ | .keyUnknown _ | .slotWriteFailed _ _ | .slotReadFailed _ _ => .error

/-- The wording of an event. -/
def message : Event → String
  | .opening _ => "creating parameter store"
  | .formatted _ => "flash filesystem formatted"
  | .mountFailed _ _ => "flash filesystem mount failed"
  | .usage _ _ => "flash filesystem usage"
  | .usageFailed _ => "failed to read flash filesystem usage"
  | .fileWriteFailed _ _ => "failed to write key to filesystem"
  | .fileReadFailed _ _ => "failed to read key from filesystem"
  | .fileMissing _ => "failed to find key in filesystem"
  | .truncated _ _ _ => "value truncated to fit NVM slot"
  | .slotWritten _ _ => "slot written"
  | .keyUnknown _ => "key not known"
  | .slotWriteFailed _ _ => "failed to write key to NVM"
  | .slotReadFailed _ _ => "failed to read key from NVM"
  | .setting _ _ => "setting parameter"
  | .reading _ _ => "reading parameter"

/-- The fields of an event. -/
def fields : Event → Json.Record
  | .opening platform => [("platform", .text platform.label)]
  | .formatted root => [("root", .text root.display)]
  | .mountFailed root error => [("root", .text root.display), ("error", .text error.message)]
  | .usage total used => [("total", .number total), ("used", .number used)]
  | .usageFailed error => [("error", .text error.message)]
  | .fileWriteFailed key error | .fileReadFailed key error =>
    [("key", .text key), ("error", .text error.message)]
  | .fileMissing key | .keyUnknown key => [("key", .text key)]
  | .truncated key valueLength storedLength =>
    [("key", .text key), ("original_len", .number valueLength),
      ("stored_len", .number storedLength)]
  | .slotWritten key offset => [("key", .text key), ("offset", .number offset)]
  | .slotWriteFailed key error | .slotReadFailed key error =>
    [("key", .text key), ("error", .text error.message)]
  | .setting key backend | .reading key backend =>
    [("key", .text key), ("backend", .text backend)]

/-- The key that an event is about. -/
def key? : Event → Option String
  | .opening _ | .formatted _ | .mountFailed _ _ | .usage _ _ | .usageFailed _ => none
  | .fileWriteFailed key _ | .fileReadFailed key _ | .fileMissing key | .truncated key _ _
  | .slotWritten key _ | .keyUnknown key | .slotWriteFailed key _ | .slotReadFailed key _
  | .setting key _ | .reading key _ => some key

end Event

end DeviceParameters
