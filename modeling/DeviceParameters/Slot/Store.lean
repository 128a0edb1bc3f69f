import DeviceParameters.Reply
import DeviceParameters.Slot.Record
import DeviceParameters.Storage.Device

/-!
# The slot store

Parameters in the slots of a device. Only the keys of the table can be set or read, and any
other key is refused before the device is touched. A value is written as one record and then
flushed, so a refused write leaves the slot as it was and a failed flush leaves the new record
in it. A value that was cut is reported as cut, with a warning.

The store holds its device. The file tree is passed along, because an image device keeps its
bytes there.
-/

namespace DeviceParameters

/-- Parameters in the slots of a device. -/
structure SlotStore where
  device : Device
  deriving DecidableEq

namespace Slot

/-- The slot of a key, or the refusal of a key that has none. -/
def ofKey (key : String) : Except ParameterError Slot :=
  match ofName? key with
  | some slot => .ok slot
  | none => .error (.unknownKey key)

/-- A key resolves to a slot exactly if it is the name of that slot. -/
theorem ofKey_eq_ok_iff (key : String) (slot : Slot) : ofKey key = .ok slot ↔ slot.name = key := by
  rw [← ofName?_eq_some_iff, ofKey]
  cases ofName? key with
  | none => simp
  | some found => simp

end Slot

namespace SlotStore

/-- Use a device, if it has room for the table. -/
def ofDevice (device : Device) : Except ParameterError SlotStore :=
  if device.size < Slot.tableSize then
    .error (.storage (.tooSmall Slot.tableSize device.size))
  else .ok ⟨device⟩

/-- The name of this kind of store. -/
def backend : String := Platform.radio.backend

/-- The state that a call on the store leaves behind. -/
abbrev State := FileTree × SlotStore

/-- How a written value is reported. -/
def writtenOutcome (slot : Slot) (value stored : String) : SetOutcome × Event :=
  if Utf8.size stored < Utf8.size value then
    (.truncated (Utf8.size value) (Utf8.size stored),
      .truncated slot.name (Utf8.size value) (Utf8.size stored))
  else (.stored, .slotWritten slot.name slot.offset)

/-- Write a value into a slot. -/
def writeSlot (tree : FileTree) (store : SlotStore) (slot : Slot) (value : String) :
    Reply State SetOutcome :=
  let stored := Slot.fit value
  match store.device.writeAt tree slot.offset (Slot.record stored) with
  | .error cause => ⟨.error (.storage cause), (tree, store), []⟩
  | .ok (written, device) =>
    match device.flush with
    | .error cause => ⟨.error (.storage cause), (written, ⟨device⟩), []⟩
    | .ok () =>
      let (outcome, event) := writtenOutcome slot value stored
      ⟨.ok outcome, (written, ⟨device⟩), [event]⟩

/-- Read the value in a slot. -/
def readSlot (tree : FileTree) (store : SlotStore) (slot : Slot) :
    Except ParameterError String :=
  match store.device.readAt tree slot.offset Slot.lengthFieldSize with
  | .error cause => .error (.storage cause)
  | .ok lengthField =>
    match store.device.readAt tree slot.valueOffset (Slot.recordedLength lengthField) with
    | .error cause => .error (.storage cause)
    | .ok contents =>
      match Slot.recordedValue contents with
      | .error fault => .error (.invalidValue slot.name (.encoding fault))
      | .ok value => .ok value

/-- Set a parameter. -/
def set (tree : FileTree) (store : SlotStore) (key value : String) : Reply State SetOutcome :=
  match Slot.ofKey key with
  | .error error => ⟨.error error, (tree, store), [.keyUnknown key]⟩
  | .ok slot =>
    let reply := store.writeSlot tree slot value
    match reply.result with
    | .ok _ => reply
    | .error error => { reply with events := reply.events ++ [.slotWriteFailed key error] }

/-- Read a parameter. -/
def get (tree : FileTree) (store : SlotStore) (key : String) : Answer String :=
  match Slot.ofKey key with
  | .error error => ⟨.error error, [.keyUnknown key]⟩
  | .ok slot =>
    match store.readSlot tree slot with
    | .ok value => ⟨.ok value, []⟩
    | .error error => ⟨.error error, [.slotReadFailed key error]⟩

/-- The keys of the table, whatever the slots hold. -/
def keys : List String := Slot.all.map Slot.name

/-- The store with its structure. -/
def detailed (store : SlotStore) : String :=
  s!"SlotParamStore \x7b nvm_size: {store.device.size} \x7d"

end SlotStore

end DeviceParameters
