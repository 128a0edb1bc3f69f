import DeviceParameters.Storage.ImageNvm

/-!
# Devices and rehearsed faults

A device is memory or an image, behind two switches with which failures are rehearsed: an
armed read fault stops every read, and an armed flush fault every flush, before the medium
is reached. The write fault belongs to memory. On every fault the bytes stay as they are;
on a flush fault what was written before is on the medium.
-/

namespace DeviceParameters

/-- Where a device keeps its bytes. -/
inductive Medium where
  | memory (nvm : MemoryNvm)
  | image (nvm : ImageNvm)
  deriving DecidableEq

/-- A device and the failures that are rehearsed on it. -/
structure Device where
  medium : Medium
  readFault : Bool
  flushFault : Bool
  deriving DecidableEq

namespace Device

/-- A memory device without faults. -/
def ofMemory (nvm : MemoryNvm) : Device := ⟨.memory nvm, false, false⟩

/-- An image device without faults. -/
def ofImage (nvm : ImageNvm) : Device := ⟨.image nvm, false, false⟩

/-- The number of bytes. -/
def size (device : Device) : Nat :=
  match device.medium with
  | .memory nvm => nvm.size
  | .image nvm => nvm.size

/-- The path of an image. -/
def path? (device : Device) : Option Path :=
  match device.medium with
  | .memory _ => none
  | .image nvm => some nvm.path

/-- The bytes that the medium holds now. -/
def contents (tree : FileTree) (device : Device) : Bytes :=
  match device.medium with
  | .memory nvm => nvm.contents
  | .image nvm => tree.contents nvm.handle

/-- Arm or disarm the write fault; only memory has one. -/
def setWriteFault (device : Device) (armed : Bool) : Device :=
  match device.medium with
  | .memory nvm => { device with medium := .memory { nvm with writeFault := armed } }
  | .image _ => device

/-- The cause reported by an armed read fault. -/
def readFaultCause : HostError := .stated "injected read fault"

/-- The cause reported by an armed flush fault. -/
def flushFaultCause : HostError := .stated "injected flush fault"

/-- Read a range. -/
def readAt (tree : FileTree) (device : Device) (offset length : Nat) :
    Except StorageError Bytes :=
  if device.readFault then .error (.io readFaultCause)
  else match device.medium with
    | .memory nvm => nvm.readAt offset length
    | .image nvm => nvm.readAt tree offset length

/-- Write a range. -/
def writeAt (tree : FileTree) (device : Device) (offset : Nat) (data : Bytes) :
    Except StorageError (FileTree × Device) :=
  match device.medium with
  | .memory nvm =>
    match nvm.writeAt offset data with
    | .error error => .error error
    | .ok written => .ok (tree, { device with medium := .memory written })
  | .image nvm =>
    match nvm.writeAt tree offset data with
    | .error error => .error error
    | .ok written => .ok (written, device)

/-- Make sure that what was written is kept. -/
def flush (device : Device) : Except StorageError Unit :=
  if device.flushFault then .error (.io flushFaultCause) else .ok ()

/-- A write keeps the size. -/
theorem size_writeAt {tree after : FileTree} {device written : Device} {offset : Nat}
    {data : Bytes} (accepted : device.writeAt tree offset data = .ok (after, written)) :
    written.size = device.size := by
  unfold writeAt at accepted
  split at accepted
  · rename_i nvm medium
    split at accepted
    · simp at accepted
    · rename_i stored storing
      obtain ⟨-, rfl⟩ := Prod.mk.inj (Except.ok.inj accepted)
      simpa [size, medium] using MemoryNvm.size_writeAt storing
  · split at accepted
    · simp at accepted
    · obtain ⟨-, rfl⟩ := Prod.mk.inj (Except.ok.inj accepted)
      rfl

end Device

end DeviceParameters
