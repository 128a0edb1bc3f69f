import DeviceParameters.Bytes
import DeviceParameters.Storage.Error

/-!
# Memory devices

A device holds a fixed number of bytes that are read and written by range. A range that
passes the end is refused, and a refused access changes nothing. The bound is taken on the
mathematical sum of offset and length, so no range wraps round.

A memory device has one switch: while its write fault is armed, every write is refused
before its range is looked at.
-/

namespace DeviceParameters

/-- The byte of a memory device that was never written. -/
def fillByte : UInt8 := 0

/-- Whether a range ends at or before the end of a device. -/
def InBounds (offset length size : Nat) : Prop := offset + length ≤ size

instance (offset length size : Nat) : Decidable (InBounds offset length size) := by
  unfold InBounds; infer_instance

/-- Bytes in memory. -/
structure MemoryNvm where
  contents : Bytes
  /-- Whether writes are refused. -/
  writeFault : Bool
  deriving DecidableEq

namespace MemoryNvm

/-- A device of a given size, filled. -/
def ofSize (size : Nat) : MemoryNvm := ⟨List.replicate size fillByte, false⟩

/-- A device with given contents. -/
def ofContents (contents : Bytes) : MemoryNvm := ⟨contents, false⟩

/-- The number of bytes. -/
def size (nvm : MemoryNvm) : Nat := nvm.contents.length

/-- Read a range. -/
def readAt (nvm : MemoryNvm) (offset length : Nat) : Except StorageError Bytes :=
  if InBounds offset length nvm.size then .ok (nvm.contents.slice offset length)
  else .error (.readPastEnd offset length nvm.size)

/-- Write a range. -/
def writeAt (nvm : MemoryNvm) (offset : Nat) (data : Bytes) : Except StorageError MemoryNvm :=
  if nvm.writeFault then .error (.writeFault offset)
  else if InBounds offset data.length nvm.size then
    .ok { nvm with contents := nvm.contents.overwrite offset data }
  else .error (.writePastEnd offset data.length nvm.size)

/-- A write keeps the size. -/
theorem size_writeAt {nvm written : MemoryNvm} {offset : Nat} {data : Bytes}
    (accepted : nvm.writeAt offset data = .ok written) : written.size = nvm.size := by
  unfold writeAt at accepted
  split at accepted
  · simp at accepted
  · split at accepted
    · rename_i inside
      have same := Except.ok.inj accepted
      subst same
      exact Bytes.length_overwrite nvm.contents offset data inside
    · simp at accepted

end MemoryNvm

end DeviceParameters
