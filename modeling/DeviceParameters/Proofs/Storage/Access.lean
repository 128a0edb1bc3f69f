import DeviceParameters.Proofs.Bytes.Ranges
import DeviceParameters.Storage.Device

/-!
# Access to a device

Memory and images are read and written by one rule, stated on the bytes that the medium holds.
A write is decided by its fault and its bounds and then does one thing, `replaced`: it replaces
a range of the bytes and changes neither the size nor a fault.

An image can be shorter than the device on it, when the host has cut its file. `Whole` says
that it is not. Memory is always whole, and an image is whole when it was just opened; reading
needs no more than that the range itself is still there.
-/

namespace DeviceParameters

namespace ImageNvm

/-- An image that was opened with a size is as long as its device. -/
theorem length_of_openSized (tree after : FileTree) (path : Path) (size : Nat) (nvm : ImageNvm)
    (opened : openSized tree path size = (after, .ok nvm)) :
    (after.contents nvm.handle).length = nvm.size := by
  rw [openSized] at opened
  split at opened
  · simp at opened
  split at opened
  · simp at opened
  rename_i housed _ made handle _
  dsimp only at opened
  split at opened
  · obtain ⟨rfl, same⟩ := Prod.mk.inj opened
    obtain rfl := Except.ok.inj same
    rfl
  split at opened
  · simp at opened
  · obtain ⟨rfl, same⟩ := Prod.mk.inj opened
    obtain rfl := Except.ok.inj same
    rw [FileTree.contents_setContents, Bytes.length_resize]

/-- An image that was opened as it is is as long as its device. -/
theorem length_of_openExisting (tree : FileTree) (path : Path) (nvm : ImageNvm)
    (opened : openExisting tree path = .ok nvm) :
    (tree.contents nvm.handle).length = nvm.size := by
  rw [openExisting] at opened
  split at opened
  · simp at opened
  · obtain rfl := Except.ok.inj opened
    rfl

end ImageNvm

namespace Device

/-- Whether writes are refused; only memory has that switch. -/
def writeFault (device : Device) : Bool :=
  match device.medium with
  | .memory nvm => nvm.writeFault
  | .image _ => false

/-- The medium holds every byte of the device. -/
def Whole (tree : FileTree) (device : Device) : Prop :=
  (device.contents tree).length = device.size

/-- The tree and the device after a range of the bytes was replaced. -/
def replaced (tree : FileTree) (device : Device) (offset : Nat) (data : Bytes) : FileTree × Device :=
  match device.medium with
  | .memory nvm =>
    (tree, { device with medium := .memory { nvm with contents := nvm.contents.overwrite offset data } })
  | .image nvm =>
    (if data = [] then tree
      else tree.setContents nvm.handle ((tree.contents nvm.handle).overwrite offset data), device)

variable (tree : FileTree) (device : Device) (offset : Nat) (data : Bytes)

/-- Memory holds all of its bytes. -/
theorem whole_ofMemory (nvm : MemoryNvm) : (ofMemory nvm).Whole tree := rfl

/-- An image that was just opened holds all of its bytes. -/
theorem whole_of_openSized (after : FileTree) (path : Path) (size : Nat) (nvm : ImageNvm)
    (opened : ImageNvm.openSized tree path size = (after, .ok nvm)) : (ofImage nvm).Whole after :=
  ImageNvm.length_of_openSized tree after path size nvm opened

/-- An image that was opened as it is holds all of its bytes. -/
theorem whole_of_openExisting (path : Path) (nvm : ImageNvm)
    (opened : ImageNvm.openExisting tree path = .ok nvm) : (ofImage nvm).Whole tree :=
  ImageNvm.length_of_openExisting tree path nvm opened

/-- What is read is the range of the bytes that the medium holds. -/
theorem slice_of_readAt (length : Nat) (contents : Bytes)
    (read : device.readAt tree offset length = .ok contents) :
    (device.contents tree).slice offset length = contents := by
  rw [readAt] at read
  split at read
  · cases read
  split at read
  · rename_i nvm memory
    rw [MemoryNvm.readAt] at read
    split at read
    · rw [Device.contents, memory]
      exact Except.ok.inj read
    · cases read
  · rename_i nvm image
    rw [ImageNvm.readAt] at read
    split at read
    · rw [Device.contents, image]
      split at read
      · rename_i nothing
        rw [nothing, Bytes.slice_zero]
        exact Except.ok.inj read
      split at read
      · exact Except.ok.inj read
      · cases read
    · cases read

/-- A read that nothing stops, within the device and within what the medium holds, gives the
range. -/
theorem readAt_eq_slice (length : Nat) (working : device.readFault = false)
    (inside : offset + length ≤ device.size)
    (held : offset + length ≤ (device.contents tree).length) :
    device.readAt tree offset length = .ok ((device.contents tree).slice offset length) := by
  obtain ⟨medium, readFault, flushFault⟩ := device
  obtain rfl : readFault = false := working
  cases medium with
  | memory nvm =>
    have bounded : InBounds offset length nvm.size := inside
    simp [readAt, MemoryNvm.readAt, bounded, contents]
  | image nvm =>
    have bounded : InBounds offset length nvm.size := inside
    have present : InBounds offset length (tree.contents nvm.handle).length := held
    by_cases nothing : length = 0
    · subst nothing
      simp [readAt, ImageNvm.readAt, bounded, Bytes.slice_zero]
    · simp [readAt, ImageNvm.readAt, bounded, nothing, present, contents]

/-- A write is refused for its fault first and for its bounds next; otherwise it replaces its
range. -/
theorem writeAt_eq :
    device.writeAt tree offset data =
      if device.writeFault then .error (.writeFault offset)
      else if InBounds offset data.length device.size then .ok (device.replaced tree offset data)
      else .error (.writePastEnd offset data.length device.size) := by
  obtain ⟨medium, readFault, flushFault⟩ := device
  cases medium with
  | memory nvm =>
    by_cases armed : nvm.writeFault = true
    · simp [writeAt, MemoryNvm.writeAt, writeFault, armed]
    by_cases bounded : InBounds offset data.length nvm.size
    · simp [writeAt, MemoryNvm.writeAt, writeFault, armed, bounded, size, replaced]
    · simp [writeAt, MemoryNvm.writeAt, writeFault, armed, bounded, size]
  | image nvm =>
    by_cases bounded : InBounds offset data.length nvm.size
    · by_cases nothing : data = []
      · subst nothing
        have empty : InBounds offset 0 nvm.size := bounded
        simp [writeAt, ImageNvm.writeAt, writeFault, empty, size, replaced]
      · simp [writeAt, ImageNvm.writeAt, writeFault, bounded, nothing, size, replaced]
    · simp [writeAt, ImageNvm.writeAt, writeFault, bounded, size]

/-- A replacement replaces the range in the bytes of the medium. -/
theorem contents_replaced :
    (device.replaced tree offset data).2.contents (device.replaced tree offset data).1 =
      (device.contents tree).overwrite offset data := by
  obtain ⟨medium, readFault, flushFault⟩ := device
  cases medium with
  | memory nvm => rfl
  | image nvm =>
    by_cases nothing : data = []
    · simp [replaced, contents, nothing, Bytes.overwrite_nil]
    · simp [replaced, contents, nothing, FileTree.contents_setContents]

/-- A replacement keeps the size. -/
theorem size_replaced (inside : offset + data.length ≤ device.size) :
    (device.replaced tree offset data).2.size = device.size := by
  obtain ⟨medium, readFault, flushFault⟩ := device
  cases medium with
  | memory nvm => exact Bytes.length_overwrite nvm.contents offset data inside
  | image nvm => rfl

/-- A replacement keeps every fault as it was. -/
theorem faults_replaced :
    (device.replaced tree offset data).2.readFault = device.readFault ∧
      (device.replaced tree offset data).2.flushFault = device.flushFault ∧
      (device.replaced tree offset data).2.writeFault = device.writeFault := by
  obtain ⟨medium, readFault, flushFault⟩ := device
  cases medium with
  | memory nvm => exact ⟨rfl, rfl, rfl⟩
  | image nvm => exact ⟨rfl, rfl, rfl⟩

/-- A replacement inside a device that is whole leaves it whole. -/
theorem whole_replaced (whole : device.Whole tree) (inside : offset + data.length ≤ device.size) :
    (device.replaced tree offset data).2.Whole (device.replaced tree offset data).1 := by
  unfold Whole at *
  rw [contents_replaced, size_replaced tree device offset data inside,
    Bytes.length_overwrite _ _ _ (whole ▸ inside), whole]

end Device

end DeviceParameters
