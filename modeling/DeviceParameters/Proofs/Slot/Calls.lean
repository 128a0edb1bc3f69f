import DeviceParameters.Proofs.Slot.Records
import DeviceParameters.Proofs.Storage.Access
import DeviceParameters.Slot.Store

/-!
# Calls on a slot store

What setting and reading a parameter come to, on the bytes that the device holds. A set of a
key in the table is refused for an armed write fault, then for the bounds of the device, and
otherwise puts the record; an armed flush fault makes it fail after that. A key outside the
table is refused with nothing touched. A read gives what the bytes hold in the slot.
-/

namespace DeviceParameters.SlotStore

/-- The bytes that the device of a state holds. -/
def held (state : State) : Bytes := state.2.device.contents state.1

/-- A store whose slots can be read: reads are not stopped, and the device has the whole table
and all of its bytes. -/
structure Legible (state : State) : Prop where
  working : state.2.device.readFault = false
  roomy : Slot.tableSize ≤ state.2.device.size
  whole : state.2.device.Whole state.1

/-- The state after a value was put into a slot. -/
def put (state : State) (slot : Slot) (value : String) : State :=
  let after := state.2.device.replaced state.1 slot.offset (Slot.recordOf value)
  (after.1, ⟨after.2⟩)

/-- The key of a slot leads to that slot. -/
theorem ofKey_name (slot : Slot) : Slot.ofKey slot.name = .ok slot :=
  (Slot.ofKey_eq_ok_iff _ _).mpr rfl

/-- A key outside the table is refused as unknown. -/
theorem ofKey_unknown (key : String) (unknown : ∀ slot : Slot, slot.name ≠ key) :
    Slot.ofKey key = .error (.unknownKey key) := by
  rw [Slot.ofKey]
  split
  · rename_i slot found
    exact absurd ((Slot.ofName?_eq_some_iff _ _).mp found) (unknown slot)
  · rfl

/-- A set of a key outside the table changes nothing. -/
theorem set_unknown (tree : FileTree) (store : SlotStore) (key value : String)
    (unknown : ∀ slot : Slot, slot.name ≠ key) :
    store.set tree key value = ⟨.error (.unknownKey key), (tree, store), [.keyUnknown key]⟩ := by
  simp [set, ofKey_unknown key unknown]

/-- A write to a slot, in every case. -/
theorem writeSlot_eq (tree : FileTree) (store : SlotStore) (slot : Slot) (value : String) :
    store.writeSlot tree slot value =
      if store.device.writeFault then ⟨.error (.storage (.writeFault slot.offset)), (tree, store), []⟩
      else if InBounds slot.offset (Slot.recordOf value).length store.device.size then
        if store.device.flushFault then
          ⟨.error (.storage (.io Device.flushFaultCause)), put (tree, store) slot value, []⟩
        else
          let written := writtenOutcome slot value (Slot.fit value)
          ⟨.ok written.1, put (tree, store) slot value, [written.2]⟩
      else
        ⟨.error (.storage (.writePastEnd slot.offset (Slot.recordOf value).length store.device.size)),
          (tree, store), []⟩ := by
  have flushing : (put (tree, store) slot value).2.device.flushFault = store.device.flushFault :=
    (Device.faults_replaced tree store.device slot.offset (Slot.recordOf value)).2.1
  have writing : store.device.writeAt tree slot.offset (Slot.record (Slot.fit value)) = _ :=
    Device.writeAt_eq tree store.device slot.offset (Slot.recordOf value)
  rw [writeSlot, writing]
  by_cases armed : store.device.writeFault = true
  · simp [armed]
  by_cases bounded : InBounds slot.offset (Slot.recordOf value).length store.device.size
  · by_cases stopped : store.device.flushFault = true
    · have fails : (put (tree, store) slot value).2.device.flush = .error (.io Device.flushFaultCause) := by
        rw [Device.flush, flushing, if_pos stopped]
      simp only [put] at fails
      simp [armed, bounded, stopped, put, fails]
    · have succeeds : (put (tree, store) slot value).2.device.flush = .ok () := by
        rw [Device.flush, flushing, if_neg stopped]
      simp only [put] at succeeds
      simp [armed, bounded, stopped, put, succeeds]
  · simp [armed, bounded]

/-- A write that is not refused puts the value, also where it fails at the flush, and one that is
refused leaves everything as it is. -/
theorem state_writeSlot (tree : FileTree) (store : SlotStore) (slot : Slot) (value : String) :
    (store.writeSlot tree slot value).state =
      if store.device.writeFault = false ∧
          InBounds slot.offset (Slot.recordOf value).length store.device.size then
        put (tree, store) slot value
      else (tree, store) := by
  rw [writeSlot_eq]
  by_cases armed : store.device.writeFault = true
  · simp [armed]
  by_cases bounded : InBounds slot.offset (Slot.recordOf value).length store.device.size
  · by_cases stopped : store.device.flushFault = true
    · simp [armed, bounded, stopped]
    · simp [armed, bounded, stopped]
  · simp [armed, bounded]

/-- What setting the key of a slot comes to is what writing the slot comes to. -/
theorem set_name_as_writeSlot (tree : FileTree) (store : SlotStore) (slot : Slot) (value : String) :
    (store.set tree slot.name value).result = (store.writeSlot tree slot value).result ∧
      (store.set tree slot.name value).state = (store.writeSlot tree slot value).state := by
  rw [set, ofKey_name]
  dsimp only
  cases written : (store.writeSlot tree slot value).result with
  | ok outcome => exact ⟨written, rfl⟩
  | error cause => exact ⟨rfl, rfl⟩

/-- A set of a key in the table, in every case. -/
theorem set_name (tree : FileTree) (store : SlotStore) (slot : Slot) (value : String) :
    store.set tree slot.name value =
      if store.device.writeFault then
        let error : ParameterError := .storage (.writeFault slot.offset)
        ⟨.error error, (tree, store), [.slotWriteFailed slot.name error]⟩
      else if InBounds slot.offset (Slot.recordOf value).length store.device.size then
        if store.device.flushFault then
          let error : ParameterError := .storage (.io Device.flushFaultCause)
          ⟨.error error, put (tree, store) slot value, [.slotWriteFailed slot.name error]⟩
        else
          let written := writtenOutcome slot value (Slot.fit value)
          ⟨.ok written.1, put (tree, store) slot value, [written.2]⟩
      else
        let error : ParameterError :=
          .storage (.writePastEnd slot.offset (Slot.recordOf value).length store.device.size)
        ⟨.error error, (tree, store), [.slotWriteFailed slot.name error]⟩ := by
  rw [set, ofKey_name]
  dsimp only
  rw [writeSlot_eq]
  by_cases armed : store.device.writeFault = true
  · simp [armed]
  by_cases bounded : InBounds slot.offset (Slot.recordOf value).length store.device.size
  · by_cases stopped : store.device.flushFault = true
    · simp [armed, bounded, stopped]
    · simp [armed, bounded, stopped]
  · simp [armed, bounded]

/-- Putting a value puts its record into the bytes. -/
theorem held_put (state : State) (slot : Slot) (value : String) :
    held (put state slot value) = slot.stored (held state) value :=
  Device.contents_replaced state.1 state.2.device slot.offset (Slot.recordOf value)

/-- A device with room for the table has room for every record. -/
theorem inBounds_recordOf (size : Nat) (slot : Slot) (value : String) (roomy : Slot.tableSize ≤ size) :
    InBounds slot.offset (Slot.recordOf value).length size :=
  Nat.le_trans (Slot.offset_add_recordOf_le slot value) roomy

/-- With room for the table a write is granted exactly when neither fault is armed. -/
theorem isOk_writeSlot (tree : FileTree) (store : SlotStore) (slot : Slot) (value : String)
    (roomy : Slot.tableSize ≤ store.device.size) :
    (store.writeSlot tree slot value).result.isOk = true ↔
      store.device.writeFault = false ∧ store.device.flushFault = false := by
  rw [writeSlot_eq, if_pos (inBounds_recordOf store.device.size slot value roomy)]
  cases store.device.writeFault <;> cases store.device.flushFault <;>
    simp [Except.isOk, Except.toBool]

/-- Putting a value keeps a store legible. -/
theorem legible_put (state : State) (slot : Slot) (value : String) (legible : Legible state) :
    Legible (put state slot value) where
  working := by
    have same := (Device.faults_replaced state.1 state.2.device slot.offset (Slot.recordOf value)).1
    exact same.trans legible.working
  roomy := by
    have same : (put state slot value).2.device.size = state.2.device.size :=
      Device.size_replaced state.1 state.2.device slot.offset (Slot.recordOf value)
        (inBounds_recordOf _ slot value legible.roomy)
    rw [same]
    exact legible.roomy
  whole := Device.whole_replaced state.1 state.2.device slot.offset (Slot.recordOf value)
    legible.whole (inBounds_recordOf _ slot value legible.roomy)

/-- A read of a slot, where the record that is there lies within the device and within what
the medium holds. -/
theorem readSlot_eq (tree : FileTree) (store : SlotStore) (slot : Slot) (reach : Nat)
    (working : store.device.readFault = false)
    (covers : slot.valueOffset +
      Slot.recordedLength ((held (tree, store)).slice slot.offset Slot.lengthFieldSize) ≤ reach)
    (inside : reach ≤ store.device.size) (present : reach ≤ (held (tree, store)).length) :
    store.readSlot tree slot = slot.valueIn (held (tree, store)) := by
  have start : slot.offset + Slot.lengthFieldSize = slot.valueOffset := rfl
  have field : store.device.readAt tree slot.offset Slot.lengthFieldSize =
      .ok ((held (tree, store)).slice slot.offset Slot.lengthFieldSize) :=
    Device.readAt_eq_slice _ _ _ _ working (by omega) (Nat.le_trans (by omega) present)
  have body := Device.readAt_eq_slice tree store.device slot.valueOffset _ working
    (Nat.le_trans covers inside) (Nat.le_trans covers present)
  rw [readSlot, field]
  dsimp only
  rw [body]
  rfl

/-- What is read of a slot is the value that the bytes hold there, in any state in which it can be
read. -/
theorem valueIn_of_readSlot (tree : FileTree) (store : SlotStore) (slot : Slot) (value : String)
    (read : store.readSlot tree slot = .ok value) :
    slot.valueIn (held (tree, store)) = .ok value := by
  rw [readSlot] at read
  split at read
  · cases read
  rename_i lengthField field
  split at read
  · cases read
  rename_i contents body
  have first := Device.slice_of_readAt _ _ _ _ _ field
  have second := Device.slice_of_readAt _ _ _ _ _ body
  rw [Slot.valueIn, held, first, second]
  exact read

/-- What reading the key of a slot comes to is what reading the slot comes to. -/
theorem result_get_name (tree : FileTree) (store : SlotStore) (slot : Slot) :
    (store.get tree slot.name).result = store.readSlot tree slot := by
  rw [get, ofKey_name]
  dsimp only
  split
  · rename_i value read
    exact read.symm
  · rename_i error read
    exact read.symm

/-- A store reads what its bytes hold, where the device and its medium have the whole table. -/
theorem result_get_of_present (tree : FileTree) (store : SlotStore) (slot : Slot)
    (working : store.device.readFault = false) (roomy : Slot.tableSize ≤ store.device.size)
    (present : Slot.tableSize ≤ (held (tree, store)).length) :
    (store.get tree slot.name).result = slot.valueIn (held (tree, store)) := by
  have short := Slot.recordedLength_le ((held (tree, store)).slice slot.offset Slot.lengthFieldSize)
  have row : slot.valueOffset + Slot.maximumLength ≤ Slot.tableSize := Slot.offset_add_stride_le slot
  rw [result_get_name]
  exact readSlot_eq tree store slot Slot.tableSize working (by omega) roomy present

/-- A legible store reads what its bytes hold. -/
theorem result_get_of_legible (state : State) (slot : Slot) (legible : Legible state) :
    (state.2.get state.1 slot.name).result = slot.valueIn (held state) := by
  have whole : (held state).length = state.2.device.size := legible.whole
  exact result_get_of_present state.1 state.2 slot legible.working legible.roomy
    (whole ▸ legible.roomy)

end DeviceParameters.SlotStore
