import Mathlib.Data.List.TakeWhile
import DeviceParameters.Proofs.File.Refinement
import DeviceParameters.Proofs.Slot.Runs

/-!
# What an outcome tells

A set that succeeds says how much of the value the store keeps, and the next read of the key
answers from exactly those bytes. The bytes of a file are read as they are. A slot value ends at
its first zero byte, so a slot store can have kept a whole value and read only its beginning; a
value without zero bytes comes back whole, or as the part that the outcome names.

The statements hold for every store and every state, also for a device smaller than the table,
for an image that the host has cut, and for a store without a volume: a set that cannot be kept
does not succeed.
-/

namespace DeviceParameters

namespace SlotStore

/-- A put value reads back as far as it is readable, on any device with room for the record. The
write extends an image that is too short, so nothing is asked of the bytes that were there. -/
theorem readSlot_put (tree : FileTree) (store : SlotStore) (slot : Slot) (value : String)
    (working : store.device.readFault = false)
    (roomy : InBounds slot.offset (Slot.recordOf value).length store.device.size) :
    (put (tree, store) slot value).2.readSlot (put (tree, store) slot value).1 slot =
      .ok (Slot.readable value) := by
  have bytes : held (put (tree, store) slot value) = slot.stored (held (tree, store)) value :=
    held_put (tree, store) slot value
  have size : (put (tree, store) slot value).2.device.size = store.device.size :=
    Device.size_replaced tree store.device slot.offset (Slot.recordOf value) roomy
  have reads : (put (tree, store) slot value).2.device.readFault = store.device.readFault :=
    (Device.faults_replaced tree store.device slot.offset (Slot.recordOf value)).1
  have covers : slot.valueOffset + Slot.recordedLength
      ((slot.stored (held (tree, store)) value).slice slot.offset Slot.lengthFieldSize) ≤
        slot.offset + (Slot.recordOf value).length := by
    rw [Slot.recordedLength_stored, Slot.length_recordOf, Slot.valueOffset, Nat.add_assoc]
  have present := Bytes.le_length_overwrite (held (tree, store)) slot.offset (Slot.recordOf value)
    (Slot.recordOf_ne_nil value)
  rw [← bytes] at covers
  rw [← Slot.stored, ← bytes] at present
  have read := readSlot_eq (put (tree, store) slot value).1 (put (tree, store) slot value).2 slot _
    (reads.trans working) covers (size ▸ roomy) present
  exact read.trans ((congrArg slot.valueIn bytes).trans (Slot.valueIn_stored _ slot value))

/-- A set that succeeds has put the value into the slot of its key, within the bounds of the
device. -/
theorem set_eq_ok (tree : FileTree) (store : SlotStore) (key value : String) (outcome : SetOutcome)
    (granted : (store.set tree key value).result = .ok outcome) :
    ∃ slot : Slot, slot.name = key ∧
      InBounds slot.offset (Slot.recordOf value).length store.device.size ∧
      outcome = (writtenOutcome slot value (Slot.fit value)).1 ∧
      (store.set tree key value).state = put (tree, store) slot value := by
  obtain ⟨slot, rfl⟩ | unknown := known_or_unknown key
  · rw [set_name] at granted ⊢
    by_cases armed : store.device.writeFault = true
    · simp [armed] at granted
    by_cases bounded : InBounds slot.offset (Slot.recordOf value).length store.device.size
    · by_cases stopped : store.device.flushFault = true
      · simp [armed, bounded, stopped] at granted
      · simp only [armed, bounded, stopped] at granted ⊢
        exact ⟨slot, rfl, bounded, (Except.ok.inj granted).symm, rfl⟩
    · simp [armed, bounded] at granted
  · rw [set_unknown tree store key value unknown] at granted
    cases granted

end SlotStore

namespace SetOutcome

/-- The bytes that a store kept of a value, as an outcome tells them: all of them, or the first
ones, where some are missing. -/
def Keeps (value : String) (kept : Bytes) : SetOutcome → Prop
  | .stored => kept = Utf8.bytes value
  | .truncated valueLength storedLength =>
    valueLength = Utf8.size value ∧ storedLength < valueLength ∧
      kept = (Utf8.bytes value).take storedLength

/-- The outcome of a set tells that the slot keeps the cut value. -/
theorem keeps_writtenOutcome (slot : Slot) (value : String) :
    (SlotStore.writtenOutcome slot value (Slot.fit value)).1.Keeps value
      (Utf8.bytes (Slot.fit value)) := by
  rw [SlotStore.writtenOutcome]
  split
  · rename_i shorter
    exact ⟨rfl, shorter, List.prefix_iff_eq_take.mp (Slot.fit_begins value)⟩
  · rename_i whole
    have small : Utf8.size value ≤ Slot.maximumLength :=
      Nat.le_trans (Nat.le_of_not_lt whole) (Slot.size_fit_le value)
    exact congrArg Utf8.bytes (Slot.fit_eq_self value small)

end SetOutcome

namespace ParameterStore

/-- Whether reads are stopped; only the device of a slot store has that switch. -/
def readFault : ParameterStore → Bool
  | .slots inner => inner.device.readFault
  | .files _ => false

/-- What a store answers from the bytes that it kept of a value. -/
def answered : ParameterStore → Bytes → Bytes
  | .slots _, kept => kept.takeWhile (· ≠ 0)
  | .files _, kept => kept

/-- The bytes that a store keeps come back as they are. -/
def ReturnsWhole : ParameterStore → Bytes → Prop
  | .slots _, kept => 0 ∉ kept
  | .files _, _ => True

/-- What is answered is what was kept exactly where a file store keeps it, or where there is no
zero byte to end it. -/
theorem answered_eq_self_iff (store : ParameterStore) (kept : Bytes) :
    store.answered kept = kept ↔ store.ReturnsWhole kept := by
  cases store with
  | files inner => exact iff_of_true rfl trivial
  | slots inner =>
    have whole : kept.takeWhile (· ≠ 0) = kept ↔ ∀ byte ∈ kept, decide (byte ≠ 0) = true :=
      List.takeWhile_eq_self_iff
    rw [answered, whole]
    constructor
    · intro nonzero zero
      simpa using nonzero 0 zero
    · intro absent byte member
      have nonzero : byte ≠ 0 := fun zero => absent (zero ▸ member)
      simpa using nonzero

/-- A set that succeeds tells what was kept of the value: all of it, or as many first bytes as
the outcome says, and then fewer than there are. The next read of the key answers from these
bytes, and it answers exactly them unless a zero byte in a slot ends the answer early. -/
theorem outcome_tells_what_is_read (tree : FileTree) (store : ParameterStore) (key value : String)
    (outcome : SetOutcome) (working : store.readFault = false)
    (granted : (store.set tree key value).result = .ok outcome) :
    let after := (store.set tree key value).state
    ∃ kept shown, outcome.Keeps value kept ∧ (after.2.get after.1 key).result = .ok shown ∧
      Utf8.bytes shown = store.answered kept ∧
      (Utf8.bytes shown = kept ↔ store.ReturnsWhole kept) := by
  intro after
  cases store with
  | slots inner =>
    obtain ⟨slot, rfl, roomy, told, reached⟩ :=
      SlotStore.set_eq_ok tree inner key value outcome granted
    have read : (after.2.get after.1 slot.name).result = .ok (Slot.readable value) := by
      have state : after = ((inner.set tree slot.name value).state.1,
          .slots (inner.set tree slot.name value).state.2) := rfl
      rw [state, reached, get, SlotStore.result_get_name]
      exact SlotStore.readSlot_put tree inner slot value working roomy
    have shows : Utf8.bytes (Slot.readable value) =
        answered (.slots inner) (Utf8.bytes (Slot.fit value)) :=
      Utf8.bytes_untilZero (Slot.fit value)
    refine ⟨Utf8.bytes (Slot.fit value), Slot.readable value, ?_, read, shows, ?_⟩
    · rw [told]
      exact SetOutcome.keeps_writtenOutcome slot value
    · rw [shows]
      exact answered_eq_self_iff (.slots inner) _
  | files inner =>
    obtain ⟨rfl, read⟩ := FileStore.get_of_set_ok tree key value inner outcome granted
    exact ⟨Utf8.bytes value, value, rfl, read, rfl, iff_of_true rfl trivial⟩

/-- A value of thirty bytes in two-byte characters, set on a memory with exactly the table: all
but the last character are kept, and they are what is read. -/
theorem outcome_tells_what_is_read_of_cut_value :
    let store : ParameterStore := .slots ⟨.ofMemory (.ofSize 160)⟩
    let value := "ééééééééééééééé"
    let after := (store.set .empty "password" value).state
    (store.set .empty "password" value).result = .ok (.truncated 30 28) ∧
      ∃ shown, (after.2.get after.1 "password").result = .ok shown ∧
        Utf8.bytes shown = (Utf8.bytes value).take 28 := by
  intro store value after
  have granted : (store.set .empty "password" value).result = .ok (.truncated 30 28) := by
    decide +kernel
  obtain ⟨kept, shown, ⟨_, _, first⟩, read, _, whole⟩ :=
    outcome_tells_what_is_read .empty store "password" value (.truncated 30 28) rfl granted
  have nonzero : store.ReturnsWhole kept := by
    have absent : (0 : UInt8) ∉ (Utf8.bytes value).take 28 := by decide +kernel
    rw [first]
    exact absent
  exact ⟨granted, shown, read, (whole.mpr nonzero).trans first⟩

/-- A value with a zero byte is reported as stored whole in a slot, and is read only as far as
that byte. -/
theorem stored_value_read_up_to_zero_byte :
    let store : ParameterStore := .slots ⟨.ofMemory (.ofSize 160)⟩
    let value := "a\x00b"
    let after := (store.set .empty "ssid" value).state
    store.readFault = false ∧ (store.set .empty "ssid" value).result = .ok .stored ∧
      (after.2.get after.1 "ssid").result = .ok "a" ∧
      (after.2.get after.1 "ssid").result ≠ .ok value := by
  decide +kernel

end ParameterStore

end DeviceParameters
