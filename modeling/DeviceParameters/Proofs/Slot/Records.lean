import DeviceParameters.Proofs.Bytes.Ranges
import DeviceParameters.Proofs.Slot.Cut
import DeviceParameters.Error
import DeviceParameters.Slot.Table

/-!
# Records in the bytes of a device

The value of a slot as a function of the bytes that a device holds, and the bytes after a value
was put into a slot. Putting a value makes its slot read as that value, as far as it is
readable, whatever was there before: the length field is the new one, and stale bytes of a
longer record are behind it. Every other slot reads as before, since the slots do not meet and
no record passes the end of its own.
-/

namespace DeviceParameters.Slot

/-- The value that bytes hold in a slot, or the fault of its encoding. -/
def valueIn (contents : Bytes) (slot : Slot) : Except ParameterError String :=
  match recordedValue (contents.slice slot.valueOffset
      (recordedLength (contents.slice slot.offset lengthFieldSize))) with
  | .error fault => .error (.invalidValue slot.name (.encoding fault))
  | .ok value => .ok value

/-- The record that a value is written as. -/
def recordOf (value : String) : Bytes := record (fit value)

/-- The bytes after a value was put into a slot. -/
def stored (contents : Bytes) (slot : Slot) (value : String) : Bytes :=
  contents.overwrite slot.offset (recordOf value)

/-- A record is its length field and the bytes of the cut value. -/
theorem length_recordOf (value : String) :
    (recordOf value).length = lengthFieldSize + Utf8.size (fit value) := by
  rw [recordOf, record, List.length_append]
  rfl

/-- A record stays within the stride of the table. -/
theorem length_recordOf_le (value : String) : (recordOf value).length ≤ stride := by
  have cut : Utf8.size (fit value) ≤ maximumLength := size_fit_le value
  rw [length_recordOf]
  exact Nat.add_le_add_left cut lengthFieldSize

theorem recordOf_ne_nil (value : String) : recordOf value ≠ [] := by
  simp [recordOf, record, Bytes.littleEndian]

/-- A record stays within the table. -/
theorem offset_add_recordOf_le (slot : Slot) (value : String) :
    slot.offset + (recordOf value).length ≤ tableSize :=
  Nat.le_trans (Nat.add_le_add_left (length_recordOf_le value) slot.offset)
    (offset_add_stride_le slot)

/-- Two slots have two positions. -/
theorem index_injective (left right : Slot) (same : left.index = right.index) : left = right := by
  cases left <;> cases right <;> revert same <;> decide

/-- Two slots start at two places. -/
theorem offset_injective (left right : Slot) (same : left.offset = right.offset) : left = right :=
  index_injective left right (Nat.eq_of_mul_eq_mul_right (by decide : 0 < stride) same)

/-- Slots do not meet. -/
theorem offset_apart (left right : Slot) (different : left ≠ right) :
    left.offset + stride ≤ right.offset ∨ right.offset + stride ≤ left.offset := by
  have positions : left.index ≠ right.index := fun same => different (index_injective left right same)
  have width : stride = 32 := rfl
  rw [offset, offset, width]
  omega

/-- A length field stands for no more than a slot can hold. -/
theorem recordedLength_le (lengthField : Bytes) : recordedLength lengthField ≤ maximumLength :=
  Nat.min_le_right _ _

/-- The bytes of a value read as that value up to its first zero character. -/
theorem recordedValue_bytes (value : String) :
    recordedValue (Utf8.bytes value) = .ok (Utf8.untilZero value) := by
  rw [recordedValue, ← Utf8.bytes_untilZero, Utf8.text_eq_ok_iff]

/-- The length field of a record gives the length of the cut value. -/
theorem recordedLength_recordOf (value : String) :
    recordedLength ((recordOf value).slice 0 lengthFieldSize) = Utf8.size (fit value) := by
  have cut : Utf8.size (fit value) ≤ maximumLength := size_fit_le value
  have small : Utf8.size (fit value) < 4294967296 := Nat.lt_of_le_of_lt cut (by decide)
  have field : (recordOf value).slice 0 lengthFieldSize = Bytes.littleEndian (Utf8.size (fit value)) := by
    simp [recordOf, record, Bytes.slice, Bytes.littleEndian, lengthFieldSize]
  rw [field, recordedLength, Bytes.littleEndianValue_littleEndian _ small]
  exact Nat.min_eq_left cut

/-- Behind the length field of a record stands the cut value. -/
theorem slice_recordOf (value : String) :
    (recordOf value).slice lengthFieldSize (Utf8.size (fit value)) = Utf8.bytes (fit value) := by
  simp [recordOf, record, Bytes.slice, Bytes.littleEndian, lengthFieldSize, Utf8.size]

/-- The length field of a slot after a value was put into it. -/
theorem recordedLength_stored (contents : Bytes) (slot : Slot) (value : String) :
    recordedLength ((slot.stored contents value).slice slot.offset lengthFieldSize) =
      Utf8.size (fit value) := by
  have field := Bytes.slice_overwrite_within contents slot.offset (recordOf value) 0 lengthFieldSize
    (by rw [length_recordOf]; omega)
  rw [stored]
  exact (congrArg recordedLength field).trans (recordedLength_recordOf value)

/-- A slot into which a value was put reads as that value, as far as it is readable, whatever
the bytes were before. -/
theorem valueIn_stored (contents : Bytes) (slot : Slot) (value : String) :
    slot.valueIn (slot.stored contents value) = .ok (readable value) := by
  have body : (slot.stored contents value).slice slot.valueOffset (Utf8.size (fit value)) =
      Utf8.bytes (fit value) := by
    rw [stored, valueOffset, Bytes.slice_overwrite_within _ _ _ _ _
      (Nat.le_of_eq (length_recordOf value).symm), slice_recordOf]
  rw [valueIn, recordedLength_stored, body, recordedValue_bytes]
  rfl

/-- A slot reads as before when a value is put into another one. -/
theorem valueIn_stored_of_ne (contents : Bytes) (slot other : Slot) (value : String)
    (roomy : tableSize ≤ contents.length) (different : other ≠ slot) :
    other.valueIn (slot.stored contents value) = other.valueIn contents := by
  have inside : slot.offset + (recordOf value).length ≤ contents.length :=
    Nat.le_trans (offset_add_recordOf_le slot value) roomy
  have short : (recordOf value).length ≤ stride := length_recordOf_le value
  have apart := offset_apart other slot different
  have field : (slot.stored contents value).slice other.offset lengthFieldSize =
      contents.slice other.offset lengthFieldSize := by
    apply Bytes.slice_overwrite_apart _ _ _ _ _ inside
    have fieldFits : lengthFieldSize ≤ stride := by decide
    omega
  have body (length : Nat) (small : length ≤ maximumLength) :
      (slot.stored contents value).slice other.valueOffset length =
        contents.slice other.valueOffset length := by
    apply Bytes.slice_overwrite_apart _ _ _ _ _ inside
    have whole : lengthFieldSize + maximumLength = stride := rfl
    rw [valueOffset]
    omega
  rw [valueIn, field, body _ (recordedLength_le _), valueIn]

end DeviceParameters.Slot
