import DeviceParameters.Slot.Table
import DeviceParameters.Text.Utf8

/-!
# Slot records

What a slot holds: the length of a value, low byte first, and the bytes of the value. A value
that is longer than a slot is cut after the last character that fits whole. On reading, the
length is taken for no more than the slot can hold, and the value ends at its first zero byte,
so that any bytes at all are a value or a fault of encoding.
-/

namespace DeviceParameters.Slot

/-- The longest beginning of a text that has at most `room` bytes. -/
def takeFitting (room : Nat) : List Char → List Char
  | [] => []
  | char :: rest =>
    if (Utf8.encodeChar char).length ≤ room then
      char :: takeFitting (room - (Utf8.encodeChar char).length) rest
    else []

/-- A value as far as it fits into a slot. -/
def fit (value : String) : String := String.ofList (takeFitting maximumLength value.toList)

/-- The record of a value that fits. -/
def record (value : String) : Bytes :=
  Bytes.littleEndian (Utf8.size value) ++ Utf8.bytes value

/-- The length of the value behind a length field. -/
def recordedLength (lengthField : Bytes) : Nat :=
  min (Bytes.littleEndianValue lengthField) maximumLength

/-- The value in the bytes behind a length field. -/
def recordedValue (contents : Bytes) : Except Utf8.Fault String :=
  Utf8.text (contents.takeWhile (· ≠ 0))

end DeviceParameters.Slot
