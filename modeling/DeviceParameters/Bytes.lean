/-!
# Byte strings

A byte string is a plain list of bytes, so that a device, an image and a file are all read
through one view. The operations here are the ones that media need: a range is cut out,
a range is replaced, a length is set, and a number is written with its low byte first.

Writing beyond the end fills the gap with zeros; writing nothing changes nothing, wherever
it is asked to happen. Bounds are checked by the callers, not here.
-/

namespace DeviceParameters

/-- Bytes in order, the first at offset zero. -/
abbrev Bytes := List UInt8

namespace Bytes

/-- A run of zero bytes. -/
def zeros (length : Nat) : Bytes := List.replicate length 0

/-- The bytes of a range, or as many of them as there are. -/
def slice (contents : Bytes) (offset length : Nat) : Bytes :=
  (contents.drop offset).take length

/-- Put `data` at an offset. A gap between the old end and the offset reads as zeros. -/
def overwrite (contents : Bytes) (offset : Nat) (data : Bytes) : Bytes :=
  if data = [] then contents
  else contents.take offset ++ zeros (offset - contents.length) ++ data ++
    contents.drop (offset + data.length)

/-- Cut to a length, or extend to it with zeros. -/
def resize (contents : Bytes) (length : Nat) : Bytes :=
  contents.take length ++ zeros (length - contents.length)

/-- A number as four bytes, low byte first; only its low 32 bits are kept. -/
def littleEndian (value : Nat) : Bytes :=
  [UInt8.ofNat value, UInt8.ofNat (value / 256), UInt8.ofNat (value / 65536),
    UInt8.ofNat (value / 16777216)]

/-- The number that bytes stand for, low byte first. -/
def littleEndianValue : Bytes → Nat
  | [] => 0
  | byte :: rest => byte.toNat + 256 * littleEndianValue rest

/-- Setting a length gives exactly that length. -/
theorem length_resize (contents : Bytes) (length : Nat) :
    (resize contents length).length = length := by
  simp only [resize, zeros, List.length_append, List.length_take, List.length_replicate]
  omega

/-- A replacement inside the bounds keeps the length. -/
theorem length_overwrite (contents : Bytes) (offset : Nat) (data : Bytes)
    (inside : offset + data.length ≤ contents.length) :
    (overwrite contents offset data).length = contents.length := by
  unfold overwrite zeros
  split
  · rfl
  · simp only [List.length_append, List.length_take, List.length_replicate, List.length_drop]
    omega

/-- Four bytes hold every number below 2 ^ 32, and reading gives it back. -/
theorem littleEndianValue_littleEndian (value : Nat) (fits : value < 4294967296) :
    littleEndianValue (littleEndian value) = value := by
  simp only [littleEndian, littleEndianValue, UInt8.toNat_ofNat']
  omega

end Bytes

end DeviceParameters
