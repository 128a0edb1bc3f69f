import DeviceParameters.Bytes

/-!
# Text as bytes

The encoding of text in one to four bytes a character, and its decoding with an exact
report of the first fault. A fault names the index where well-formed text ends and, when
the bytes there can never become a character, the number of bytes that are beyond repair.

Decoding is one pass, a byte at a time, with at most one character under way. The second
byte of a character is narrowed by the first one, so overlong forms, surrogates and values
above the last character are faults at that byte and not later.
-/

namespace DeviceParameters.Utf8

/-- Where the first character that is not well formed starts. -/
inductive Fault where
  /-- The `length` bytes from `index` on begin no character. -/
  | malformed (index length : Nat)
  /-- The bytes end inside the character that starts at `index`. -/
  | incomplete (index : Nat)
  deriving DecidableEq, Repr

/-- The wording of a fault. -/
def Fault.message : Fault → String
  | .malformed index length => s!"invalid utf-8 sequence of {length} bytes from index {index}"
  | .incomplete index => s!"incomplete utf-8 byte sequence from index {index}"

/-- The bytes of one character. -/
def encodeChar (char : Char) : Bytes :=
  let code := char.toNat
  if code < 0x80 then [UInt8.ofNat code]
  else if code < 0x800 then [UInt8.ofNat (0xC0 + code / 64), UInt8.ofNat (0x80 + code % 64)]
  else if code < 0x10000 then
    [UInt8.ofNat (0xE0 + code / 4096), UInt8.ofNat (0x80 + code / 64 % 64),
      UInt8.ofNat (0x80 + code % 64)]
  else
    [UInt8.ofNat (0xF0 + code / 262144), UInt8.ofNat (0x80 + code / 4096 % 64),
      UInt8.ofNat (0x80 + code / 64 % 64), UInt8.ofNat (0x80 + code % 64)]

/-- The bytes of a sequence of characters. -/
def encode (chars : List Char) : Bytes := chars.flatMap encodeChar

/-- The bytes of a text. -/
def bytes (text : String) : Bytes := encode text.toList

/-- The number of bytes of a text. -/
def size (text : String) : Nat := (bytes text).length

/-- A character under way: where it started, how many of its bytes were read, how many are
still to come, the bounds of the next one, and the value so far. -/
structure Pending where
  start : Nat
  seen : Nat
  missing : Nat
  lowest : Nat
  highest : Nat
  value : Nat

/-- What a first byte promises: a whole character, the start of a longer one, or nothing. -/
inductive Lead where
  | whole (char : Char)
  | opens (pending : Pending)
  | none

/-- Classify the first byte of a character at an index. -/
def lead (index : Nat) (byte : UInt8) : Lead :=
  let value := byte.toNat
  if value < 0x80 then .whole (Char.ofNat value)
  else if value < 0xC2 then .none
  else if value < 0xE0 then .opens ⟨index, 1, 1, 0x80, 0xBF, value - 0xC0⟩
  else if value = 0xE0 then .opens ⟨index, 1, 2, 0xA0, 0xBF, 0⟩
  else if value = 0xED then .opens ⟨index, 1, 2, 0x80, 0x9F, 0xD⟩
  else if value < 0xF0 then .opens ⟨index, 1, 2, 0x80, 0xBF, value - 0xE0⟩
  else if value = 0xF0 then .opens ⟨index, 1, 3, 0x90, 0xBF, 0⟩
  else if value < 0xF4 then .opens ⟨index, 1, 3, 0x80, 0xBF, value - 0xF0⟩
  else if value = 0xF4 then .opens ⟨index, 1, 3, 0x80, 0x8F, 4⟩
  else .none

/-- The character under way after one more byte within its bounds. -/
def Pending.extend (pending : Pending) (byte : UInt8) : Pending :=
  ⟨pending.start, pending.seen + 1, pending.missing - 1, 0x80, 0xBF,
    pending.value * 64 + (byte.toNat - 0x80)⟩

/-- Read the remaining bytes, the next one standing at `index`. -/
def scan (index : Nat) : Option Pending → Bytes → Except Fault (List Char)
  | none, [] => .ok []
  | some pending, [] => .error (.incomplete pending.start)
  | none, byte :: rest =>
    match lead index byte with
    | .whole char => (scan (index + 1) none rest).map (char :: ·)
    | .opens pending => scan (index + 1) (some pending) rest
    | .none => .error (.malformed index 1)
  | some pending, byte :: rest =>
    if pending.lowest ≤ byte.toNat ∧ byte.toNat ≤ pending.highest then
      let next := pending.extend byte
      if next.missing = 0 then (scan (index + 1) none rest).map (Char.ofNat next.value :: ·)
      else scan (index + 1) (some next) rest
    else .error (.malformed pending.start pending.seen)

/-- The characters that bytes spell, or the first fault. -/
def decode (contents : Bytes) : Except Fault (List Char) := scan 0 none contents

/-- The text that bytes spell, or the first fault. -/
def text (contents : Bytes) : Except Fault String := (decode contents).map String.ofList

/-- The text that bytes spell, if they spell one. -/
def text? (contents : Bytes) : Option String := (text contents).toOption

/-- Stands for bytes that spell no character. -/
def replacement : Char := Char.ofNat 0xFFFD

/-- Read the remaining bytes, writing the replacement character for every run of bytes that
spells none. A byte that breaks off a character is read again as a first byte. -/
def scanLossy : Option Pending → Bytes → List Char
  | none, [] => []
  | some _, [] => [replacement]
  | none, byte :: rest =>
    match lead 0 byte with
    | .whole char => char :: scanLossy none rest
    | .opens pending => scanLossy (some pending) rest
    | .none => replacement :: scanLossy none rest
  | some pending, byte :: rest =>
    if pending.lowest ≤ byte.toNat ∧ byte.toNat ≤ pending.highest then
      let next := pending.extend byte
      if next.missing = 0 then Char.ofNat next.value :: scanLossy none rest
      else scanLossy (some next) rest
    else
      replacement :: match lead 0 byte with
        | .whole char => char :: scanLossy none rest
        | .opens started => scanLossy (some started) rest
        | .none => replacement :: scanLossy none rest

/-- Bytes as text for a reader, whatever they are. -/
def display (contents : Bytes) : String := String.ofList (scanLossy none contents)

end DeviceParameters.Utf8
