import DeviceParameters.Text.Utf8.Inverse

/-!
# Characters of one byte

A byte below 0x80 stands in an encoding only where it is a character by itself. So a
separator or a zero byte in a text is a separator or a zero character, and cutting the bytes
at the first zero byte is the same as cutting the characters at the first zero character:
what is left is well-formed text.

Two texts with the same bytes are the same text, since decoding undoes encoding.
-/

namespace DeviceParameters.Utf8

/-- The bytes of a sequence are those of its first character and then those of the rest. -/
theorem encode_cons (char : Char) (rest : List Char) :
    encode (char :: rest) = encodeChar char ++ encode rest := List.flatMap_cons

theorem encode_append (front back : List Char) :
    encode (front ++ back) = encode front ++ encode back := List.flatMap_append

theorem bytes_ofList (chars : List Char) : bytes (String.ofList chars) = encode chars := by
  simp [bytes]

/-- Two texts with the same bytes are the same. -/
theorem bytes_injective (left right : String) (same : bytes left = bytes right) : left = right := by
  have spelled : text (bytes left) = .ok right := (text_eq_ok_iff _ _).mpr same
  have itself : text (bytes left) = .ok left := (text_eq_ok_iff _ _).mpr rfl
  exact Except.ok.inj (itself.symm.trans spelled)

/-- A character below 0x80 is one byte, of its own number. -/
theorem encodeChar_of_small (char : Char) (small : char.toNat < 0x80) :
    encodeChar char = [UInt8.ofNat char.toNat] := by
  simp [encodeChar, small]

/-- The number of a character is below the end of the code space. -/
theorem toNat_lt (char : Char) : char.toNat < 0x110000 := by
  rcases char.valid with low | high
  · exact Nat.lt_trans low (by decide)
  · exact high.2

/-- No byte of a longer character is below 0x80. -/
theorem le_of_mem_encodeChar (char : Char) (byte : UInt8) (large : 0x80 ≤ char.toNat)
    (member : byte ∈ encodeChar char) : 0x80 ≤ byte.toNat := by
  have valid : char.toNat < 0x110000 := toNat_lt char
  rw [encodeChar] at member
  generalize char.toNat = code at *
  rw [if_neg (Nat.not_lt_of_le large)] at member
  have marked (value : Nat) (lower : 0x80 ≤ value) (upper : value < 256)
      (same : byte = UInt8.ofNat value) : 0x80 ≤ byte.toNat := by
    rw [same, toNat_byte upper]
    exact lower
  split at member
  · rcases List.mem_cons.mp member with first | last
    · exact marked _ (by omega) (by omega) first
    · exact marked _ (by omega) (by omega) (List.mem_singleton.mp last)
  split at member
  · simp only [List.mem_cons, List.not_mem_nil, or_false] at member
    rcases member with first | second | third
    · exact marked _ (by omega) (by omega) first
    · exact marked _ (by omega) (by omega) second
    · exact marked _ (by omega) (by omega) third
  · simp only [List.mem_cons, List.not_mem_nil, or_false] at member
    rcases member with first | second | third | fourth
    · exact marked _ (by omega) (by omega) first
    · exact marked _ (by omega) (by omega) second
    · exact marked _ (by omega) (by omega) third
    · exact marked _ (by omega) (by omega) fourth

/-- A byte below 0x80 is in the bytes of a character exactly when it is that character. -/
theorem mem_encodeChar_iff (char : Char) (byte : UInt8) (small : byte.toNat < 0x80) :
    byte ∈ encodeChar char ↔ char.toNat = byte.toNat := by
  constructor
  · intro member
    have short : char.toNat < 0x80 := by
      apply Nat.lt_of_not_le
      intro large
      exact Nat.not_le_of_lt small (le_of_mem_encodeChar char byte large member)
    rw [encodeChar_of_small char short, List.mem_singleton] at member
    rw [member, toNat_byte (by omega)]
  · intro same
    rw [encodeChar_of_small char (by omega), List.mem_singleton, same, UInt8.ofNat_toNat]

/-- A byte below 0x80 is in the bytes of a sequence exactly when its character is in the
sequence. -/
theorem mem_encode_iff (chars : List Char) (byte : UInt8) (small : byte.toNat < 0x80) :
    byte ∈ encode chars ↔ ∃ char ∈ chars, char.toNat = byte.toNat := by
  simp only [encode, List.mem_flatMap, mem_encodeChar_iff _ _ small]

/-- A character without a zero byte is any but the zero character. -/
theorem zero_not_mem_encodeChar (char : Char) (different : char ≠ '\x00') :
    ∀ byte ∈ encodeChar char, byte ≠ 0 := by
  rintro byte member rfl
  apply different
  have zero : char.toNat = 0 := (mem_encodeChar_iff char 0 (by decide)).mp member
  rw [← Char.ofNat_toNat char, zero]

/-- Cutting bytes at the first zero byte cuts characters at the first zero character. -/
theorem takeWhile_encode (chars : List Char) :
    (encode chars).takeWhile (· ≠ 0) = encode (chars.takeWhile (· ≠ '\x00')) := by
  induction chars with
  | nil => rfl
  | cons char rest inductionHypothesis =>
    by_cases zero : char = '\x00'
    · subst zero
      rfl
    · have kept : ∀ byte ∈ encodeChar char, decide (byte ≠ 0) = true := fun byte member =>
        decide_eq_true (zero_not_mem_encodeChar char zero byte member)
      have first : (char :: rest).takeWhile (· ≠ '\x00') = char :: rest.takeWhile (· ≠ '\x00') := by
        simp [zero]
      rw [encode_cons, List.takeWhile_append_of_pos kept, inductionHypothesis, first, encode_cons]

/-- A text as far as its first zero character. -/
def untilZero (text : String) : String := String.ofList (text.toList.takeWhile (· ≠ '\x00'))

/-- The bytes of a cut text are its bytes as far as the first zero byte. -/
theorem bytes_untilZero (text : String) :
    bytes (untilZero text) = (bytes text).takeWhile (· ≠ 0) := by
  rw [untilZero, bytes_ofList, bytes, takeWhile_encode]

end DeviceParameters.Utf8
