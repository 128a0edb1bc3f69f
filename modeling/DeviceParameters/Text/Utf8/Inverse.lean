import DeviceParameters.Text.Utf8

/-!
# Encoding and decoding are inverse

What is encoded is decoded to the same characters, and what is decoded was the encoding of
its result: `decode_eq_ok_iff`. So well-formed bytes and texts are the same thing, and no
text has two spellings in bytes.

The first direction walks the bytes of one character at a time. The second says of a
character under way that whatever bytes it may still accept complete the encoding of the
character they spell (`Pending.Begins`), and follows the scan with that. Nothing is claimed
here about which fault is reported.
-/

namespace DeviceParameters.Utf8

/-- A small number is kept by its byte. -/
theorem toNat_byte {value : Nat} (small : value < 256) : (UInt8.ofNat value).toNat = value := by
  simp [UInt8.toNat_ofNat']; omega

/-- A byte within the bounds of the character under way is taken up; the last one ends it. -/
theorem scan_within (index : Nat) (pending : Pending) (value : Nat) (rest : Bytes)
    (small : value < 256) (within : pending.lowest ≤ value ∧ value ≤ pending.highest) :
    scan index (some pending) (UInt8.ofNat value :: rest) =
      if pending.missing - 1 = 0 then
        (scan (index + 1) none rest).map
          (Char.ofNat (pending.value * 64 + (value - 0x80)) :: ·)
      else scan (index + 1)
        (some ⟨pending.start, pending.seen + 1, pending.missing - 1, 0x80, 0xBF,
          pending.value * 64 + (value - 0x80)⟩) rest := by
  simp [scan, Pending.extend, toNat_byte small, within]

/-- The bytes of a character are scanned as that character, whatever follows them. -/
theorem scan_encodeChar (index : Nat) (char : Char) (rest : Bytes) :
    scan index none (encodeChar char ++ rest) =
      (scan (index + (encodeChar char).length) none rest).map (char :: ·) := by
  have valid : char.toNat < 0xD800 ∨ (0xDFFF < char.toNat ∧ char.toNat < 0x110000) := char.valid
  have back : Char.ofNat char.toNat = char := Char.ofNat_toNat char
  unfold encodeChar
  generalize char.toNat = code at *
  subst back
  dsimp only
  split
  · rename_i small
    simp [scan, lead, toNat_byte (by omega : code < 256), small]
  split
  · have first := toNat_byte (by omega : 0xC0 + code / 64 < 256)
    have opening : lead index (UInt8.ofNat (0xC0 + code / 64)) =
        .opens ⟨index, 1, 1, 0x80, 0xBF, code / 64⟩ := by
      simp only [lead, first]
      rw [if_neg (by omega), if_neg (by omega), if_pos (by omega)]
      simp
    have whole : code / 64 * 64 + (0x80 + code % 64 - 0x80) = code := by omega
    rw [List.cons_append, scan, opening, List.cons_append]
    dsimp only
    rw [scan_within _ _ _ _ (by omega) (by dsimp only; omega)]
    simp only [whole, List.nil_append, List.length_cons, List.length_nil]
    rfl
  split
  · have first := toNat_byte (by omega : 0xE0 + code / 4096 < 256)
    obtain ⟨lowest, highest, opening, lower, upper⟩ : ∃ lowest highest,
        lead index (UInt8.ofNat (0xE0 + code / 4096)) =
          .opens ⟨index, 1, 2, lowest, highest, code / 4096⟩ ∧
        lowest ≤ 0x80 + code / 64 % 64 ∧ 0x80 + code / 64 % 64 ≤ highest := by
      simp only [lead, first]
      rw [if_neg (by omega), if_neg (by omega), if_neg (by omega)]
      split
      · exact ⟨_, _, by rw [(by omega : code / 4096 = 0)], by omega, by omega⟩
      split
      · exact ⟨_, _, by rw [(by omega : code / 4096 = 0xD)], by omega, by omega⟩
      rw [if_pos (by omega), Nat.add_sub_cancel_left]
      exact ⟨_, _, rfl, by omega, by omega⟩
    have whole : (code / 4096 * 64 + (0x80 + code / 64 % 64 - 0x80)) * 64 +
        (0x80 + code % 64 - 0x80) = code := by omega
    rw [List.cons_append, scan, opening, List.cons_append, List.cons_append]
    dsimp only
    rw [scan_within _ _ _ _ (by omega) ⟨lower, upper⟩, if_neg (by dsimp only; omega)]
    dsimp only
    rw [scan_within _ _ _ _ (by omega) (by dsimp only; omega), if_pos (by dsimp only), whole]
    rfl
  · have first := toNat_byte (by omega : 0xF0 + code / 262144 < 256)
    obtain ⟨lowest, highest, opening, lower, upper⟩ : ∃ lowest highest,
        lead index (UInt8.ofNat (0xF0 + code / 262144)) =
          .opens ⟨index, 1, 3, lowest, highest, code / 262144⟩ ∧
        lowest ≤ 0x80 + code / 4096 % 64 ∧ 0x80 + code / 4096 % 64 ≤ highest := by
      simp only [lead, first]
      rw [if_neg (by omega), if_neg (by omega), if_neg (by omega), if_neg (by omega),
        if_neg (by omega), if_neg (by omega)]
      split
      · exact ⟨_, _, by rw [(by omega : code / 262144 = 0)], by omega, by omega⟩
      split
      · rw [Nat.add_sub_cancel_left]
        exact ⟨_, _, rfl, by omega, by omega⟩
      rw [if_pos (by omega)]
      exact ⟨_, _, by rw [(by omega : code / 262144 = 4)], by omega, by omega⟩
    have whole : ((code / 262144 * 64 + (0x80 + code / 4096 % 64 - 0x80)) * 64 +
        (0x80 + code / 64 % 64 - 0x80)) * 64 + (0x80 + code % 64 - 0x80) = code := by omega
    rw [List.cons_append, scan, opening, List.cons_append, List.cons_append, List.cons_append]
    dsimp only
    rw [scan_within _ _ _ _ (by omega) ⟨lower, upper⟩, if_neg (by dsimp only; omega)]
    dsimp only
    rw [scan_within _ _ _ _ (by omega) (by dsimp only; omega), if_neg (by dsimp only; omega)]
    dsimp only
    rw [scan_within _ _ _ _ (by omega) (by dsimp only; omega), if_pos (by dsimp only), whole]
    rfl

/-- Decoding undoes encoding. -/
theorem decode_encode (chars : List Char) : decode (encode chars) = .ok chars := by
  suffices ∀ index, scan index none (encode chars) = .ok chars from this 0
  induction chars with
  | nil => intro index; rfl
  | cons char rest inductionHypothesis =>
    intro index
    have apart : encode (char :: rest) = encodeChar char ++ encode rest := List.flatMap_cons
    rw [apart, scan_encodeChar, inductionHypothesis]
    rfl

/-- A code point is kept by its character. -/
theorem toNat_char {value : Nat} (valid : value < 0xD800 ∨ (0xDFFF < value ∧ value < 0x110000)) :
    (Char.ofNat value).toNat = value := by
  have legal : value.isValidChar := valid
  rw [Char.ofNat, dif_pos legal]
  rfl

/-- A byte is made from its own number. -/
theorem ofNat_eq (byte : UInt8) {value : Nat} (same : value = byte.toNat) :
    UInt8.ofNat value = byte := by
  subst same; simp

/-- The bytes read so far begin a character that every allowed rest completes. -/
def Pending.Begins (front : Bytes) : Nat → Pending → Prop
  | 0, _ => False
  | 1, pending => pending.missing = 1 ∧ ∀ byte : UInt8,
      pending.lowest ≤ byte.toNat → byte.toNat ≤ pending.highest →
        encodeChar (Char.ofNat (pending.extend byte).value) = front ++ [byte]
  | missing + 2, pending => pending.missing = missing + 2 ∧ ∀ byte : UInt8,
      pending.lowest ≤ byte.toNat → byte.toNat ≤ pending.highest →
        Begins (front ++ [byte]) (missing + 1) (pending.extend byte)

/-- A first byte that is a character by itself is all of its encoding. -/
theorem encodeChar_of_lead_whole {index : Nat} {byte : UInt8} {char : Char}
    (whole : lead index byte = .whole char) : encodeChar char = [byte] := by
  unfold lead at whole
  dsimp only at whole
  split at whole
  · rename_i small
    obtain rfl := Lead.whole.inj whole
    unfold encodeChar
    rw [toNat_char (Or.inl (by omega)), if_pos small]
    simp
  · repeat' split at whole
    all_goals simp at whole

/-- The start of a character of three bytes. -/
theorem begins_three {index lowest highest value : Nat} {byte : UInt8}
    (first : byte.toNat = 0xE0 + value) (small : value < 16)
    (bounds : 0x80 ≤ lowest ∧ highest ≤ 0xBF) (long : value = 0 → 0xA0 ≤ lowest)
    (assigned : value = 0xD → highest ≤ 0x9F) :
    Pending.Begins [byte] 2 ⟨index, 1, 2, lowest, highest, value⟩ := by
  refine ⟨rfl, fun second lower upper => ⟨rfl, fun third lower' upper' => ?_⟩⟩
  dsimp only [Pending.extend] at *
  unfold encodeChar
  rw [toNat_char (by omega)]
  dsimp only
  rw [if_neg (by omega), if_neg (by omega), if_pos (by omega), ofNat_eq byte (by omega),
    ofNat_eq second (by omega), ofNat_eq third (by omega)]
  rfl

/-- The start of a character of four bytes. -/
theorem begins_four {index lowest highest value : Nat} {byte : UInt8}
    (first : byte.toNat = 0xF0 + value) (small : value < 5)
    (bounds : 0x80 ≤ lowest ∧ highest ≤ 0xBF) (long : value = 0 → 0x90 ≤ lowest)
    (assigned : value = 4 → highest ≤ 0x8F) :
    Pending.Begins [byte] 3 ⟨index, 1, 3, lowest, highest, value⟩ := by
  refine ⟨rfl, fun second lower upper => ⟨rfl, fun third lower' upper' => ⟨rfl,
    fun fourth lower'' upper'' => ?_⟩⟩⟩
  dsimp only [Pending.extend] at *
  unfold encodeChar
  rw [toNat_char (by omega)]
  dsimp only
  rw [if_neg (by omega), if_neg (by omega), if_neg (by omega), ofNat_eq byte (by omega),
    ofNat_eq second (by omega), ofNat_eq third (by omega),
    ofNat_eq fourth (by omega)]
  rfl

/-- A first byte that opens a character begins the encodings of the characters that it allows. -/
theorem begins_of_lead {index : Nat} {byte : UInt8} {pending : Pending}
    (opens : lead index byte = .opens pending) : pending.Begins [byte] pending.missing := by
  have bounded := byte.toNat_lt
  unfold lead at opens
  dsimp only at opens
  split at opens
  · simp at opens
  split at opens
  · simp at opens
  split at opens
  · obtain rfl := Lead.opens.inj opens
    refine ⟨rfl, fun second lower upper => ?_⟩
    dsimp only [Pending.extend] at *
    unfold encodeChar
    rw [toNat_char (by omega)]
    dsimp only
    rw [if_neg (by omega), if_pos (by omega), ofNat_eq byte (by omega),
      ofNat_eq second (by omega)]
    rfl
  split at opens
  · obtain rfl := Lead.opens.inj opens
    exact begins_three (by omega) (by omega) (by omega) (by omega) (by omega)
  split at opens
  · obtain rfl := Lead.opens.inj opens
    exact begins_three (by omega) (by omega) (by omega) (by omega) (by omega)
  split at opens
  · obtain rfl := Lead.opens.inj opens
    exact begins_three (by omega) (by omega) (by omega) (by omega) (by omega)
  split at opens
  · obtain rfl := Lead.opens.inj opens
    exact begins_four (by omega) (by omega) (by omega) (by omega) (by omega)
  split at opens
  · obtain rfl := Lead.opens.inj opens
    exact begins_four (by omega) (by omega) (by omega) (by omega) (by omega)
  split at opens
  · obtain rfl := Lead.opens.inj opens
    exact begins_four (by omega) (by omega) (by omega) (by omega) (by omega)
  · simp at opens

/-- A scan that succeeds has read the encoding of its result, from a fresh start and in the
middle of a character. -/
theorem scan_sound (contents : Bytes) :
    (∀ index chars, scan index none contents = .ok chars → encode chars = contents) ∧
    (∀ index pending front chars, pending.Begins front pending.missing →
      scan index (some pending) contents = .ok chars → encode chars = front ++ contents) := by
  induction contents with
  | nil =>
    constructor
    · intro index chars scanned
      obtain rfl := Except.ok.inj scanned
      rfl
    · intro index pending front chars _ scanned
      simp [scan] at scanned
  | cons byte rest inductionHypothesis =>
    obtain ⟨fresh, resumed⟩ := inductionHypothesis
    constructor
    · intro index chars scanned
      unfold scan at scanned
      split at scanned
      · rename_i char whole
        cases later : scan (index + 1) none rest with
        | error fault => simp [later, Except.map] at scanned
        | ok others =>
          simp only [later, Except.map, Except.ok.injEq] at scanned
          subst scanned
          have apart : encode (char :: others) = encodeChar char ++ encode others := List.flatMap_cons
          rw [apart, encodeChar_of_lead_whole whole, fresh _ _ later]
          rfl
      · rename_i pending opens
        exact resumed _ _ [byte] _ (begins_of_lead opens) scanned
      · simp at scanned
    · intro index pending front chars begun scanned
      unfold scan at scanned
      split at scanned
      · rename_i within
        obtain ⟨missing, counted⟩ : ∃ missing, pending.missing = missing := ⟨_, rfl⟩
        rw [counted] at begun
        match missing, begun with
        | 1, ⟨_, completes⟩ =>
          have whole := completes byte within.1 within.2
          simp only [Pending.extend, counted, Nat.sub_self, if_true] at scanned
          cases later : scan (index + 1) none rest with
          | error fault => simp [later, Except.map] at scanned
          | ok others =>
            simp only [later, Except.map, Except.ok.injEq] at scanned
            subst scanned
            have apart (char : Char) : encode (char :: others) = encodeChar char ++ encode others :=
              List.flatMap_cons
            simp only [Pending.extend] at whole
            rw [apart, whole, fresh _ _ later]
            simp
        | more + 2, ⟨_, continues⟩ =>
          have later := continues byte within.1 within.2
          have left : (pending.extend byte).missing = more + 1 := by simp [Pending.extend, counted]
          simp only [left, Nat.succ_ne_zero, if_false] at scanned
          rw [resumed _ _ (front ++ [byte]) _ (by rw [left]; exact later) scanned]
          simp
      · simp at scanned

/-- Encoding undoes decoding. -/
theorem encode_of_decode {contents : Bytes} {chars : List Char}
    (decoded : decode contents = .ok chars) : encode chars = contents :=
  (scan_sound contents).1 0 chars decoded

/-- Decoding accepts exactly the encodings of its results. -/
theorem decode_eq_ok_iff (contents : Bytes) (chars : List Char) :
    decode contents = .ok chars ↔ contents = encode chars :=
  ⟨fun decoded => (encode_of_decode decoded).symm, fun same => same ▸ decode_encode chars⟩

/-- Bytes spell a text exactly when they are the bytes of that text. -/
theorem text_eq_ok_iff (contents : Bytes) (value : String) :
    text contents = .ok value ↔ contents = bytes value := by
  unfold text bytes
  rw [← decode_eq_ok_iff]
  cases decode contents with
  | error fault => simp [Except.map]
  | ok chars => simp [Except.map, String.ext_iff]

end DeviceParameters.Utf8
