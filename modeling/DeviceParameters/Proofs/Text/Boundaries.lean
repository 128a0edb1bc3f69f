import DeviceParameters.Proofs.Text.SingleBytes

/-!
# Boundaries between characters

Where the bytes of a text can be cut is seen from one byte: a cut before a byte that continues a
character would divide that character, and any other cut stands between two characters. So the
boundaries of a text are the lengths of its beginnings in whole characters.

A search for a boundary steps back from an index, one byte at a time, and takes the first one that
it meets, which is the last one not behind that index. The start of a text is a boundary, so the
search never passes it, and no character has more than three bytes that continue it, so three steps
are enough from anywhere within the text.
-/

namespace DeviceParameters.Utf8

/-- Whether a byte continues a character that an earlier byte began. -/
def continues (byte : UInt8) : Bool := 0x80 ≤ byte.toNat && byte.toNat < 0xC0

/-- Whether the bytes of a text may be cut at an index: at either end, and before any byte that
does not continue a character. -/
def isBoundary (contents : Bytes) (index : Nat) : Bool :=
  index = 0 || match contents[index]? with
    | none => index = contents.length
    | some byte => !continues byte

/-- Step back from an index as long as it is no boundary: the number of steps, and the boundary
that is met. There is none where a step would pass the start. -/
def stepBack (contents : Bytes) : Nat → Option (Nat × Nat)
  | 0 => if isBoundary contents 0 then some (0, 0) else none
  | index + 1 =>
    if isBoundary contents (index + 1) then some (0, index + 1)
    else (stepBack contents index).map fun (steps, found) => (steps + 1, found)

/-- A character is one byte that begins it and at most three that continue it. -/
theorem encodeChar_eq_cons (char : Char) :
    ∃ first others, encodeChar char = first :: others ∧ continues first = false ∧
      (∀ byte ∈ others, continues byte = true) ∧ others.length ≤ 3 := by
  have valid : char.toNat < 0x110000 := toNat_lt char
  have begins (value : Nat) (outside : value < 0x80 ∨ 0xC0 ≤ value) (small : value < 256) :
      continues (UInt8.ofNat value) = false := by
    simp only [continues, toNat_byte small, Bool.and_eq_false_iff, decide_eq_false_iff_not]
    omega
  have follow (values : List Nat) :
      ∀ byte ∈ values.map fun value => UInt8.ofNat (0x80 + value % 64), continues byte = true := by
    intro byte member
    obtain ⟨value, _, rfl⟩ := List.mem_map.mp member
    simp only [continues, toNat_byte (show 0x80 + value % 64 < 256 by omega), Bool.and_eq_true,
      decide_eq_true_eq]
    omega
  rw [encodeChar]
  generalize char.toNat = code at *
  split
  · exact ⟨_, _, rfl, begins _ (by omega) (by omega), follow [], Nat.zero_le 3⟩
  split
  · exact ⟨_, _, rfl, begins _ (by omega) (by omega), follow [code], by simp⟩
  split
  · exact ⟨_, _, rfl, begins _ (by omega) (by omega), follow [code / 64, code], by simp⟩
  · exact ⟨_, _, rfl, begins _ (by omega) (by omega),
      follow [code / 4096, code / 64, code], by simp⟩

theorem encodeChar_ne_nil (char : Char) : encodeChar char ≠ [] := by
  obtain ⟨first, others, shape, _⟩ := encodeChar_eq_cons char
  rw [shape]
  exact List.cons_ne_nil _ _

/-- No character has more than four bytes. -/
theorem length_encodeChar_le (char : Char) : (encodeChar char).length ≤ 4 := by
  obtain ⟨first, others, shape, _, _, few⟩ := encodeChar_eq_cons char
  rw [shape, List.length_cons]
  omega

/-- Inside a character there is no boundary. -/
theorem isBoundary_inside (char : Char) (rest : Bytes) (index : Nat)
    (inside : index + 1 < (encodeChar char).length) :
    isBoundary (encodeChar char ++ rest) (index + 1) = false := by
  obtain ⟨first, others, shape, _, follow, _⟩ := encodeChar_eq_cons char
  rw [shape, List.length_cons] at inside
  have within : index < others.length := Nat.lt_of_succ_lt_succ inside
  have byte : (encodeChar char ++ rest)[index + 1]? = some others[index] := by
    rw [shape, List.cons_append, List.getElem?_cons_succ, List.getElem?_append_left within,
      List.getElem?_eq_getElem within]
  have continued : continues others[index] = true := follow _ (List.getElem_mem within)
  rw [isBoundary, byte]
  simp [continued]

/-- Behind a character the boundaries are those of the text that follows. -/
theorem isBoundary_behind (char : Char) (rest : List Char) (index : Nat) :
    isBoundary (encodeChar char ++ encode rest) ((encodeChar char).length + index) =
      isBoundary (encode rest) index := by
  have begun : (encodeChar char).length ≠ 0 := by simp [encodeChar_ne_nil]
  have shifted : (encodeChar char ++ encode rest)[(encodeChar char).length + index]? =
      (encode rest)[index]? := by
    rw [List.getElem?_append_right (Nat.le_add_right _ _), Nat.add_sub_cancel_left]
  rw [isBoundary, isBoundary, shifted]
  cases index with
  | succ before => simp
  | zero =>
    -- The start of what follows is a boundary for another reason: a character begins there.
    cases rest with
    | nil => simp [encode]
    | cons next others =>
      obtain ⟨first, _, shape, starts, _⟩ := encodeChar_eq_cons next
      simp [encode_cons, shape, starts]

/-- The boundaries of a text are the lengths of its beginnings in whole characters. -/
theorem isBoundary_encode_iff (chars : List Char) (index : Nat) :
    isBoundary (encode chars) index = true ↔
      ∃ front, front <+: chars ∧ (encode front).length = index := by
  induction chars generalizing index with
  | nil =>
    simp [encode, isBoundary, eq_comm]
  | cons char rest inductionHypothesis =>
    rw [encode_cons]
    rcases Nat.lt_or_ge index (encodeChar char).length with inside | behind
    · cases index with
      | zero => exact iff_of_true rfl ⟨[], List.nil_prefix, rfl⟩
      | succ before =>
        rw [isBoundary_inside char (encode rest) before inside]
        refine iff_of_false Bool.false_ne_true ?_
        rintro ⟨front, begins, length⟩
        cases front with
        | nil => cases length
        | cons first others =>
          obtain ⟨rfl, _⟩ := List.cons_prefix_cons.mp begins
          rw [encode_cons, List.length_append] at length
          omega
    · obtain ⟨further, rfl⟩ := Nat.exists_eq_add_of_le behind
      rw [isBoundary_behind, inductionHypothesis]
      constructor
      · rintro ⟨front, begins, rfl⟩
        exact ⟨char :: front, List.cons_prefix_cons.mpr ⟨rfl, begins⟩, by
          rw [encode_cons, List.length_append]⟩
      · rintro ⟨front, begins, length⟩
        cases front with
        | nil =>
          have something := List.length_pos_iff.mpr (encodeChar_ne_nil char)
          simp [encode] at length
          omega
        | cons first others =>
          obtain ⟨rfl, later⟩ := List.cons_prefix_cons.mp begins
          rw [encode_cons, List.length_append] at length
          exact ⟨others, later, by omega⟩

/-- A search backwards ends at the last boundary that is not behind its start, after as many steps
as there are bytes between the two. -/
theorem stepBack_eq_some_iff (contents : Bytes) (start steps found : Nat) :
    stepBack contents start = some (steps, found) ↔
      found + steps = start ∧ isBoundary contents found = true ∧
        ∀ index, found < index → index ≤ start → isBoundary contents index = false := by
  have origin : isBoundary contents 0 = true := rfl
  induction start generalizing steps found with
  | zero =>
    rw [stepBack, if_pos origin]
    constructor
    · rintro ⟨⟩
      exact ⟨rfl, origin, fun index later within => absurd later (Nat.not_lt_of_le within)⟩
    · rintro ⟨together, _⟩
      obtain ⟨rfl, rfl⟩ := Nat.add_eq_zero_iff.mp together
      rfl
  | succ before inductionHypothesis =>
    rw [stepBack]
    split
    · rename_i met
      constructor
      · rintro ⟨⟩
        exact ⟨rfl, met, fun index later within => absurd later (Nat.not_lt_of_le within)⟩
      · rintro ⟨together, _, last⟩
        rcases Nat.lt_or_ge found (before + 1) with earlier | there
        · have missed := last (before + 1) earlier (Nat.le_refl _)
          rw [met] at missed
          cases missed
        · obtain rfl : found = before + 1 := by omega
          obtain rfl : steps = 0 := by omega
          rfl
    · rename_i unmet
      rw [Option.map_eq_some_iff]
      constructor
      · rintro ⟨⟨fewer, reached⟩, searched, same⟩
        obtain ⟨rfl, rfl⟩ := Prod.mk.inj same
        obtain ⟨together, met, last⟩ := (inductionHypothesis fewer reached).mp searched
        refine ⟨by omega, met, fun index later within => ?_⟩
        rcases Nat.lt_or_ge before index with behind | inside
        · obtain rfl : index = before + 1 := by omega
          exact Bool.eq_false_iff.mpr unmet
        · exact last index later inside
      · rintro ⟨together, met, last⟩
        have apart : found ≠ before + 1 := by
          rintro rfl
          exact unmet met
        obtain ⟨fewer, rfl⟩ := Nat.exists_eq_succ_of_ne_zero (show steps ≠ 0 by omega)
        refine ⟨(fewer, found), (inductionHypothesis fewer found).mpr ⟨by omega, met, ?_⟩, rfl⟩
        exact fun index later within => last index later (Nat.le_succ_of_le within)

end DeviceParameters.Utf8
