import DeviceParameters.Proofs.Slot.Calls
import DeviceParameters.Proofs.Text.Boundaries

/-!
# Where a value is cut

A value that is too long for a slot is cut at the last boundary between characters that a slot can
still hold. The cut is found by stepping back from the end of the slot, and since a boundary is never
more than three bytes away, at most three bytes of a slot are left unused by it.

Cutting a cut value does nothing more, so a slot is written alike with a value and with what was
kept of it. What differs is the report: a write says that it has cut exactly where the value was too
long, in its outcome and in one warning, and both name the two lengths.
-/

namespace DeviceParameters

/-- The events of the warning level. -/
def Event.warnings (events : List Event) : List Event := events.filter fun event => event.level = .warn

namespace Slot

/-- The boundaries of a value are the sizes of its beginnings. -/
theorem isBoundary_bytes_iff (value : String) (index : Nat) :
    Utf8.isBoundary (Utf8.bytes value) index = true ↔
      ∃ front : String, front.toList <+: value.toList ∧ Utf8.size front = index := by
  rw [Utf8.bytes, Utf8.isBoundary_encode_iff]
  constructor
  · rintro ⟨front, begins, length⟩
    exact ⟨String.ofList front, by simpa using begins, by simpa [Utf8.size, Utf8.bytes] using length⟩
  · rintro ⟨front, begins, length⟩
    exact ⟨front.toList, begins, length⟩

/-- What is left of the room, where anything was left out, is less than the longest character
needs: the next character did not fit into it. -/
theorem lt_length_takeFitting (room : Nat) (chars : List Char) (cut : takeFitting room chars ≠ chars) :
    room < (Utf8.encode (takeFitting room chars)).length + 4 := by
  obtain ⟨rest, whole⟩ := takeFitting_prefix room chars
  cases rest with
  | nil => exact absurd (by simpa using whole) cut
  | cons next others =>
    have begins : takeFitting room chars ++ [next] <+: chars := ⟨others, by simpa using whole⟩
    have unfitting : ¬ (Utf8.encode (takeFitting room chars ++ [next])).length ≤ room := by
      intro fits
      have within := (prefix_takeFitting room chars _ begins fits).length_le
      rw [List.length_append, List.length_singleton] at within
      omega
    have short := Utf8.length_encodeChar_le next
    rw [Utf8.encode_append, Utf8.encode_cons, List.length_append, List.length_append] at unfitting
    simp only [Utf8.encode, List.flatMap_nil, List.length_nil] at unfitting ⊢
    omega

variable (value : String)

/-- A value is kept whole exactly if it fits. -/
theorem fit_eq_self_iff : fit value = value ↔ Utf8.size value ≤ maximumLength := by
  constructor
  · intro whole
    rw [← whole]
    exact size_fit_le value
  · exact fit_eq_self value

/-- Something of a value is missing exactly if it does not fit. -/
theorem size_fit_lt_iff : Utf8.size (fit value) < Utf8.size value ↔ maximumLength < Utf8.size value := by
  constructor
  · intro shorter
    apply Nat.lt_of_not_le
    intro small
    rw [fit_eq_self value small] at shorter
    exact Nat.lt_irrefl _ shorter
  · exact Nat.lt_of_le_of_lt (size_fit_le value)

/-- A cut value is not cut again. -/
theorem fit_fit : fit (fit value) = fit value := fit_eq_self _ (size_fit_le value)

/-- What was kept of a value ends at a boundary of it. -/
theorem isBoundary_size_fit : Utf8.isBoundary (Utf8.bytes value) (Utf8.size (fit value)) = true :=
  (isBoundary_bytes_iff value _).mpr ⟨fit value, (isLongestFitting_fit value).begins, rfl⟩

/-- No boundary that a slot can hold is behind the cut. -/
theorem le_size_fit_of_isBoundary (index : Nat) (fits : index ≤ maximumLength)
    (boundary : Utf8.isBoundary (Utf8.bytes value) index = true) : index ≤ Utf8.size (fit value) := by
  obtain ⟨front, begins, rfl⟩ := (isBoundary_bytes_iff value index).mp boundary
  exact (isLongestFitting_fit value).longest front begins fits

/-- A cut leaves at most three bytes of a slot unused. -/
theorem le_size_fit_of_cut (long : maximumLength < Utf8.size value) :
    maximumLength ≤ Utf8.size (fit value) + 3 := by
  have cut : takeFitting maximumLength value.toList ≠ value.toList := by
    intro whole
    have same : fit value = value := by rw [fit, whole, String.ofList_toList]
    exact Nat.not_le_of_lt long ((fit_eq_self_iff value).mp same)
  have close := lt_length_takeFitting maximumLength value.toList cut
  rw [← toList_fit] at close
  exact Nat.le_of_lt_succ close

/-- The search for the cut, back from the end of the slot, finds it in as many steps as there are
bytes left unused. -/
theorem stepBack_maximumLength :
    Utf8.stepBack (Utf8.bytes value) maximumLength =
      some (maximumLength - Utf8.size (fit value), Utf8.size (fit value)) := by
  refine (Utf8.stepBack_eq_some_iff _ _ _ _).mpr ⟨?_, isBoundary_size_fit value, ?_⟩
  · exact Nat.add_sub_cancel' (size_fit_le value)
  · intro index behind inside
    apply Bool.eq_false_iff.mpr
    intro boundary
    exact Nat.not_le_of_lt behind (le_size_fit_of_isBoundary value index inside boundary)

end Slot

namespace SlotStore

variable (tree : FileTree) (store : SlotStore) (slot : Slot) (value : String)

/-- A write that is not refused leaves the record of what is kept of the value in the place of the
slot and every other byte as it was, and one that is refused leaves all bytes. -/
theorem held_writeSlot :
    held (store.writeSlot tree slot value).state =
      if store.device.writeFault = false ∧
          InBounds slot.offset (Slot.record (Slot.fit value)).length store.device.size then
        (held (tree, store)).overwrite slot.offset (Slot.record (Slot.fit value))
      else held (tree, store) := by
  rw [state_writeSlot, Slot.recordOf]
  split
  · exact held_put (tree, store) slot value
  · rfl

/-- A slot is written alike with a value and with what is kept of it. -/
theorem state_writeSlot_fit :
    (store.writeSlot tree slot (Slot.fit value)).state = (store.writeSlot tree slot value).state := by
  have record : Slot.recordOf (Slot.fit value) = Slot.recordOf value := by
    rw [Slot.recordOf, Slot.recordOf, Slot.fit_fit]
  rw [state_writeSlot, state_writeSlot, put, put, record]

/-- The report of a value that was written: cut exactly if it was too long for a slot. -/
theorem writtenOutcome_fit :
    writtenOutcome slot value (Slot.fit value) =
      if Slot.maximumLength < Utf8.size value then
        (.truncated (Utf8.size value) (Utf8.size (Slot.fit value)),
          .truncated slot.name (Utf8.size value) (Utf8.size (Slot.fit value)))
      else (.stored, .slotWritten slot.name slot.offset) := by
  rw [writtenOutcome]
  exact if_congr (Slot.size_fit_lt_iff value) rfl rfl

/-- A write that was granted reports what it has written, and nothing else. -/
theorem events_of_writeSlot_ok (outcome : SetOutcome)
    (granted : (store.writeSlot tree slot value).result = .ok outcome) :
    outcome = (writtenOutcome slot value (Slot.fit value)).1 ∧
      (store.writeSlot tree slot value).events = [(writtenOutcome slot value (Slot.fit value)).2] := by
  rw [writeSlot_eq] at granted ⊢
  split at granted
  · cases granted
  split at granted
  · split at granted
    · cases granted
    · rename_i unarmed inside flushes
      rw [if_neg unarmed, if_pos inside, if_neg flushes]
      exact ⟨(Except.ok.inj granted).symm, rfl⟩
  · cases granted

/-- A write that was refused reports nothing itself. -/
theorem events_of_writeSlot_error (error : ParameterError)
    (refused : (store.writeSlot tree slot value).result = .error error) :
    (store.writeSlot tree slot value).events = [] := by
  rw [writeSlot_eq] at refused ⊢
  split
  · rfl
  · rename_i unarmed
    rw [if_neg unarmed] at refused
    split
    · rename_i inside
      rw [if_pos inside] at refused
      split
      · rfl
      · rename_i flushes
        rw [if_neg flushes] at refused
        cases refused
    · rfl

/-- Of a value the longest beginning is kept that fits into a slot and ends between two characters:
all of it where it fits, and otherwise all but what comes behind the last such boundary, to which at
most three steps back lead from the end of the slot. Keeping what was kept changes nothing, and it
is written just as the value is: either write leaves the same record in the place of the slot, unless
it is refused before it reaches the device. A write that is granted reports that it has cut, in its
outcome and in its only warning, exactly where the value was too long.

Proof: the boundaries of a value are the sizes of its beginnings, among which the cut is the longest
that fits; the first character left out did not fit, so less than its four bytes are unused. -/
theorem writes_keep_longest_fitting_beginning (value : String) :
    let contents := Utf8.bytes value
    let length := Utf8.size value
    let kept := Slot.fit value
    let reached := Utf8.size kept
    (Utf8.bytes kept = contents.take reached ∧ Utf8.isBoundary contents reached = true ∧
      reached ≤ Slot.maximumLength ∧
      ∀ index, index ≤ Slot.maximumLength → Utf8.isBoundary contents index = true →
        index ≤ reached) ∧
    (kept = value ↔ length ≤ Slot.maximumLength) ∧
    (Slot.maximumLength < length → 25 ≤ reached ∧
      ∃ steps, steps ≤ 3 ∧
        Utf8.stepBack contents Slot.maximumLength = some (steps, reached)) ∧
    Slot.fit kept = kept ∧
    ∀ (tree : FileTree) (store : SlotStore) (slot : Slot),
      let reply := store.writeSlot tree slot value
      let again := store.writeSlot tree slot kept
      let record := Slot.record kept
      let taken := store.device.writeFault = false ∧
        InBounds slot.offset record.length store.device.size
      let warned := Event.warnings reply.events
      again.state = reply.state ∧
      (taken → held reply.state = (held (tree, store)).overwrite slot.offset record ∧
        held again.state = (held (tree, store)).overwrite slot.offset record) ∧
      (¬ taken → reply.state = (tree, store) ∧ again.state = (tree, store)) ∧
      (∀ outcome, reply.result = .ok outcome →
        if Slot.maximumLength < length then
          outcome = .truncated length reached ∧ warned = [.truncated slot.name length reached]
        else outcome = .stored ∧ warned = []) ∧
      (∀ error, reply.result = .error error → warned = []) ∧
      (Slot.tableSize ≤ store.device.size →
        (reply.result.isOk = true ↔
          store.device.writeFault = false ∧ store.device.flushFault = false)) := by
  intro contents length kept reached
  refine ⟨⟨?_, ?_, ?_, ?_⟩, ?_, ?_, ?_, ?_⟩
  · exact List.prefix_iff_eq_take.mp (Slot.fit_begins value)
  · exact Slot.isBoundary_size_fit value
  · exact Slot.size_fit_le value
  · exact Slot.le_size_fit_of_isBoundary value
  · exact Slot.fit_eq_self_iff value
  · intro long
    have close : Slot.maximumLength ≤ reached + 3 := Slot.le_size_fit_of_cut value long
    have room : Slot.maximumLength = 28 := rfl
    exact ⟨by omega, Slot.maximumLength - reached, by omega, Slot.stepBack_maximumLength value⟩
  · exact Slot.fit_fit value
  · intro tree store slot reply again record taken warned
    have same : again.state = reply.state := state_writeSlot_fit tree store slot value
    refine ⟨same, ?_, ?_, ?_, ?_, isOk_writeSlot tree store slot value⟩
    · intro written
      have bytes := held_writeSlot tree store slot value
      rw [if_pos written] at bytes
      rw [same]
      exact ⟨bytes, bytes⟩
    · intro refused
      have state := state_writeSlot tree store slot value
      rw [Slot.recordOf, if_neg refused] at state
      rw [same]
      exact ⟨state, state⟩
    · intro outcome granted
      obtain ⟨told, reported⟩ := events_of_writeSlot_ok tree store slot value outcome granted
      have shown : warned = Event.warnings [_] := congrArg Event.warnings reported
      rw [shown, told, writtenOutcome_fit]
      split
      · exact ⟨rfl, rfl⟩
      · exact ⟨rfl, rfl⟩
    · intro error refused
      exact congrArg Event.warnings
        (events_of_writeSlot_error tree store slot value error refused)

/-- A character of four bytes of which the slot could hold three: the cut is before it, three steps
back from the end of the slot, and is reported. The record is in the third slot, of which the length
field says twenty-five, and the bytes around it are those of before; writing what was kept leaves the
same bytes. With an armed write fault nothing is written and nothing reported. -/
theorem writes_keep_longest_fitting_beginning_before_wide_character :
    let kept := "aaaaaaaaaaaaaaaaaaaaaaaaa"
    let value := kept ++ "𐍈"
    let store : SlotStore := ⟨.ofMemory (.ofContents (List.replicate 160 0xEE))⟩
    let faulty : SlotStore := ⟨store.device.setWriteFault true⟩
    let reply := store.writeSlot .empty .ssid value
    let again := store.writeSlot .empty .ssid kept
    let refusal := faulty.writeSlot .empty .ssid value
    let bytes : Bytes :=
      List.replicate 64 0xEE ++ ([25, 0, 0, 0] ++ List.replicate 25 97) ++ List.replicate 67 0xEE
    Slot.fit value = kept ∧
      Utf8.stepBack (Utf8.bytes value) Slot.maximumLength = some (3, 25) ∧
      reply.result.isOk = true ∧ reply.result = .ok (.truncated 29 25) ∧
      Event.warnings reply.events = [.truncated "ssid" 29 25] ∧
      held reply.state = bytes ∧ held again.state = bytes ∧
      refusal.result = .error (.storage (.writeFault 64)) ∧
      Event.warnings refusal.events = [] ∧ refusal.state = (.empty, faulty) := by
  intro kept value store faulty reply again refusal bytes
  have fitted : Slot.fit value = kept := by decide +kernel
  have long : Slot.maximumLength < Utf8.size value := by decide +kernel
  have length : Utf8.size value = 29 := by decide +kernel
  have reached : Utf8.size (Slot.fit value) = 25 := by decide +kernel
  have granted : reply.result = .ok (.truncated 29 25) := by decide +kernel
  have refused : refusal.result = .error (.storage (.writeFault 64)) := by decide +kernel
  have roomy : Slot.tableSize ≤ store.device.size := by decide +kernel
  have inside : store.device.writeFault = false ∧
      InBounds Slot.ssid.offset (Slot.record (Slot.fit value)).length store.device.size := by
    decide +kernel
  have armed : ¬ (faulty.device.writeFault = false ∧
      InBounds Slot.ssid.offset (Slot.record (Slot.fit value)).length faulty.device.size) := by
    decide +kernel
  have written : (held (.empty, store)).overwrite Slot.ssid.offset (Slot.record (Slot.fit value)) =
      bytes := by
    decide +kernel
  obtain ⟨_, _, search, _, writes⟩ := writes_keep_longest_fitting_beginning value
  obtain ⟨_, steps, _, found⟩ := search long
  obtain ⟨_, puts, _, reports, _, grants⟩ := writes .empty store .ssid
  obtain ⟨_, _, leaves, _, silent, _⟩ := writes .empty faulty .ssid
  have warned := reports _ granted
  rw [if_pos long, length, reached] at warned
  obtain ⟨stored, repeated⟩ := puts inside
  rw [written] at stored repeated
  rw [fitted] at repeated
  refine ⟨fitted, ?_, (grants roomy).mpr ⟨rfl, rfl⟩, granted, warned.2, stored, repeated, refused,
    silent _ refused, (leaves armed).1⟩
  rw [reached] at found
  obtain ⟨together, _⟩ := (Utf8.stepBack_eq_some_iff _ _ _ _).mp found
  have room : Slot.maximumLength = 28 := rfl
  obtain rfl : steps = 3 := by omega
  exact found

end SlotStore

end DeviceParameters
