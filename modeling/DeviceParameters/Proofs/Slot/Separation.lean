import DeviceParameters.Proofs.Bytes.Patches
import DeviceParameters.Proofs.Slot.Refinement

/-!
# Sets touch their own record

On a device without faults a set is one patch: the record of the value at the offset of its slot.
The record ends within the slot, so every other byte of the device stays as it was, also the stale
ones behind a shorter record. Slots do not meet, and so sets of two keys can change places.

A run of sets is its patches in order. All of them lie within the table; what stands behind it is
never touched, and the device neither grows nor shrinks.
-/

namespace DeviceParameters.SlotStore

/-- The patch that a request makes, if its key is in the table. -/
def patchOf (request : Request) : List Patch :=
  match Slot.ofName? request.key with
  | some slot => [⟨slot.offset, Slot.recordOf request.value⟩]
  | none => []

theorem patchOf_name (slot : Slot) (value : String) :
    patchOf ⟨slot.name, value⟩ = [⟨slot.offset, Slot.recordOf value⟩] := by
  have found : Slot.ofName? slot.name = some slot := (Slot.ofName?_eq_some_iff _ _).mpr rfl
  simp [patchOf, found]

/-- A request for a key outside the table makes no patch. -/
theorem patchOf_unknown (key value : String) (unknown : ∀ slot : Slot, slot.name ≠ key) :
    patchOf ⟨key, value⟩ = [] := by
  cases found : Slot.ofName? key with
  | none => simp [patchOf, found]
  | some slot => exact absurd ((Slot.ofName?_eq_some_iff _ _).mp found) (unknown slot)

/-- Every patch of a request ends within the table. -/
theorem patchOf_within (request : Request) (patch : Patch) (member : patch ∈ patchOf request) :
    patch.offset + patch.data.length ≤ Slot.tableSize := by
  rw [patchOf] at member
  split at member
  · rename_i slot _
    obtain rfl := List.mem_singleton.mp member
    exact Slot.offset_add_recordOf_le slot request.value
  · cases member

/-- After a value was put, its record stands at the offset of the slot: the length of what is stored,
and so many bytes of the value. -/
theorem slice_put (state : State) (slot : Slot) (value : String) :
    let stored := Utf8.size (Slot.fit value)
    (held (put state slot value)).slice slot.offset (Slot.lengthFieldSize + stored) =
      Bytes.littleEndian stored ++ (Utf8.bytes value).take stored := by
  intro stored
  have ends : (Slot.recordOf value).length = Slot.lengthFieldSize + stored :=
    Slot.length_recordOf value
  have begins : Utf8.bytes (Slot.fit value) = (Utf8.bytes value).take stored :=
    List.prefix_iff_eq_take.mp (Slot.fit_begins value)
  have whole := Bytes.slice_overwrite_within (held state) slot.offset (Slot.recordOf value) 0
    (Slot.lengthFieldSize + stored) (by omega)
  rw [held_put, Slot.stored, ← begins]
  exact whole.trans (List.take_of_length_le (Nat.le_of_eq ends))

section Sound

variable (state : State) (sound : Sound state)

include sound

/-- A set of a key in the table, where no fault is armed. -/
theorem set_of_sound (slot : Slot) (value : String) :
    let written := writtenOutcome slot value (Slot.fit value)
    state.2.set state.1 slot.name value =
      ⟨.ok written.1, put state slot value, [written.2]⟩ := by
  rw [set_name, if_neg (Bool.eq_false_iff.mp sound.writes),
    if_pos (inBounds_recordOf _ slot value sound.roomy),
    if_neg (Bool.eq_false_iff.mp sound.flushes)]

/-- Putting a value keeps a store sound. -/
theorem sound_put (slot : Slot) (value : String) : Sound (put state slot value) := by
  have next := sound_set state ⟨slot.name, value⟩ sound
  rwa [take, set_of_sound state sound slot value] at next

/-- The device of a sound store holds all of its bytes. -/
theorem length_held : (held state).length = state.2.device.size := sound.whole

/-- A record lies within the bytes of the device. -/
theorem record_inside (slot : Slot) (value : String) :
    slot.offset + (Slot.recordOf value).length ≤ (held state).length := by
  rw [length_held state sound]
  exact inBounds_recordOf _ slot value sound.roomy

/-- Outside of the record every byte is as it was. -/
theorem getElem?_put_outside (slot : Slot) (value : String) (position : Nat)
    (outside : position < slot.offset ∨
      slot.offset + (Slot.lengthFieldSize + Utf8.size (Slot.fit value)) ≤ position) :
    (held (put state slot value))[position]? = (held state)[position]? := by
  rw [held_put, Slot.stored]
  exact Bytes.getElem?_overwrite_outside _ _ _ _ (record_inside state sound slot value)
    ((Slot.length_recordOf value).symm ▸ outside)

/-- One request changes the bytes of the device by its patch. -/
theorem patched_set (request : Request) :
    Bytes.Patched (held state) (held (take state (.set request))) (patchOf request) := by
  obtain ⟨key, value⟩ := request
  obtain ⟨slot, rfl⟩ | unknown := known_or_unknown key
  · rw [take, set_of_sound state sound slot value, patchOf_name, held_put]
    exact .overwrite (held state) slot.offset (Slot.recordOf value)
      (record_inside state sound slot value)
  · rw [take, state_set_unknown state key value unknown, patchOf_unknown key value unknown]
    exact .refl (held state)

/-- A request keeps the size of the device. -/
theorem size_set (request : Request) :
    (take state (.set request)).2.device.size = state.2.device.size := by
  obtain ⟨key, value⟩ := request
  obtain ⟨slot, rfl⟩ | unknown := known_or_unknown key
  · rw [take, set_of_sound state sound slot value]
    exact Device.size_replaced state.1 state.2.device slot.offset (Slot.recordOf value)
      (inBounds_recordOf _ slot value sound.roomy)
  · rw [take, state_set_unknown state key value unknown]

/-- A run of sets changes the bytes of the device by its patches in order, and keeps its size. -/
theorem patched_run (requests : List Request) :
    Bytes.Patched (held state) (held (run state (requests.map .set))) (requests.flatMap patchOf) ∧
      (run state (requests.map .set)).2.device.size = state.2.device.size ∧
      Sound (run state (requests.map .set)) := by
  induction requests generalizing state with
  | nil => exact ⟨.refl (held state), rfl, sound⟩
  | cons request rest inductionHypothesis =>
    obtain ⟨patched, size, remains⟩ := inductionHypothesis _ (sound_set state request sound)
    rw [List.flatMap_cons]
    exact ⟨(patched_set state sound request).trans patched,
      size.trans (size_set state sound request), remains⟩

/-- Putting values into two slots in one order or the other gives the same bytes. -/
theorem held_put_comm (left right : Slot) (leftValue rightValue : String) (different : left ≠ right) :
    held (put (put state left leftValue) right rightValue) =
      held (put (put state right rightValue) left leftValue) := by
  have leftShort := Slot.length_recordOf_le leftValue
  have rightShort := Slot.length_recordOf_le rightValue
  have apart := Slot.offset_apart left right different
  simp only [held_put, Slot.stored]
  exact Bytes.overwrite_comm (held state) ⟨left.offset, Slot.recordOf leftValue⟩
    ⟨right.offset, Slot.recordOf rightValue⟩ (record_inside state sound left leftValue)
    (record_inside state sound right rightValue) (by dsimp only; omega)

end Sound

/-- On a device without faults, whatever it holds, a set of a key in the table is granted. It puts
the length of what is stored, and so many bytes of the value, at the offset of the slot, within the
slot, and leaves every other byte. Sets of two keys in either order come to the same, each of them
and the bytes at the end. After any run of sets each byte is the one that the last record over it
put there, or the one from before; the size of the device and the bytes behind the table are as they
were.

Proof: a set is one patch. Patches of two slots do not meet, and a run is its patches in order. -/
theorem sets_touch_their_record_alone (state : State) (sound : Sound state) :
    (∀ (slot : Slot) (value : String),
      let reply := state.2.set state.1 slot.name value
      let stored := Utf8.size (Slot.fit value)
      let length := Slot.lengthFieldSize + stored
      reply.result = .ok (if stored < Utf8.size value then .truncated (Utf8.size value) stored
        else .stored) ∧
      stored ≤ Slot.maximumLength ∧ slot.offset + length ≤ slot.offset + Slot.stride ∧
      (held reply.state).slice slot.offset length =
        Bytes.littleEndian stored ++ (Utf8.bytes value).take stored ∧
      ∀ position, position < slot.offset ∨ slot.offset + length ≤ position →
        (held reply.state)[position]? = (held state)[position]?) ∧
    (∀ (left right : Slot) (leftValue rightValue : String), left ≠ right →
      let leftFirst := state.2.set state.1 left.name leftValue
      let rightSecond := leftFirst.state.2.set leftFirst.state.1 right.name rightValue
      let rightFirst := state.2.set state.1 right.name rightValue
      let leftSecond := rightFirst.state.2.set rightFirst.state.1 left.name leftValue
      held rightSecond.state = held leftSecond.state ∧
        leftFirst.result = leftSecond.result ∧ rightSecond.result = rightFirst.result) ∧
    ∀ requests : List Request,
      let after := run state (requests.map .set)
      after.2.device.size = state.2.device.size ∧
        (∀ position, (held after)[position]? =
          (Patch.lastByte? position (requests.flatMap patchOf)).or (held state)[position]?) ∧
        ∀ position, Slot.tableSize ≤ position → (held after)[position]? = (held state)[position]? := by
  refine ⟨fun slot value => ?_, fun left right leftValue rightValue different => ?_,
    fun requests => ?_⟩
  · intro reply stored length
    have set : reply = _ := set_of_sound state sound slot value
    have ends : (Slot.recordOf value).length = length := Slot.length_recordOf value
    rw [set]
    refine ⟨?_, Slot.size_fit_le value, ?_, slice_put state slot value,
      getElem?_put_outside state sound slot value⟩
    · rw [writtenOutcome]
      split <;> rfl
    · exact Nat.add_le_add_left (ends ▸ Slot.length_recordOf_le value) slot.offset
  · have leftAlone := set_of_sound state sound left leftValue
    have rightAlone := set_of_sound state sound right rightValue
    have rightAfter := set_of_sound _ (sound_put state sound left leftValue) right rightValue
    have leftAfter := set_of_sound _ (sound_put state sound right rightValue) left leftValue
    dsimp only at leftAlone rightAlone rightAfter leftAfter ⊢
    rw [leftAlone, rightAlone]
    dsimp only
    rw [rightAfter, leftAfter]
    exact ⟨held_put_comm state sound left right leftValue rightValue different, rfl, rfl⟩
  · intro after
    obtain ⟨patched, size, remains⟩ := patched_run state sound requests
    have length : (held after).length = (held state).length := by
      rw [length_held after remains, length_held state sound, size]
    have bytes := patched.getElem?_of_length length
    refine ⟨size, bytes, fun position beyond => ?_⟩
    have untouched : Patch.lastByte? position (requests.flatMap patchOf) = none := by
      apply Patch.lastByte?_beyond
      intro patch member
      obtain ⟨request, _, made⟩ := List.mem_flatMap.mp member
      exact Nat.le_trans (patchOf_within request patch made) beyond
    exact (bytes position).trans (congrArg (Option.or · _) untouched)

/-- A memory with two bytes behind the table, all of it seven. A value over a longer one leaves the
end of that in the slot, a set of another key in between is no matter, and the bytes behind the
table are kept. -/
theorem sets_touch_their_record_alone_on_memory :
    let state : State := (.empty, ⟨.ofMemory (.ofContents (List.replicate 162 7))⟩)
    let longer : Request := ⟨"ssid", "network"⟩
    let shorter : Request := ⟨"ssid", "net"⟩
    let after := run state ([longer, ⟨"adname", "x"⟩, shorter].map .set)
    Sound state ∧
      (held (state.2.set state.1 "ssid" "net").state).slice 64 7 = [3, 0, 0, 0, 110, 101, 116] ∧
      after.2.device.size = 162 ∧ (held after)[71]? = some 119 ∧ (held after)[160]? = some 7 := by
  intro state longer shorter after
  have sound : Sound state := ⟨⟨rfl, by decide +kernel, Device.whole_ofMemory _ _⟩, rfl, rfl⟩
  have full : state.2.device.size = 162 := by decide +kernel
  have last : (held state)[160]? = some 7 := by decide +kernel
  have bytes : Bytes.littleEndian (Utf8.size (Slot.fit "net")) ++
      (Utf8.bytes "net").take (Utf8.size (Slot.fit "net")) = [3, 0, 0, 0, 110, 101, 116] := by
    decide +kernel
  have three : Utf8.size (Slot.fit "net") = 3 := by decide +kernel
  have stale : Patch.lastByte? 71 ([longer, ⟨"adname", "x"⟩, shorter].flatMap patchOf) = some 119 := by
    decide +kernel
  obtain ⟨single, _, runs⟩ := sets_touch_their_record_alone state sound
  have record := (single .ssid "net").2.2.2.1
  obtain ⟨size, each, behind⟩ := runs [longer, ⟨"adname", "x"⟩, shorter]
  -- The states are named before they are compared, so that nothing evaluates them again.
  have ended : run state ([longer, ⟨"adname", "x"⟩, shorter].map .set) = after := rfl
  rw [ended] at size each behind
  clear_value after state
  refine ⟨sound, ?_, size.trans full, ?_, (behind 160 (by decide)).trans last⟩
  · rw [bytes, three] at record
    exact record
  · rw [each 71, stale, Option.some_or]

end DeviceParameters.SlotStore
