import DeviceParameters.Proofs.Store.Agreement

/-!
# Whatever a device holds

A slot store takes any bytes for records. The length field is taken for no more than a slot can
hold, and the table lies within every device that a store accepts, so no read and no write passes
the end of the device, whatever the bytes are and however they came there. A read then gives the
text of the bytes that the slot shows, or says that they are no text.

An image that the host has cut can be shorter than its device. A read of bytes that are gone fails
for that, and still not for the bounds of the device; a write puts its record all the same.
-/

namespace DeviceParameters

namespace StorageError

/-- A range passes the end of the device. -/
def IsPastEnd : StorageError → Prop
  | .readPastEnd _ _ _ | .writePastEnd _ _ _ => True
  | .io _ | .noSpace _ _ | .tooSmall _ _ | .notMounted _ | .writeFault _ => False

end StorageError

namespace Device

/-- A read within the bounds of a device can only be refused by the host, or for a fault. -/
theorem io_of_readAt_error (tree : FileTree) (device : Device) (offset length : Nat)
    (cause : StorageError) (inside : offset + length ≤ device.size)
    (refused : device.readAt tree offset length = .error cause) : ∃ host, cause = .io host := by
  rw [readAt] at refused
  split at refused
  · exact ⟨readFaultCause, (Except.error.inj refused).symm⟩
  split at refused
  · rename_i nvm memory
    rw [size, memory] at inside
    have bounded : InBounds offset length nvm.size := inside
    rw [MemoryNvm.readAt, if_pos bounded] at refused
    cases refused
  · rename_i nvm image
    rw [size, image] at inside
    have bounded : InBounds offset length nvm.size := inside
    rw [ImageNvm.readAt, if_pos bounded] at refused
    split at refused
    · cases refused
    split at refused
    · cases refused
    · exact ⟨.shortRead, (Except.error.inj refused).symm⟩

end Device

namespace Slot

/-- The bytes that a slot shows: as many as its length field says, and no more than a slot can
hold, as far as their first zero byte. -/
def shownIn (contents : Bytes) (slot : Slot) : Bytes :=
  (contents.slice slot.valueOffset
    (min (Bytes.littleEndianValue (contents.slice slot.offset lengthFieldSize))
      maximumLength)).takeWhile (· ≠ 0)

/-- A slot shows no more bytes than it can hold. -/
theorem length_shownIn_le (contents : Bytes) (slot : Slot) :
    (shownIn contents slot).length ≤ maximumLength := by
  apply Nat.le_trans (List.takeWhile_prefix _).length_le
  rw [Bytes.slice, List.length_take]
  omega

/-- No byte that a slot shows is zero. -/
theorem zero_not_mem_shownIn (contents : Bytes) (slot : Slot) : 0 ∉ shownIn contents slot := by
  intro member
  simpa using List.mem_takeWhile_imp member

/-- A slot has the text that its bytes spell, or is invalid for the fault in them. -/
theorem valueIn_eq_text (contents : Bytes) (slot : Slot) :
    slot.valueIn contents = (Utf8.text (shownIn contents slot)).mapError fun fault =>
      .invalidValue slot.name (.encoding fault) := by
  have recorded : recordedValue (contents.slice slot.valueOffset
      (recordedLength (contents.slice slot.offset lengthFieldSize))) =
        Utf8.text (shownIn contents slot) := rfl
  rw [valueIn, recorded]
  cases Utf8.text (shownIn contents slot) with
  | error fault => rfl
  | ok value => rfl

/-- A slot has a value exactly if its bytes spell that value. -/
theorem valueIn_eq_ok (contents : Bytes) (slot : Slot) (value : String) :
    slot.valueIn contents = .ok value ↔ Utf8.bytes value = shownIn contents slot := by
  rw [valueIn_eq_text, eq_comm (a := Utf8.bytes value), ← Utf8.text_eq_ok_iff]
  cases Utf8.text (shownIn contents slot) with
  | error fault => simp [Except.mapError]
  | ok text => simp [Except.mapError]

/-- A slot whose bytes spell no text is invalid for the fault in them. -/
theorem valueIn_eq_error (contents : Bytes) (slot : Slot)
    (garbled : ∀ value, Utf8.bytes value ≠ shownIn contents slot) :
    ∃ fault, Utf8.text (shownIn contents slot) = .error fault ∧
      slot.valueIn contents = .error (.invalidValue slot.name (.encoding fault)) := by
  rw [valueIn_eq_text]
  cases decoded : Utf8.text (shownIn contents slot) with
  | error fault => exact ⟨fault, rfl, rfl⟩
  | ok value => exact absurd ((Utf8.text_eq_ok_iff _ _).mp decoded).symm (garbled value)

end Slot

namespace SlotStore

/-- A store whose device has the table and no armed fault. Nothing is asked of the bytes, not even
that the medium has them all. -/
structure Willing (state : State) : Prop where
  roomy : Slot.tableSize ≤ state.2.device.size
  reads : state.2.device.readFault = false
  writes : state.2.device.writeFault = false
  flushes : state.2.device.flushFault = false

/-- A read of a willing store is never refused for the bounds of the device. -/
theorem not_isPastEnd_of_get (tree : FileTree) (store : SlotStore) (key : String)
    (cause : StorageError) (roomy : Slot.tableSize ≤ store.device.size)
    (refused : (store.get tree key).result = .error (.storage cause)) : ¬ cause.IsPastEnd := by
  rcases known_or_unknown key with ⟨slot, rfl⟩ | unknown
  · have row : slot.valueOffset + Slot.maximumLength ≤ Slot.tableSize :=
      Slot.offset_add_stride_le slot
    have start : slot.offset + Slot.lengthFieldSize = slot.valueOffset := rfl
    have hosted : ∃ host, cause = .io host := by
      rw [result_get_name, readSlot] at refused
      split at refused
      · rename_i failed field
        obtain rfl := ParameterError.storage.inj (Except.error.inj refused)
        exact Device.io_of_readAt_error tree store.device _ _ failed (by omega) field
      · rename_i lengthField _
        have short := Slot.recordedLength_le lengthField
        split at refused
        · rename_i failed body
          obtain rfl := ParameterError.storage.inj (Except.error.inj refused)
          exact Device.io_of_readAt_error tree store.device _ _ failed (by omega) body
        · split at refused
          · cases refused
          · cases refused
    obtain ⟨host, rfl⟩ := hosted
    exact id
  · rw [get, ofKey_unknown key unknown] at refused
    cases refused

/-- A set on a willing store is granted if its key is in the table; nothing else refuses it. -/
theorem result_set_of_willing (state : State) (key value : String) (willing : Willing state) :
    if key ∈ keys then (state.2.set state.1 key value).result.isOk = true
    else (state.2.set state.1 key value).result = .error (.unknownKey key) := by
  split
  · rename_i known
    obtain ⟨slot, rfl⟩ := (mem_keys key).mp known
    exact (isOk_set_name state slot value willing.roomy).mpr ⟨willing.writes, willing.flushes⟩
  · rename_i unknown
    rw [set_unknown state.1 state.2 key value fun slot named =>
      unknown ((mem_keys key).mpr ⟨slot, named⟩)]

/-- A set leaves a store willing. -/
theorem willing_set (state : State) (request : Request) (willing : Willing state) :
    Willing (take state (.set request)) := by
  rcases known_or_unknown request.key with ⟨slot, named⟩ | unknown
  · rw [take, ← named, state_set_name state slot request.value willing.roomy,
      if_neg (Bool.eq_false_iff.mp willing.writes)]
    have size : (put state slot request.value).2.device.size = state.2.device.size :=
      Device.size_replaced state.1 state.2.device slot.offset (Slot.recordOf request.value)
        (inBounds_recordOf _ slot request.value willing.roomy)
    obtain ⟨reads, flushes, writes⟩ := Device.faults_replaced state.1 state.2.device slot.offset
      (Slot.recordOf request.value)
    exact ⟨size ▸ willing.roomy, reads.trans willing.reads, writes.trans willing.writes,
      flushes.trans willing.flushes⟩
  · rw [take, state_set_unknown state request.key request.value unknown]
    exact willing

end SlotStore

namespace ParameterStore

/-- A run of sets and reads leaves a slot store willing. -/
theorem willing_run (state : SlotStore.State) (actions : List Action)
    (willing : SlotStore.Willing state) :
    ∃ after, run (state.1, .slots state.2) actions = (after.1, .slots after.2) ∧
      SlotStore.Willing after := by
  induction actions generalizing state with
  | nil => exact ⟨state, rfl, willing⟩
  | cons action rest inductionHypothesis =>
    cases action with
    | get key => exact inductionHypothesis state willing
    | set request =>
      exact inductionHypothesis (SlotStore.take state (.set request))
        (SlotStore.willing_set state request willing)

/-- Whatever bytes an accepted device holds, a key of the table reads as the text of the bytes that
its slot shows, or as invalid where these are no text; no more is asked than that reads work and
that the table is there to be read. At every point of a run of sets and reads without faults, no
call passes the end of the device, and a set of a key in the table is granted.

Proof: the table lies within the device, and a record within its slot. Sets keep the size of the
device and its faults as they are, so that holds at every point. -/
theorem slots_hold_on_any_contents (tree : FileTree) (device : Device) (store : SlotStore)
    (accepted : SlotStore.ofDevice device = .ok store) (reads : device.readFault = false) :
    (Slot.tableSize ≤ (device.contents tree).length → ∀ slot : Slot,
      let shown := slot.shownIn (device.contents tree)
      let read := (get tree (.slots store) slot.name).result
      (∀ value, read = .ok value ↔ Utf8.bytes value = shown) ∧
      ((∀ value, Utf8.bytes value ≠ shown) → ∃ fault, Utf8.text shown = .error fault ∧
        read = .error (.invalidValue slot.name (.encoding fault))) ∧
      shown.length ≤ Slot.maximumLength ∧ 0 ∉ shown) ∧
    (device.writeFault = false → device.flushFault = false → ∀ actions : List Action,
      let after := run (tree, .slots store) actions
      (∀ (slot : Slot) (value : String),
        (after.2.set after.1 slot.name value).result.isOk = true) ∧
      ∀ (key value : String) (cause : StorageError),
        (after.2.set after.1 key value).result = .error (.storage cause) ∨
          (after.2.get after.1 key).result = .error (.storage cause) → ¬ cause.IsPastEnd) := by
  obtain ⟨used⟩ := store
  obtain ⟨rfl, roomy⟩ := SlotStore.roomy_of_ofDevice _ _ accepted
  constructor
  · intro present slot shown read
    have held : read = slot.valueIn (used.contents tree) :=
      SlotStore.result_get_of_present tree ⟨used⟩ slot reads roomy present
    rw [held]
    exact ⟨Slot.valueIn_eq_ok _ slot, Slot.valueIn_eq_error _ slot,
      Slot.length_shownIn_le _ slot, Slot.zero_not_mem_shownIn _ slot⟩
  · intro writes flushes actions after
    obtain ⟨reached, ends, willing⟩ :=
      willing_run (tree, ⟨used⟩) actions ⟨roomy, reads, writes, flushes⟩
    have state : after = (reached.1, .slots reached.2) := ends
    rw [state]
    constructor
    · intro slot value
      have granted := SlotStore.result_set_of_willing reached slot.name value willing
      rw [if_pos ((SlotStore.mem_keys slot.name).mpr ⟨slot, rfl⟩)] at granted
      exact granted
    · rintro key value cause (refused | refused)
      · change (reached.2.set reached.1 key value).result = _ at refused
        have decided := SlotStore.result_set_of_willing reached key value willing
        rw [refused] at decided
        split at decided
        · cases decided
        · cases decided
      · exact SlotStore.not_isPastEnd_of_get reached.1 reached.2 key cause willing.roomy refused

/-- A memory with the largest length field, a value with a zero byte in it and bytes that are no
text: the first value is cut to the slot, the second at its zero byte, and the third is invalid
until it is set. -/
theorem slots_hold_on_any_contents_of_garbage :
    let contents : Bytes := [255, 255, 255, 255] ++ List.replicate 28 122 ++
      [5, 0, 0, 0, 97, 98, 0, 99, 100] ++ List.replicate 23 255 ++
      [2, 0, 0, 0, 255, 254] ++ List.replicate 90 7
    let device : Device := .ofMemory (.ofContents contents)
    let store : SlotStore := ⟨device⟩
    let after := run (.empty, .slots store) [.set ⟨"adname", "x"⟩, .get "ssid"]
    SlotStore.ofDevice device = .ok store ∧
      (get .empty (.slots store) "idstring").result = .ok "zzzzzzzzzzzzzzzzzzzzzzzzzzzz" ∧
      (get .empty (.slots store) "adname").result = .ok "ab" ∧
      (∃ fault, (get .empty (.slots store) "ssid").result =
        .error (.invalidValue "ssid" (.encoding fault))) ∧
      (after.2.set after.1 "ssid" "net").result.isOk = true := by
  intro contents device store after
  have accepted : SlotStore.ofDevice device = .ok store := by decide +kernel
  have present : Slot.tableSize ≤ (device.contents .empty).length := by decide +kernel
  have clamped : Utf8.bytes "zzzzzzzzzzzzzzzzzzzzzzzzzzzz" =
      Slot.idString.shownIn (device.contents .empty) := by decide +kernel
  have ended : Utf8.bytes "ab" = Slot.adName.shownIn (device.contents .empty) := by decide +kernel
  have undecoded : Utf8.text (Slot.ssid.shownIn (device.contents .empty)) =
      .error (.malformed 0 1) := by decide +kernel
  have garbled : ∀ value, Utf8.bytes value ≠ Slot.ssid.shownIn (device.contents .empty) := by
    intro value same
    rw [(Utf8.text_eq_ok_iff _ value).mpr same.symm] at undecoded
    cases undecoded
  obtain ⟨reading, running⟩ := slots_hold_on_any_contents .empty device store accepted rfl
  have slots := reading present
  obtain ⟨fault, _, invalid⟩ := (slots .ssid).2.1 garbled
  exact ⟨accepted, ((slots .idString).1 _).mpr clamped, ((slots .adName).1 _).mpr ended,
    ⟨fault, invalid⟩, (running rfl rfl _).1 .ssid "net"⟩

end ParameterStore

end DeviceParameters
