import DeviceParameters.Proofs.Slot.Faults
import DeviceParameters.Opening

/-!
# A slot store is a map

Seen through its calls, a slot store on a device without faults maps each key of the table to
the value that it was given last. Two things are not kept: what does not fit into a slot, and
what stands behind a zero byte. A key that was not set reads exactly as at the start, whether
that is a value or a fault of encoding, and keys outside the table have no effect.

The device is any that holds the table and all of its bytes. That is so for memory with any
contents and for an image that was just opened, with any file behind it, as soon as a store
accepts the device.
-/

namespace DeviceParameters

namespace SlotStore

/-- A legible store whose device refuses nothing. -/
structure Sound (state : State) : Prop extends Legible state where
  writes : state.2.device.writeFault = false
  flushes : state.2.device.flushFault = false

/-- A store that accepts a device has that device, with room for the table. -/
theorem roomy_of_ofDevice (device : Device) (store : SlotStore)
    (accepted : ofDevice device = .ok store) :
    store.device = device ∧ Slot.tableSize ≤ device.size := by
  rw [ofDevice] at accepted
  split at accepted
  · simp at accepted
  · rename_i large
    obtain rfl := Except.ok.inj accepted
    exact ⟨rfl, Nat.le_of_not_lt large⟩

/-- A store on memory is sound, whatever the memory holds. -/
theorem sound_ofMemory (tree : FileTree) (contents : Bytes) (store : SlotStore)
    (accepted : ofDevice (.ofMemory (.ofContents contents)) = .ok store) : Sound (tree, store) := by
  obtain ⟨device⟩ := store
  obtain ⟨rfl, roomy⟩ := roomy_of_ofDevice _ _ accepted
  exact ⟨⟨rfl, roomy, Device.whole_ofMemory _ _⟩, rfl, rfl⟩

/-- A store on an image that was just opened is sound, whatever the file holds. -/
theorem sound_ofImage (tree : FileTree) (nvm : ImageNvm) (store : SlotStore)
    (opened : (∃ before path size, ImageNvm.openSized before path size = (tree, .ok nvm)) ∨
      ∃ path, ImageNvm.openExisting tree path = .ok nvm)
    (accepted : ofDevice (.ofImage nvm) = .ok store) : Sound (tree, store) := by
  obtain ⟨device⟩ := store
  obtain ⟨rfl, roomy⟩ := roomy_of_ofDevice _ _ accepted
  have whole : (Device.ofImage nvm).Whole tree := by
    rcases opened with ⟨before, path, size, made⟩ | ⟨path, found⟩
    · exact Device.whole_of_openSized before tree path size nvm made
    · exact Device.whole_of_openExisting tree path nvm found
  exact ⟨⟨rfl, roomy, whole⟩, rfl, rfl⟩

/-- A set neither arms nor disarms a fault. -/
theorem faults_set (state : State) (request : Request)
    (roomy : Slot.tableSize ≤ state.2.device.size) :
    (take state (.set request)).2.device.writeFault = state.2.device.writeFault ∧
      (take state (.set request)).2.device.flushFault = state.2.device.flushFault := by
  rcases known_or_unknown request.key with ⟨slot, named⟩ | unknown
  · rw [take, ← named, state_set_name state slot request.value roomy]
    obtain ⟨-, flushes, writes⟩ := Device.faults_replaced state.1 state.2.device slot.offset
      (Slot.recordOf request.value)
    split
    · exact ⟨rfl, rfl⟩
    · exact ⟨writes, flushes⟩
  · rw [take, state_set_unknown state request.key request.value unknown]
    exact ⟨rfl, rfl⟩

/-- A set keeps a store sound. -/
theorem sound_set (state : State) (request : Request) (sound : Sound state) :
    Sound (take state (.set request)) := by
  obtain ⟨writes, flushes⟩ := faults_set state request sound.roomy
  exact ⟨legible_take state (.set request) sound.toLegible, writes.trans sound.writes,
    flushes.trans sound.flushes⟩

/-- Without faults every request counts. -/
theorem written_set (state : State) (requests : List Request) (sound : Sound state) :
    written state (requests.map .set) = requests := by
  induction requests generalizing state with
  | nil => rfl
  | cons request rest inductionHypothesis =>
    rw [List.map_cons, written, inductionHypothesis _ (sound_set state request sound), writtenBy,
      if_neg (Bool.eq_false_iff.mp sound.writes)]
    rfl

end SlotStore

namespace ParameterStore

open SlotStore

/-- Requests to a store in slots are sets on the slots. -/
theorem setAll_slots (state : SlotStore.State) (requests : List Request) :
    setAll (state.1, .slots state.2) requests =
      ((run state (requests.map .set)).1, .slots (run state (requests.map .set)).2) := by
  induction requests generalizing state with
  | nil => rfl
  | cons request rest inductionHypothesis =>
    exact inductionHypothesis (take state (.set request))

/-- After any requests to a sound slot store, a key of the table that was set reads as its last
value, cut to the slot and at its first zero byte, and any other key of the table reads as at
the start. So a key that was set never reads as an invalid value, and setting one key more
never changes what another reads.

Proof: without faults every request is written, so this is the run of the slots, in which the
last written value is the last one given. -/
theorem slots_map_keys_to_last_values (tree : FileTree) (device : Device)
    (sound : Sound (tree, ⟨device⟩)) (requests : List Request) (slot : Slot) :
    let before : State := (tree, .slots ⟨device⟩)
    let after := setAll before requests
    let read (state : State) := (state.2.get state.1 slot.name).result
    (match Request.lastValue slot.name requests with
      | some value => ∃ shown, read after = .ok shown ∧ Slot.Shows value shown
      | none => read after = read before) ∧
    ∀ key value : String, key ≠ slot.name →
      read (after.2.set after.1 key value).state = read after := by
  intro before after read
  have slots : after = _ := setAll_slots (tree, ⟨device⟩) requests
  have remains : Legible (run (tree, ⟨device⟩) (requests.map .set)) :=
    legible_run (tree, ⟨device⟩) (requests.map .set) sound.toLegible
  constructor
  · have shows := valueAfter_shows (reading (tree, ⟨device⟩) slot) (Request.lastValue slot.name requests)
    have ends := reading_run (tree, ⟨device⟩) (requests.map .set) slot sound.toLegible
    rw [written_set (tree, ⟨device⟩) requests sound] at ends
    rw [← ends] at shows
    rw [slots]
    exact shows
  · intro key value other
    rw [slots]
    exact reading_set_of_ne (run (tree, ⟨device⟩) (requests.map .set)) key value slot remains other

/-- The smallest memory with the table, and an image that is opened over a file of two bytes, which
are the length field of a value that nothing was written behind. On either one a value that is set
over a longer one and that has a zero byte is cut there, while another key and an unknown one are set
around it; on the image a key that was not set reads as before. -/
theorem slots_map_keys_to_last_values_on_memory_and_image :
    let memory : Device := .ofMemory (.ofSize 160)
    let path : Path := .ofText "nvm.bin"
    let tree := ((FileTree.fresh (Utf8.bytes "work")).writeFile path [2, 0]).toOption.getD .empty
    let image : ImageNvm := ⟨path, ⟨[Utf8.bytes "work", Utf8.bytes "nvm.bin"], 0⟩, 160⟩
    let opened := (ImageNvm.openSized tree path 160).1
    let requests : List Request :=
      [⟨"ssid", "a longer network"⟩, ⟨"adname", "x"⟩, ⟨"ssid", "net\x00work"⟩, ⟨"bogus", "y"⟩]
    let inMemory := setAll (.empty, .slots ⟨memory⟩) requests
    let onImage := setAll (opened, .slots ⟨.ofImage image⟩) requests
    Sound (.empty, ⟨memory⟩) ∧ (inMemory.2.get inMemory.1 "ssid").result = .ok "net" ∧
      (ImageNvm.openSized tree path 160).2 = .ok image ∧ Sound (opened, ⟨.ofImage image⟩) ∧
      (onImage.2.get onImage.1 "ssid").result = .ok "net" ∧
      (onImage.2.get onImage.1 "idstring").result = .ok "" := by
  intro memory path tree image opened requests inMemory onImage
  have onMemory : SlotStore.ofDevice memory = .ok ⟨memory⟩ := by decide +kernel
  have made : (ImageNvm.openSized tree path 160).2 = .ok image := by decide +kernel
  have whole : ImageNvm.openSized tree path 160 = (opened, .ok image) := by rw [← made]
  have accepted : SlotStore.ofDevice (.ofImage image) = .ok ⟨.ofImage image⟩ := by decide +kernel
  have soundMemory : Sound (.empty, ⟨memory⟩) := sound_ofMemory .empty _ _ onMemory
  have soundImage : Sound (opened, ⟨.ofImage image⟩) :=
    sound_ofImage opened image _ (Or.inl ⟨tree, path, 160, whole⟩) accepted
  have last : Request.lastValue Slot.ssid.name requests = some "net\x00work" := by decide +kernel
  have never : Request.lastValue Slot.idString.name requests = none := by decide +kernel
  have net : Slot.readable "net\x00work" = "net" := by decide +kernel
  have before : (SlotStore.get opened ⟨.ofImage image⟩ "idstring").result = .ok "" := by
    decide +kernel
  have first := (slots_map_keys_to_last_values .empty memory soundMemory requests .ssid).1
  have second := (slots_map_keys_to_last_values opened (.ofImage image) soundImage requests .ssid).1
  have third :=
    (slots_map_keys_to_last_values opened (.ofImage image) soundImage requests .idString).1
  simp only [last, never, Slot.shows_iff, net, exists_eq_right] at first second third
  exact ⟨soundMemory, first, made, soundImage, second, third.trans before⟩

end ParameterStore

end DeviceParameters
