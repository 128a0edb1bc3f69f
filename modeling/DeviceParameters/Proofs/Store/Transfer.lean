import DeviceParameters.Proofs.File.Filling
import DeviceParameters.Proofs.Store.Bounds
import DeviceParameters.Proofs.Store.Listing

/-!
# Moving parameters to another store

A listing of every parameter is all that is needed to set up another store of the same kind. Every
key that is listed has a value, every value is taken whole by the other store, and that store then
lists the same keys with the same values in the same order.

For slots this rests on the reading: whatever bytes a slot holds, what is read from it fits into a
slot and has no zero character, so it is written back unchanged. For files it rests on the listing:
it names each key once, in the order of the file names, so the files that were written are found in
the order in which they were set, and never take up more than the values together.

Only a volume whose root is written so long that the path of a file is refused does not take that
key; it takes the others and lists them.
-/

namespace DeviceParameters

/-- Whatever bytes a slot holds, its value is one that a slot takes as it is. -/
theorem Slot.inLimits_of_valueIn (slot : Slot) (contents : Bytes) (value : String)
    (held : slot.valueIn contents = .ok value) : Request.InLimits ⟨slot.name, value⟩ := by
  have shown := (valueIn_eq_ok contents slot value).mp held
  refine ⟨(SlotStore.mem_keys _).mpr ⟨slot, rfl⟩, ?_, ?_⟩
  · rw [Utf8.size, shown]
    exact length_shownIn_le contents slot
  · intro zero
    have inBytes : (0 : UInt8) ∈ Utf8.bytes value :=
      (Utf8.mem_encode_iff value.toList 0 (by decide)).mpr ⟨'\x00', zero, rfl⟩
    rw [shown] at inBytes
    exact zero_not_mem_shownIn contents slot inBytes

namespace SlotStore

/-- What a slot store reads of a key is a value that a slot takes as it is, whatever state the
store is in. -/
theorem inLimits_of_get (tree : FileTree) (store : SlotStore) (key value : String)
    (read : (store.get tree key).result = .ok value) : Request.InLimits ⟨key, value⟩ := by
  rcases known_or_unknown key with ⟨slot, rfl⟩ | unknown
  · rw [result_get_name] at read
    exact slot.inLimits_of_valueIn _ value (valueIn_of_readSlot tree store slot value read)
  · rw [get, ofKey_unknown key unknown] at read
    cases read

/-- Requests within the limits are all taken whole by a sound store. -/
theorem calls_of_inLimits (state : State) (requests : List Request) (sound : Sound state)
    (inside : ∀ request ∈ requests, request.InLimits) (call : Call)
    (made : call ∈ ParameterStore.calls (state.1, .slots state.2) requests) :
    call.result = .ok .stored := by
  induction requests generalizing state with
  | nil => cases made
  | cons request rest inductionHypothesis =>
    rcases List.mem_cons.mp made with rfl | later
    · exact result_set_of_inLimits sound (inside request List.mem_cons_self)
    · exact inductionHypothesis (take state (.set request)) (sound_set state request sound)
        (fun other member => inside other (List.mem_cons_of_mem _ member)) later

/-- After requests within the limits, each for a key of its own, every one of them is what its key
reads as. -/
theorem get_of_inLimits (state : State) (requests : List Request) (sound : Sound state)
    (inside : ∀ request ∈ requests, request.InLimits)
    (distinct : (requests.map Request.key).Nodup) (request : Request)
    (member : request ∈ requests) :
    let after := run state (requests.map .set)
    (after.2.get after.1 request.key).result = .ok request.value := by
  intro after
  obtain ⟨known, small, nonzero⟩ := inside request member
  obtain ⟨slot, named⟩ := (mem_keys request.key).mp known
  have read := reading_run state (requests.map .set) slot sound.toLegible
  rw [written_set state requests sound, named,
    Request.lastValue_of_mem requests request distinct member, valueAfter,
    Slot.readable_eq_self request.value small nonzero] at read
  rw [← named]
  exact read

/-- What is listed of a slot store is a request within the limits for each key of the table, in
order. -/
theorem requests_of_collect (tree : FileTree) (store : SlotStore) (entries : List Listed)
    (collected : (ParameterStore.collect tree (.slots store)).result = .ok entries) :
    ∃ requests : List Request, entries = requests.map Request.listed ∧
      keys = requests.map Request.key ∧ ∀ request ∈ requests, request.InLimits := by
  obtain ⟨requests, listed, shown, reads⟩ := ParameterStore.get_of_readAll tree (.slots store) keys
    entries (fun key _ other => get_ne_keyNotFound tree store key other) collected
  exact ⟨requests, shown, listed, fun request member =>
    inLimits_of_get tree store request.key request.value (reads request member)⟩

end SlotStore

namespace FileStore

/-- What is listed of a file store is a request for each of its keys, which are accepted and come in
the order of the file names. -/
theorem requests_of_collect (tree : FileTree) (store : FileStore) (entries : List Listed)
    (collected : (ParameterStore.collect tree (.files store)).result = .ok entries) :
    ∃ requests : List Request, entries = requests.map Request.listed ∧
      (∀ request ∈ requests, ∃ name, FileName.ofKey request.key = .ok name) ∧
      requests.Pairwise fun left right =>
        FileName.entryOf left.key < FileName.entryOf right.key := by
  cases known : store.keys tree with
  | error error =>
    rw [ParameterStore.collect, ParameterStore.keys, known] at collected
    cases collected
  | ok reported =>
    obtain ⟨volume, place, rfl, root⟩ := rootAt_of_keys tree store reported known
    obtain rfl : listedKeys tree place = reported :=
      Except.ok.inj ((keys_eq tree volume place root).symm.trans known)
    rw [ParameterStore.collect, ParameterStore.keys, known] at collected
    obtain ⟨requests, listed, shown, _⟩ :=
      ParameterStore.get_of_readAll tree (.files ⟨some volume⟩) _ entries
        (fun key member other => get_ne_keyNotFound tree _ _ known key other member) collected
    have ascending := listedKeys_ascending tree place
    rw [listed] at ascending
    have ordered := List.pairwise_map.mp ascending
    refine ⟨requests, shown, fun request member => ?_, ordered⟩
    have reportedKey : request.key ∈ listedKeys tree place :=
      listed ▸ List.mem_map.mpr ⟨request, member, rfl⟩
    obtain ⟨name, named, _⟩ := (mem_listedKeys tree place request.key).mp reportedKey
    exact ⟨name, named⟩

end FileStore

namespace ParameterStore

/-- The path of the file of a key is too long for the host. Slots have no path. -/
def CannotReach : ParameterStore → String → Prop
  | .slots _, _ => False
  | .files ⟨none⟩, _ => False
  | .files ⟨some volume⟩, key => volume.CannotReach key

instance (store : ParameterStore) (key : String) : Decidable (store.CannotReach key) :=
  match store with
  | .slots _ => instDecidableFalse
  | .files ⟨none⟩ => instDecidableFalse
  | .files ⟨some volume⟩ => inferInstanceAs (Decidable (volume.CannotReach key))

/-- A store that can be filled with the values of requests, on a medium that refuses nothing: slots
with any contents, or a volume in an empty root with room for all values. -/
def HasRoomFor (requests : List Request) (tree : FileTree) : ParameterStore → Prop
  | .slots inner => SlotStore.Sound (tree, inner)
  | .files ⟨none⟩ => False
  | .files ⟨some volume⟩ =>
    tree.listDirectory volume.root = .ok [] ∧ Request.totalSize requests ≤ volume.capacity

/-- Slots take the requests that were listed of other slots, and list them again. -/
theorem slots_receive (state : SlotStore.State) (requests : List Request)
    (sound : SlotStore.Sound state) (listed : SlotStore.keys = requests.map Request.key)
    (inside : ∀ request ∈ requests, request.InLimits) :
    let after := setAll (state.1, .slots state.2) requests
    (∀ call ∈ calls (state.1, .slots state.2) requests, call.result = .ok .stored) ∧
      (after.2.collect after.1).result = .ok (requests.map Request.listed) := by
  intro after
  have distinct : (requests.map Request.key).Nodup := by
    rw [← listed]
    decide
  refine ⟨SlotStore.calls_of_inLimits state requests sound inside, ?_⟩
  rw [show after = _ from setAll_slots state requests, collect]
  change (readAll _ _ SlotStore.keys).result = _
  rw [listed]
  apply readAll_of_get
  exact fun request member =>
    SlotStore.get_of_inLimits state requests sound inside distinct request member

/-- An empty volume takes the requests that were listed of another volume, apart from those that it
cannot reach, and lists them again. -/
theorem files_receive (tree : FileTree) (volume : Volume) (requests : List Request)
    (vacant : tree.listDirectory volume.root = .ok [])
    (roomy : Request.totalSize requests ≤ volume.capacity)
    (accepted : ∀ request ∈ requests, ∃ name, FileName.ofKey request.key = .ok name)
    (ascending : requests.Pairwise fun left right =>
      FileName.entryOf left.key < FileName.entryOf right.key) :
    let after := setAll (tree, .files ⟨some volume⟩) requests
    (∀ call ∈ calls (tree, .files ⟨some volume⟩) requests, call.result =
      if volume.CannotReach call.request.key then .error (.storage (.io .nameTooLong))
      else .ok .stored) ∧
    (after.2.collect after.1).result = .ok
      ((requests.filter fun request => ¬ volume.CannotReach request.key).map Request.listed) := by
  intro after
  obtain ⟨place, root, empty⟩ := (tree.listDirectory_eq_ok _ _).mp vacant
  have distinct : (requests.map Request.key).Nodup := by
    refine List.pairwise_map.mpr (ascending.imp ?_)
    intro left right before same
    rw [same] at before
    exact List.lt_irrefl _ before
  obtain ⟨reached, ends, holds, made⟩ := files_run_of_new volume place requests [] tree
    (.of_vacant root empty) accepted distinct roomy
  rw [List.nil_append] at holds
  refine ⟨made, ?_⟩
  have known (request : Request) (member : request ∈ requests.filter fun asked =>
      ¬ volume.CannotReach asked.key) :
      (∃ name, FileName.ofKey request.key = .ok name) ∧ ¬ volume.CannotReach request.key := by
    obtain ⟨asked, reaches⟩ := List.mem_filter.mp member
    exact ⟨accepted request asked, of_decide_eq_true reaches⟩
  have reported := holds.keys (fun request member => (known request member).1)
    (ascending.sublist List.filter_sublist)
  rw [show after = _ from ends, collect, keys, reported]
  apply readAll_of_get
  intro request member
  obtain ⟨⟨name, named⟩, reaches⟩ := known request member
  exact holds.get request name named reaches member

/-- Whatever is listed of a store can be moved to another of the same kind. Every listed key has a
value; the other store takes each of them whole and then lists the same keys with the same values in
the same order. Only a key whose path is too long there is refused, and is then not listed. In
particular what bytes hold in a slot is never cut when it is written, and is read back.

Proof: what slots give is within the limits of a slot. What files give comes in the order of the
file names, each key once, so that no file is written twice and the room is what the values take. -/
theorem listing_moves_to_another_store (tree : FileTree) (source : ParameterStore)
    (entries : List Listed) (collected : (source.collect tree).result = .ok entries) :
    (∃ requests : List Request, entries = requests.map Request.listed ∧
      ∀ (other : FileTree) (target : ParameterStore), target.backend = source.backend →
        target.HasRoomFor requests other →
        let after := setAll (other, target) requests
        (∀ call ∈ calls (other, target) requests, call.result =
          if target.CannotReach call.request.key then .error (.storage (.io .nameTooLong))
          else .ok .stored) ∧
        (after.2.collect after.1).result = .ok
          ((requests.filter fun request => ¬ target.CannotReach request.key).map
            Request.listed)) ∧
    ∀ (contents other : Bytes) (slot target : Slot) (value : String),
      slot.valueIn contents = .ok value →
        Slot.fit value = value ∧ target.valueIn (target.stored other value) = .ok value := by
  constructor
  · cases source with
    | slots inner =>
      obtain ⟨requests, shown, listed, inside⟩ :=
        SlotStore.requests_of_collect tree inner entries collected
      refine ⟨requests, shown, fun other target alike room => ?_⟩
      cases target with
      | files _ => exact absurd (show FileStore.backend = SlotStore.backend from alike) (by decide)
      | slots receiver =>
        have all : (requests.filter fun request =>
            ¬ CannotReach (.slots receiver) request.key) = requests := by
          simp [CannotReach]
        rw [all]
        exact slots_receive (other, receiver) requests room listed inside
    | files inner =>
      obtain ⟨requests, shown, accepted, ascending⟩ :=
        FileStore.requests_of_collect tree inner entries collected
      refine ⟨requests, shown, fun other target alike room => ?_⟩
      cases target with
      | slots _ => exact absurd (show SlotStore.backend = FileStore.backend from alike) (by decide)
      | files receiver =>
        obtain ⟨mounted⟩ := receiver
        cases mounted with
        | none => exact room.elim
        | some volume =>
          exact files_receive other volume requests room.1 room.2 accepted ascending
  · intro contents other slot target value held
    obtain ⟨_, small, nonzero⟩ := slot.inLimits_of_valueIn contents value held
    rw [Slot.valueIn_stored, Slot.readable_eq_self value small nonzero]
    exact ⟨Slot.fit_eq_self value small, rfl⟩

/-- A memory with the largest length field and a value with a zero byte in it goes into a memory
full of other bytes. A volume with a key that is listed before the one that begins it, and a value
with a zero character, goes into a volume with just the room for the values. -/
theorem listing_moves_to_another_store_of_garbage :
    let contents : Bytes := [255, 255, 255, 255] ++ List.replicate 28 122 ++
      [5, 0, 0, 0, 97, 98, 0, 99, 100] ++ List.replicate 23 255 ++ List.replicate 96 0
    let slots : ParameterStore := .slots ⟨.ofMemory (.ofContents contents)⟩
    let written : List Request := [⟨"idstring", "zzzzzzzzzzzzzzzzzzzzzzzzzzzz"⟩, ⟨"adname", "ab"⟩,
      ⟨"ssid", ""⟩, ⟨"password", ""⟩, ⟨"ipaddress", ""⟩]
    let memory : ParameterStore := .slots ⟨.ofMemory (.ofContents (List.replicate 160 7))⟩
    let filled := setAll (.empty, memory) written
    let directory := Utf8.bytes "flash"
    let tree := ((FileTree.fresh directory).putFile [directory, Utf8.bytes "a.par"]
      (Utf8.bytes "x\x00y")).putFile [directory, Utf8.bytes "a!.par"] (Utf8.bytes "é")
    let files : ParameterStore := .files ⟨some ⟨.ofText "/flash", 4096⟩⟩
    let copied : List Request := [⟨"a!", "é"⟩, ⟨"a", "x\x00y"⟩]
    let volume : ParameterStore := .files ⟨some ⟨.ofText "/flash", 5⟩⟩
    let copy := setAll (.fresh directory, volume) copied
    (slots.collect .empty).result = .ok (written.map Request.listed) ∧
      (filled.2.collect filled.1).result = .ok (written.map Request.listed) ∧
      (files.collect tree).result = .ok (copied.map Request.listed) ∧
      (copy.2.collect copy.1).result = .ok (copied.map Request.listed) := by
  intro contents slots written memory filled directory tree files copied volume copy
  have listed : (slots.collect .empty).result = .ok (written.map Request.listed) := by
    decide +kernel
  have sound : HasRoomFor written .empty memory :=
    SlotStore.sound_ofMemory .empty (List.replicate 160 7) _ (by decide +kernel)
  have found : (files.collect tree).result = .ok (copied.map Request.listed) := by
    have reported : FileStore.keys tree ⟨some ⟨.ofText "/flash", 4096⟩⟩ = .ok ["a!", "a"] :=
      FileStore.keys_of_arranged tree _ [directory] (by decide +kernel)
        (["a!.par", "a.par"].map Utf8.bytes) _ (by decide +kernel) (by decide +kernel)
        (by decide +kernel)
    rw [collect, show files.keys tree = _ from reported]
    decide +kernel
  have vacant : HasRoomFor copied (.fresh directory) volume :=
    ⟨by decide +kernel, by decide +kernel⟩
  have short : (copied.filter fun request => ¬ volume.CannotReach request.key) = copied := by
    decide +kernel
  obtain ⟨⟨ofSlots, sameSlots, slotsMove⟩, _⟩ :=
    listing_moves_to_another_store .empty slots _ listed
  obtain ⟨⟨ofFiles, sameFiles, filesMove⟩, _⟩ := listing_moves_to_another_store tree files _ found
  obtain rfl := List.map_injective_iff.mpr Request.listed_injective sameSlots
  obtain rfl := List.map_injective_iff.mpr Request.listed_injective sameFiles
  have moved := (slotsMove .empty memory rfl sound).2
  have again := (filesMove (.fresh directory) volume rfl vacant).2
  rw [short] at again
  exact ⟨listed, moved, found, again⟩

/-- A volume whose root has four thousand separators behind its name is found empty and has room,
and does not take the one parameter that is listed of another volume. -/
theorem listing_not_taken_under_long_root :
    let directory := Utf8.bytes "flash"
    let tree := (FileTree.fresh directory).putFile [directory, Utf8.bytes "ssid.par"]
      (Utf8.bytes "net")
    let source : ParameterStore := .files ⟨some ⟨.ofText "/flash", 4096⟩⟩
    let target : Volume := ⟨⟨Utf8.bytes "/flash" ++ List.replicate 4084 Path.separator⟩, 140⟩
    (source.collect tree).result = .ok [⟨"ssid", some "net"⟩] ∧
      (FileTree.fresh directory).listDirectory target.root = .ok [] ∧
      Utf8.size "net" ≤ target.capacity ∧
      (set (.fresh directory) (.files ⟨some target⟩) "ssid" "net").result =
        .error (.storage (.io .nameTooLong)) := by
  intro directory tree source target
  have listed : (source.collect tree).result = .ok [⟨"ssid", some "net"⟩] := by
    have reported : FileStore.keys tree ⟨some ⟨.ofText "/flash", 4096⟩⟩ = .ok ["ssid"] :=
      FileStore.keys_of_arranged tree _ [directory] (by decide +kernel) [Utf8.bytes "ssid.par"] _
        (by decide +kernel) (by decide +kernel) (by decide +kernel)
    rw [collect, show source.keys tree = _ from reported]
    decide +kernel
  exact ⟨listed, by decide +kernel, by decide +kernel, by decide +kernel⟩

end ParameterStore

end DeviceParameters
