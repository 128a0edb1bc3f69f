import Mathlib.Data.List.Perm.Subperm
import DeviceParameters.Proofs.File.Capacity
import DeviceParameters.Proofs.Slot.Refinement

/-!
# Two stores in step

Within the limits of a slot the two kinds of store cannot be told apart: with keys of the table,
and values that fit into a slot and have no zero character, a slot store and a file store answer
the same to the same calls. What the two hold is related by the requests that were made so far:
each key reads on both sides as the last value requested for it.

The capacity that this takes is room for the longest value of every slot. The files of the other
slots never take up more than all but one of these, so the file to be set always has its own,
whatever is overwritten and in which order.

A file store that is mounted under a root so long that the path of a file is refused answers
that instead, to every set and every read of the key.
-/

namespace DeviceParameters

namespace SlotStore

theorem mem_keys (key : String) : key ∈ keys ↔ ∃ slot : Slot, slot.name = key := by
  simp [keys, Slot.mem_all]

/-- The names on the host of the files of the table. -/
def fileNames : List Name := keys.map fun key => Utf8.bytes key ++ FileName.endingBytes

/-- A key of the table is accepted as the name of a file. -/
theorem ofKey_of_mem_keys (key : String) (known : key ∈ keys) :
    ∃ name, FileName.ofKey key = .ok name := by
  have admitted : ∀ key ∈ keys, FileName.fault? key = none := by decide +kernel
  exact ⟨_, (FileName.ofKey_eq_ok _ _).mpr ⟨admitted key known, rfl⟩⟩

theorem mem_fileNames (key name : String) (known : key ∈ keys)
    (named : FileName.ofKey key = .ok name) : Utf8.bytes name ∈ fileNames :=
  List.mem_map.mpr ⟨key, known, (FileName.bytes_of_ofKey key name named).symm⟩

end SlotStore

namespace FileTree

/-- Nothing but files of the slot table stands in a directory, none longer than a slot. -/
def HoldsOnlySlots (tree : FileTree) (place : Place) : Prop :=
  ∀ name node, tree.node? (place ++ [name]) = some node →
    name ∈ SlotStore.fileNames ∧
      ∃ serial contents, node = .file serial contents ∧ contents.length ≤ Slot.maximumLength

variable {tree after : FileTree} {place : Place} {entry : Name} {contents : Bytes}

/-- Nothing at all stands in an empty directory. -/
theorem holdsOnlySlots_of_vacant (vacant : tree.children place = []) :
    tree.HoldsOnlySlots place := by
  intro name node stands
  rw [(tree.children_eq_nil_iff place).mp vacant name] at stands
  cases stands

/-- Writing a file of the table keeps a directory to the table. -/
theorem HoldsOnlySlots.of_replaces (only : tree.HoldsOnlySlots place)
    (replaced : Replaces tree after (place ++ [entry]) contents)
    (ofTable : entry ∈ SlotStore.fileNames) (short : contents.length ≤ Slot.maximumLength) :
    after.HoldsOnlySlots place := by
  intro name node stands
  by_cases same : name = entry
  · subst same
    obtain ⟨serial, written⟩ := replaced.there
    obtain rfl := Option.some.inj (stands.symm.trans written)
    exact ⟨ofTable, serial, contents, rfl, short⟩
  · rw [replaced.elsewhere _ (by simpa using same)] at stands
    exact only name node stands

/-- The files beside one file of the table are at most all the others of the table, each as long
as a slot. -/
theorem HoldsOnlySlots.totalLength_filesBeside_le (only : tree.HoldsOnlySlots place)
    (ofTable : entry ∈ SlotStore.fileNames) :
    totalLength (tree.filesBeside place entry) ≤ (Slot.all.length - 1) * Slot.maximumLength := by
  let beside := tree.filesBeside place entry
  have known : ∀ file ∈ beside,
      file.1 ∈ SlotStore.fileNames.erase entry ∧ file.2.length ≤ Slot.maximumLength := by
    rintro ⟨name, contents⟩ member
    obtain ⟨listed, other⟩ := (tree.mem_filesBeside place entry name contents).mp member
    obtain ⟨serial, stands⟩ := (tree.mem_filesIn place name contents).mp listed
    obtain ⟨named, _, _, file, short⟩ := only name _ stands
    obtain ⟨_, rfl⟩ := Node.file.inj file
    exact ⟨(List.mem_erase_of_ne other).mpr named, short⟩
  have few : beside.length ≤ Slot.all.length - 1 := by
    have distinct : (beside.map Prod.fst).Nodup :=
      (tree.fileNames_distinct place).sublist (List.filter_sublist.map Prod.fst)
    have within : beside.map Prod.fst ⊆ SlotStore.fileNames.erase entry := by
      intro name member
      obtain ⟨file, listed, rfl⟩ := List.mem_map.mp member
      exact (known file listed).1
    have fewer := (distinct.subperm within).length_le
    rw [List.length_map, List.length_erase_of_mem ofTable] at fewer
    exact fewer
  have bounded := totalLength_le beside Slot.maximumLength fun file member => (known file member).2
  exact Nat.le_trans bounded (Nat.mul_le_mul_right _ few)

/-- With room for the whole table there is room for each file of it, whatever the others hold. -/
theorem HoldsOnlySlots.le_roomFor (only : tree.HoldsOnlySlots place) (volume : Volume)
    (roomy : Slot.all.length * Slot.maximumLength ≤ volume.capacity) (name : String)
    (ofTable : Utf8.bytes name ∈ SlotStore.fileNames) :
    Slot.maximumLength ≤ volume.roomFor tree place name := by
  have others := only.totalLength_filesBeside_le ofTable
  have parts := tree.occupied_eq place (Utf8.bytes name)
  have table : Slot.all.length = 5 := rfl
  rw [table] at others roomy
  have least := Volume.le_roomFor tree volume place name
  omega

end FileTree

namespace Request

/-- A request that a slot takes as it is: its key is in the table, and its value fits and has no
zero character. -/
def InLimits (request : Request) : Prop :=
  request.key ∈ SlotStore.keys ∧ Utf8.size request.value ≤ Slot.maximumLength ∧
    '\x00' ∉ request.value.toList

instance (request : Request) : Decidable request.InLimits :=
  inferInstanceAs (Decidable (_ ∧ _ ∧ _))

end Request

namespace SlotStore

variable {state : State} {request : Request}

/-- A sound store takes a request within the limits whole. -/
theorem result_set_of_inLimits (sound : Sound state) (inside : request.InLimits) :
    (state.2.set state.1 request.key request.value).result = .ok .stored := by
  obtain ⟨known, small, _⟩ := inside
  obtain ⟨slot, named⟩ := (mem_keys request.key).mp known
  rw [← named, set_name, if_neg (Bool.eq_false_iff.mp sound.writes),
    if_pos (inBounds_recordOf _ slot request.value sound.roomy),
    if_neg (Bool.eq_false_iff.mp sound.flushes), Slot.fit_eq_self request.value small]
  simp [writtenOutcome]

/-- After a set a slot reads as the value that was requested for it, and as before if the request
was for another. -/
theorem reading_set (sound : Sound state) (slot : Slot) :
    reading (take state (.set request)) slot =
      valueAfter (reading state slot) (Request.lastValue slot.name [request]) := by
  have single := reading_run state ([request].map .set) slot sound.toLegible
  rw [written_set state [request] sound] at single
  exact single

end SlotStore

namespace FileStore

variable {tree : FileTree} {volume : Volume} {place : Place} {request : Request}

/-- A store that holds only the table and has room for all of it grants a request within the
limits, if the path of its file can be walked. -/
theorem result_set_of_inLimits (root : volume.RootAt tree place) (only : tree.HoldsOnlySlots place)
    (roomy : Slot.all.length * Slot.maximumLength ≤ volume.capacity) (inside : request.InLimits)
    (name : String) (named : FileName.ofKey request.key = .ok name) :
    (set tree ⟨some volume⟩ request.key request.value).result =
      if volume.IsTooLong name then .error (.storage (.io .nameTooLong)) else .ok .stored := by
  have free : tree.node? (place ++ [Utf8.bytes name]) ≠ some .directory := by
    intro stands
    obtain ⟨_, _, _, file, _⟩ := only _ _ stands
    cases file
  have room := only.le_roomFor volume roomy name (SlotStore.mem_fileNames _ name inside.1 named)
  have fits : ¬ volume.roomFor tree place name < Utf8.size request.value :=
    Nat.not_lt_of_le (Nat.le_trans inside.2.1 room)
  have decided := set_by_room tree volume place request.key request.value name root named free
  by_cases long : volume.IsTooLong name
  · rw [if_pos long] at decided ⊢
    exact decided.1
  · rw [if_neg long, if_neg fits] at decided
    rw [if_neg long]
    exact decided.1

/-- A request within the limits, granted or not, leaves only the table. -/
theorem holdsOnlySlots_set (root : volume.RootAt tree place) (only : tree.HoldsOnlySlots place)
    (inside : request.InLimits) :
    (set tree ⟨some volume⟩ request.key request.value).state.HoldsOnlySlots place := by
  obtain ⟨_, _, unchanged⟩ | ⟨name, named, _, written⟩ :=
    set_refused_or_written tree volume request.key request.value
  · rw [unchanged]
    exact only
  · obtain ⟨_, replaced⟩ := Volume.room_of_write tree volume place name _ _ root
      (FileName.isEntryName_of_ofKey _ name named) written
    exact only.of_replaces replaced (SlotStore.mem_fileNames _ name inside.1 named) inside.2.1

end FileStore

namespace ParameterStore

/-- A call on a store. -/
inductive Action where
  | set (request : Request)
  | get (key : String)
  deriving DecidableEq

namespace Action

/-- The request that a call makes, if it is a set. -/
def request? : Action → Option Request
  | .set request => some request
  | .get _ => none

/-- A call within the limits of a slot. -/
def InLimits : Action → Prop
  | .set request => request.InLimits
  | .get key => key ∈ SlotStore.keys

instance (action : Action) : Decidable action.InLimits :=
  match action with
  | .set request => inferInstanceAs (Decidable request.InLimits)
  | .get key => inferInstanceAs (Decidable (key ∈ SlotStore.keys))

end Action

/-- The state after one call. A read leaves it as it is. -/
def take (state : State) : Action → State
  | .set request => (state.2.set state.1 request.key request.value).state
  | .get _ => state

/-- The state after calls in order. -/
def run (state : State) (actions : List Action) : State := actions.foldl take state

/-- A slot store and a file store to which the same requests within the limits were made: both can
take more of them, and each key reads on both as the last value requested for it, if the path of
its file can be walked. -/
structure InStep (volume : Volume) (place : Place) (seen : List Request) (slots : SlotStore.State)
    (files : FileTree) : Prop where
  sound : SlotStore.Sound slots
  root : volume.RootAt files place
  only : files.HoldsOnlySlots place
  inSlots : ∀ (slot : Slot) (value : String), Request.lastValue slot.name seen = some value →
    SlotStore.reading slots slot = .ok value
  inFiles : ∀ key name value : String, Request.lastValue key seen = some value →
    FileName.ofKey key = .ok name → ¬ volume.IsTooLong name →
      (FileStore.get files ⟨some volume⟩ key).result = .ok value

variable {volume : Volume} {place : Place} {seen : List Request} {slots : SlotStore.State}
  {files : FileTree}

/-- Before the first request, any slots are in step with an empty root. -/
theorem inStep_of_vacant (sound : SlotStore.Sound slots) (root : volume.RootAt files place)
    (vacant : files.children place = []) : InStep volume place [] slots files where
  sound := sound
  root := root
  only := FileTree.holdsOnlySlots_of_vacant vacant
  inSlots := by
    intro slot value nothing
    cases nothing
  inFiles := by
    intro key name value nothing
    cases nothing

/-- One more request within the limits keeps the two stores in step. -/
theorem InStep.set (related : InStep volume place seen slots files)
    (roomy : Slot.all.length * Slot.maximumLength ≤ volume.capacity) (request : Request)
    (inside : request.InLimits) :
    InStep volume place (seen ++ [request]) (SlotStore.take slots (.set request))
      (FileStore.set files ⟨some volume⟩ request.key request.value).state where
  sound := SlotStore.sound_set slots request related.sound
  root := FileStore.rootAt_of_set files volume request.key request.value place related.root
  only := FileStore.holdsOnlySlots_set related.root related.only inside
  inSlots := by
    intro slot value last
    rw [Request.lastValue_append] at last
    rw [SlotStore.reading_set related.sound slot]
    by_cases same : request.key = slot.name
    · rw [← same, Request.lastValue_singleton_self] at last ⊢
      obtain rfl : request.value = value := Option.some.inj last
      exact congrArg Except.ok (Slot.readable_eq_self request.value inside.2.1 inside.2.2)
    · rw [Request.lastValue_singleton_of_ne _ _ same] at last ⊢
      exact related.inSlots slot value last
  inFiles := by
    intro key name value last named short
    rw [Request.lastValue_append] at last
    rw [FileStore.result_get_of_set files volume request.key request.value place related.root]
    by_cases same : request.key = key
    · subst same
      rw [Request.lastValue_singleton_self] at last
      obtain rfl : request.value = value := Option.some.inj last
      have granted :=
        FileStore.result_set_of_inLimits related.root related.only roomy inside name named
      rw [if_neg short] at granted
      rw [if_pos ⟨rfl, by rw [granted]; rfl⟩]
    · rw [Request.lastValue_singleton_of_ne _ _ same] at last
      rw [if_neg fun both => same both.1]
      exact related.inFiles key name value last named short

/-- A run of calls within the limits keeps two stores in step. The requests made before are
general in the induction. -/
theorem InStep.run (related : InStep volume place seen slots files)
    (roomy : Slot.all.length * Slot.maximumLength ≤ volume.capacity) (actions : List Action)
    (inside : ∀ action ∈ actions, action.InLimits) :
    ∃ slotsAfter filesAfter,
      ParameterStore.run (slots.1, .slots slots.2) actions = (slotsAfter.1, .slots slotsAfter.2) ∧
      ParameterStore.run (files, .files ⟨some volume⟩) actions =
        (filesAfter, .files ⟨some volume⟩) ∧
      InStep volume place (seen ++ actions.filterMap Action.request?) slotsAfter filesAfter := by
  induction actions generalizing seen slots files with
  | nil => exact ⟨slots, files, rfl, rfl, by simpa using related⟩
  | cons action rest inductionHypothesis =>
    have others : ∀ other ∈ rest, other.InLimits := fun other member =>
      inside other (List.mem_cons_of_mem _ member)
    cases action with
    | get key => exact inductionHypothesis related others
    | set request =>
      have next := related.set roomy request (inside _ List.mem_cons_self)
      obtain ⟨slotsAfter, filesAfter, slotsEnd, filesEnd, last⟩ := inductionHypothesis next others
      rw [List.append_assoc] at last
      exact ⟨slotsAfter, filesAfter, slotsEnd, filesEnd, last⟩

/-- At every point of a run of calls within the limits, on any sound slot store and on a mounted
file store whose root was empty and whose capacity is that of the table: the next set within the
limits is stored whole by both, and the next read of a key that was set is answered by both with
the value that was set last. Only where the path of the file is too long does the file store
answer that.

Proof: an empty root is in step with any slots before the first request, and the run keeps them
in step. -/
theorem stores_agree_within_limits (slotTree fileTree : FileTree) (device : Device)
    (volume : Volume) (sound : SlotStore.Sound (slotTree, ⟨device⟩))
    (vacant : fileTree.listDirectory volume.root = .ok [])
    (roomy : Slot.all.length * Slot.maximumLength ≤ volume.capacity) (actions : List Action)
    (inside : ∀ action ∈ actions, action.InLimits) :
    let slots := run (slotTree, .slots ⟨device⟩) actions
    let files := run (fileTree, .files ⟨some volume⟩) actions
    (∀ request : Request, request.InLimits → ∃ name, FileName.ofKey request.key = .ok name ∧
      (slots.2.set slots.1 request.key request.value).result = .ok .stored ∧
      (files.2.set files.1 request.key request.value).result =
        if volume.IsTooLong name then .error (.storage (.io .nameTooLong)) else .ok .stored) ∧
    ∀ key ∈ SlotStore.keys, ∀ value,
      Request.lastValue key (actions.filterMap Action.request?) = some value →
      ∃ name, FileName.ofKey key = .ok name ∧ (slots.2.get slots.1 key).result = .ok value ∧
        (files.2.get files.1 key).result =
          if volume.IsTooLong name then .error (.storage (.io .nameTooLong)) else .ok value := by
  intro slots files
  obtain ⟨place, root, empty⟩ := (fileTree.listDirectory_eq_ok _ _).mp vacant
  have start := inStep_of_vacant sound root empty
  obtain ⟨slotsAfter, filesAfter, slotsEnd, filesEnd, related⟩ := start.run roomy actions inside
  have slotState : slots = (slotsAfter.1, .slots slotsAfter.2) := slotsEnd
  have fileState : files = (filesAfter, .files ⟨some volume⟩) := filesEnd
  rw [slotState, fileState]
  constructor
  · intro request within
    obtain ⟨name, named⟩ := SlotStore.ofKey_of_mem_keys request.key within.1
    exact ⟨name, named, SlotStore.result_set_of_inLimits related.sound within,
      FileStore.result_set_of_inLimits related.root related.only roomy within name named⟩
  · intro key known value last
    obtain ⟨name, named⟩ := SlotStore.ofKey_of_mem_keys key known
    obtain ⟨slot, rfl⟩ := (SlotStore.mem_keys key).mp known
    refine ⟨name, named, related.inSlots slot value last, ?_⟩
    split
    · rename_i long
      exact FileStore.result_get_of_tooLong filesAfter volume place _ name related.root named long
    · rename_i short
      exact related.inFiles slot.name name value last named short

/-- The smallest memory and the smallest capacity, with every slot filled and one overwritten by a
shorter value: both stores read that, and both take the longer value again. -/
theorem stores_agree_within_limits_when_full :
    let device : Device := .ofMemory (.ofSize 160)
    let tree := FileTree.fresh (Utf8.bytes "flash")
    let volume : Volume := ⟨.ofText "/flash", 140⟩
    let longest := "abcdefghijklmnopqrstuvwxyzé"
    let actions : List Action := (SlotStore.keys.map fun key => .set ⟨key, longest⟩) ++
      [.get "ssid", .set ⟨"ssid", "net"⟩]
    let slots := run (.empty, .slots ⟨device⟩) actions
    let files := run (tree, .files ⟨some volume⟩) actions
    SlotStore.Sound (.empty, ⟨device⟩) ∧ tree.listDirectory volume.root = .ok [] ∧
      (∀ action ∈ actions, action.InLimits) ∧
      (slots.2.get slots.1 "ssid").result = .ok "net" ∧
      (files.2.get files.1 "ssid").result = .ok "net" ∧
      (slots.2.set slots.1 "ssid" longest).result = .ok .stored ∧
      (files.2.set files.1 "ssid" longest).result = .ok .stored := by
  intro device tree volume longest actions slots files
  have sound : SlotStore.Sound (.empty, ⟨device⟩) :=
    ⟨⟨rfl, by decide +kernel, Device.whole_ofMemory _ _⟩, rfl, rfl⟩
  have vacant : tree.listDirectory volume.root = .ok [] := by decide +kernel
  have inside : ∀ action ∈ actions, action.InLimits := by decide +kernel
  have last : Request.lastValue "ssid" (actions.filterMap Action.request?) = some "net" := by
    decide +kernel
  have small : Request.InLimits ⟨"ssid", longest⟩ := by decide +kernel
  have accepted : FileName.ofKey "ssid" = .ok "ssid.par" := by decide +kernel
  have short : ¬ volume.IsTooLong "ssid.par" := by decide +kernel
  obtain ⟨sets, gets⟩ := stores_agree_within_limits .empty tree device volume sound vacant
    (by decide +kernel) actions inside
  obtain ⟨setName, setNamed, slotSet, fileSet⟩ := sets ⟨"ssid", longest⟩ small
  obtain ⟨getName, getNamed, slotGet, fileGet⟩ := gets "ssid" small.1 "net" last
  obtain rfl : "ssid.par" = setName := Except.ok.inj (accepted.symm.trans setNamed)
  obtain rfl : "ssid.par" = getName := Except.ok.inj (accepted.symm.trans getNamed)
  rw [if_neg short] at fileSet fileGet
  exact ⟨sound, vacant, inside, slotGet, fileGet, slotSet, fileSet⟩

/-- Under a root with four thousand separators behind its name, which is found empty, a file store
refuses what a slot store takes. -/
theorem stores_differ_under_long_root :
    let device : Device := .ofMemory (.ofSize 160)
    let tree := FileTree.fresh (Utf8.bytes "flash")
    let volume : Volume := ⟨⟨Utf8.bytes "/flash" ++ List.replicate 4084 Path.separator⟩, 140⟩
    tree.listDirectory volume.root = .ok [] ∧ Request.InLimits ⟨"ssid", "net"⟩ ∧
      (SlotStore.set .empty ⟨device⟩ "ssid" "net").result = .ok .stored ∧
      (FileStore.set tree ⟨some volume⟩ "ssid" "net").result =
        .error (.storage (.io .nameTooLong)) := by
  decide +kernel

end ParameterStore

end DeviceParameters
