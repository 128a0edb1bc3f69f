import DeviceParameters.Proofs.Store.Agreement
import DeviceParameters.Proofs.Store.Turns

/-!
# Keys outside the slot table

A slot store looks for the key in the table before it turns to its device. So a call with a key that
is not in the table is told only that, whatever the device holds and whichever of its faults are
armed, and leaves everything as it is. Between other calls it cannot be noticed: nothing passes from
the device to those who ask for unknown keys, and nothing from them to the device.

A key in the table reaches one slot, and no other key reaches that slot. What a key reaches is seen
from outside: setting the key does what writing the slot does, and reading the key what reading the
slot does.
-/

namespace DeviceParameters

namespace SlotStore

/-- On every device, setting a key comes to writing a slot, and reading it to reading that slot. -/
def Reaches (key : String) (slot : Slot) : Prop :=
  ∀ (tree : FileTree) (store : SlotStore),
    (∀ value, (store.set tree key value).result = (store.writeSlot tree slot value).result ∧
      (store.set tree key value).state = (store.writeSlot tree slot value).state) ∧
    (store.get tree key).result = store.readSlot tree slot

/-- A key reaches a slot exactly if it is the name of that slot. A device with an armed write fault
tells the slots apart, for it says where the write was refused, and no key outside the table gets
that far. -/
theorem reaches_iff (key : String) (slot : Slot) : Reaches key slot ↔ slot.name = key := by
  constructor
  · intro reaches
    let store : SlotStore := ⟨(Device.ofMemory (.ofSize Slot.tableSize)).setWriteFault true⟩
    have armed : store.device.writeFault = true := rfl
    have refused := ((reaches (.fresh []) store).1 "").1
    rw [writeSlot_eq, if_pos armed] at refused
    rcases known_or_unknown key with ⟨target, rfl⟩ | unknown
    · rw [set_name, if_pos armed] at refused
      simp only [Except.error.injEq, ParameterError.storage.injEq,
        StorageError.writeFault.injEq] at refused
      rw [Slot.offset_injective target slot refused]
    · rw [set_unknown _ _ _ _ unknown] at refused
      cases refused
  · rintro rfl tree store
    exact ⟨set_name_as_writeSlot tree store slot, result_get_name tree store slot⟩

end SlotStore

namespace ParameterStore

/-- Whether a call is made for a key outside the slot table. -/
def Operation.isForeign (operation : Operation) : Bool :=
  operation.key?.any fun key => decide (key ∉ SlotStore.keys)

/-- The calls among turns that are made for a key outside the slot table. -/
def foreignCalls (turns : List Turn) : List Operation :=
  (turns.filterMap Turn.operation?).filter Operation.isForeign

/-- The calls of a run for a key outside the slot table, each with what it was told. -/
def foreignHistory (state : State) (turns : List Turn) : List (Operation × Told) :=
  (history state turns).filter fun entry => entry.1.isForeign

/-- A slot store refuses a call for a key outside the table as that, and stays as it is. -/
theorem perform_unknown (tree : FileTree) (store : SlotStore) (operation : Operation) (key : String)
    (asked : operation.key? = some key) (unknown : key ∉ SlotStore.keys) :
    perform (tree, .slots store) operation =
      (operation.refused (.unknownKey key), (tree, .slots store)) := by
  have unresolved : Slot.ofKey key = .error (.unknownKey key) :=
    SlotStore.ofKey_unknown key fun slot named =>
      unknown ((SlotStore.mem_keys key).mpr ⟨slot, named⟩)
  cases operation with
  | set request =>
    obtain rfl := Option.some.inj asked
    simp [perform, set, SlotStore.set, unresolved, Operation.refused]
  | get asked =>
    obtain rfl := Option.some.inj asked
    simp [perform, get, SlotStore.get, unresolved, Operation.refused]
  | keys => cases asked
  | setKey request =>
    obtain rfl := Option.some.inj asked
    simp [perform, setKey, set, SlotStore.set, unresolved, Operation.refused, Except.isOk,
      Except.toBool]
  | getKey asked before =>
    obtain rfl := Option.some.inj asked
    simp [perform, getKey, get, SlotStore.get, unresolved, Operation.refused]

/-- A slot store is idle in calls for keys outside the table. -/
theorem idle_foreign :
    Idle (fun state => ∃ store, state.2 = .slots store) Operation.isForeign fun operation =>
      operation.refused (.unknownKey (operation.key?.getD "")) where
  kept := by
    rintro ⟨tree, _⟩ turn ⟨store, rfl⟩
    cases turn with
    | call operation => cases operation <;> exact ⟨_, rfl⟩
    | host change => exact ⟨store, rfl⟩
    | device change => exact ⟨_, rfl⟩
  performed := by
    rintro ⟨tree, _⟩ operation ⟨store, rfl⟩ foreign
    obtain ⟨key, asked, unknown⟩ := (Option.any_eq_true _ _).mp foreign
    rw [perform_unknown tree store operation key asked (of_decide_eq_true unknown), asked]
    rfl

/-- Keys outside the table are refused before the device is looked at. On every device, with any
contents and any faults armed, each form of call is told that its key is unknown, or only that it
failed, and nothing is changed. What such calls are told in a run depends on them alone, not on the
device or on anything that happens between them, and without them the run ends in the same state and
every other call is told the same. A key in the table resolves to the slot of that name and reaches
that slot only, and no two keys reach one slot. -/
theorem unknown_keys_never_reach_device (tree otherTree : FileTree) (store other : SlotStore) :
    (∀ operation key, operation.key? = some key → key ∉ SlotStore.keys →
      perform (tree, .slots store) operation =
        (operation.refused (.unknownKey key), (tree, .slots store))) ∧
    (∀ turns otherTurns : List Turn, foreignCalls turns = foreignCalls otherTurns →
      foreignHistory (tree, .slots store) turns =
        foreignHistory (otherTree, .slots other) otherTurns) ∧
    (∀ turns : List Turn,
      let others := turns.filter fun turn => !turn.operation?.any Operation.isForeign
      afterTurns (tree, .slots store) others = afterTurns (tree, .slots store) turns ∧
        history (tree, .slots store) others =
          (history (tree, .slots store) turns).filter fun entry => !entry.1.isForeign) ∧
    SlotStore.keys = ["idstring", "adname", "ssid", "password", "ipaddress"] ∧
    (∀ key slot, (Slot.ofKey key = .ok slot ↔ slot.name = key) ∧
      (SlotStore.Reaches key slot ↔ slot.name = key)) ∧
    (∀ left right slot, SlotStore.Reaches left slot → SlotStore.Reaches right slot →
      left = right) := by
  refine ⟨perform_unknown tree store, ?_, ?_, rfl, ?_, ?_⟩
  · intro turns otherTurns same
    calc foreignHistory (tree, .slots store) turns
        = (foreignCalls turns).map _ := idle_foreign.history_of_silent _ ⟨store, rfl⟩ turns
      _ = (foreignCalls otherTurns).map _ := by rw [same]
      _ = foreignHistory (otherTree, .slots other) otherTurns :=
          (idle_foreign.history_of_silent _ ⟨other, rfl⟩ otherTurns).symm
  · intro turns
    exact idle_foreign.leave_out _ ⟨store, rfl⟩ turns
  · intro key slot
    exact ⟨Slot.ofKey_eq_ok_iff key slot, SlotStore.reaches_iff key slot⟩
  · intro left right slot first second
    have leftNamed := (SlotStore.reaches_iff left slot).mp first
    have rightNamed := (SlotStore.reaches_iff right slot).mp second
    exact leftNamed.symm.trans rightNamed

/-- Keys that are nearly in the table, on a device that refuses to be read and flushed, and beside it
an empty one: the calls for those keys are told the same in two runs, and a call between them is as
it would be alone. -/
theorem unknown_keys_never_reach_device_beside_known :
    let tree := FileTree.fresh []
    let broken : SlotStore := ⟨⟨.memory ⟨List.replicate 160 0xff, false⟩, true, true⟩⟩
    let empty : SlotStore := ⟨.ofMemory (.ofSize 160)⟩
    let capitals : Turn := .call (.setKey ⟨"SSID", "net"⟩)
    let spaced : Turn := .call (.getKey " ssid" "old")
    let between : Turn := .call (.set ⟨"ssid", "net"⟩)
    (∀ key ∈ ["SSID", "ssi", "ssids", " ssid ", ""], ∀ value,
      perform (tree, .slots broken) (.set ⟨key, value⟩) =
        (.set (.error (.unknownKey key)), (tree, .slots broken))) ∧
    foreignHistory (tree, .slots broken) [capitals, between, spaced] =
      foreignHistory (tree, .slots empty) [capitals, .device (·.setWriteFault true), spaced] ∧
    afterTurns (tree, .slots broken) [between] =
      afterTurns (tree, .slots broken) [capitals, between, spaced] ∧
    SlotStore.Reaches "ssid" .ssid := by
  intro tree broken empty capitals spaced between
  obtain ⟨refused, apart, alone, _, known, _⟩ :=
    unknown_keys_never_reach_device tree tree broken empty
  have unknown : ∀ key ∈ ["SSID", "ssi", "ssids", " ssid ", ""], key ∉ SlotStore.keys := by decide
  refine ⟨?_, apart _ _ rfl, (alone [capitals, between, spaced]).1, ?_⟩
  · intro key member value
    exact refused (.set ⟨key, value⟩) key rfl (unknown key member)
  · exact (known "ssid" .ssid).2.mpr rfl

end ParameterStore

end DeviceParameters
