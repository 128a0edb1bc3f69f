import DeviceParameters.Proofs.Bytes.Patches
import DeviceParameters.Proofs.Storage.Simulation

/-!
# What a memory device holds

A memory device has no history of its own: what it holds after any run of uses, with its write fault
armed and disarmed in between, is told by the writes that succeeded. Each byte is the one that the
last of them over it put there, or the one from the start. A write that succeeds is one that meets
no armed fault and no bound, in this order, and nothing else that is done to the device changes it.

Bounds are taken on numbers, so no range wraps round. A check in machine words comes to the same if
it refuses a sum that does not fit into a word.
-/

namespace DeviceParameters

/-- The sum of two words, if it fits into a word. A sum that wrapped round is less than either. -/
def wordSum? (left right : UInt64) : Option UInt64 :=
  if left + right < left then none else some (left + right)

/-- The bounds of a device as they are checked in words. -/
def inBoundsOfWords (offset length size : UInt64) : Bool := (wordSum? offset length).any (· ≤ size)

/-- The check in words is the check on numbers. -/
theorem inBoundsOfWords_iff (offset length size : UInt64) :
    inBoundsOfWords offset length size = true ↔
      InBounds offset.toNat length.toNat size.toNat := by
  have offsetBound := offset.toNat_lt
  have lengthBound := length.toNat_lt
  have sizeBound := size.toNat_lt
  rw [inBoundsOfWords, wordSum?, InBounds]
  by_cases wraps : offset + length < offset
  · rw [if_pos wraps]
    rw [UInt64.lt_iff_toNat_lt, UInt64.toNat_add] at wraps
    simp only [Option.any_none, Bool.false_eq_true, false_iff]
    omega
  · rw [if_neg wraps]
    rw [UInt64.lt_iff_toNat_lt, UInt64.toNat_add] at wraps
    simp only [Option.any_some, decide_eq_true_eq, UInt64.le_iff_toNat_le, UInt64.toNat_add]
    omega

namespace Device

/-- What happens to a device in a run. -/
inductive Step where
  | access (access : Access)
  /-- Arm or disarm the write fault. -/
  | armWrite (armed : Bool)
  deriving DecidableEq

/-- The state after one step. -/
def advance (state : State) : Step → State
  | .access access => take state access
  | .armWrite armed => (state.1, state.2.setWriteFault armed)

/-- The state after steps in order. -/
def advanceAll (state : State) (steps : List Step) : State := steps.foldl advance state

/-- The patch that a step makes, if it is a write that succeeds. -/
def patchBy (state : State) : Step → List Patch
  | .access (.write offset data) =>
    if (state.2.writeAt state.1 offset data).isOk then [⟨offset, data⟩] else []
  | .access (.read _ _) | .access .size | .access .flush | .armWrite _ => []

/-- The patches that the successful writes of a run make, in order. -/
def patches : State → List Step → List Patch
  | _, [] => []
  | state, step :: rest => patchBy state step ++ patches (advance state step) rest

/-- Whether the write fault is armed after steps, by the last of them that switched it. -/
def armedAfter (armed : Bool) : List Step → Bool
  | [] => armed
  | .armWrite next :: rest => armedAfter next rest
  | .access _ :: rest => armedAfter armed rest

/-- The device has refused a use. -/
def Response.IsRefusal : Response → Prop
  | .read (.error _) | .written (.error _) | .flushed (.error _) => True
  | .read (.ok _) | .written (.ok _) | .flushed (.ok _) | .size _ => False

/-- A write succeeds exactly when no write fault is armed and its range lies within the device. -/
theorem isOk_writeAt (tree : FileTree) (device : Device) (offset : Nat) (data : Bytes) :
    (device.writeAt tree offset data).isOk = true ↔
      device.writeFault = false ∧ InBounds offset data.length device.size := by
  rw [writeAt_eq]
  by_cases armed : device.writeFault = true
  · simp [armed, Except.isOk, Except.toBool]
  by_cases bounded : InBounds offset data.length device.size
  · simp [armed, bounded, Except.isOk, Except.toBool]
  · simp [armed, bounded, Except.isOk, Except.toBool]

/-- A read of a device with all of its bytes succeeds exactly when no read fault is armed and its
range lies within the device. -/
theorem isOk_readAt (tree : FileTree) (device : Device) (offset length : Nat)
    (whole : device.Whole tree) :
    (device.readAt tree offset length).isOk = true ↔
      device.readFault = false ∧ InBounds offset length device.size := by
  rw [readAt_eq tree device offset length whole]
  by_cases stopped : device.readFault = true
  · simp [stopped, Except.isOk, Except.toBool]
  by_cases bounded : InBounds offset length device.size
  · simp [stopped, bounded, Except.isOk, Except.toBool]
  · simp [stopped, bounded, Except.isOk, Except.toBool]

/-- A use that is refused leaves everything as it is. -/
theorem take_of_isRefusal (state : State) (access : Access)
    (refused : (respond state access).IsRefusal) : take state access = state := by
  cases access with
  | write offset data =>
    rw [take]
    rw [respond] at refused
    cases written : state.2.writeAt state.1 offset data with
    | error cause => rfl
    | ok after =>
      rw [written] at refused
      exact refused.elim
  | read offset length => rfl
  | size => rfl
  | flush => rfl

/-- One step on a memory device: it is memory of the same size, patched by the write if one
succeeded, and with its fault as it was switched. -/
theorem advance_ofMemory (tree : FileTree) (nvm : MemoryNvm) (step : Step) :
    ∃ after, advance (tree, .ofMemory nvm) step = (tree, .ofMemory after) ∧
      after.size = nvm.size ∧ after.writeFault = armedAfter nvm.writeFault [step] ∧
      Bytes.Patched nvm.contents after.contents (patchBy (tree, .ofMemory nvm) step) := by
  cases step with
  | armWrite armed => exact ⟨{ nvm with writeFault := armed }, rfl, rfl, rfl, .refl nvm.contents⟩
  | access access =>
    cases access with
    | write offset data =>
      have succeeds := isOk_writeAt tree (.ofMemory nvm) offset data
      rw [advance, take_write, patchBy]
      by_cases succeeded : ((ofMemory nvm).writeAt tree offset data).isOk = true
      · obtain ⟨unarmed, inside⟩ := succeeds.mp succeeded
        rw [if_pos ⟨unarmed, inside⟩, if_pos succeeded]
        exact ⟨{ nvm with contents := nvm.contents.overwrite offset data }, rfl,
          Bytes.length_overwrite nvm.contents offset data inside, rfl,
          .overwrite nvm.contents offset data inside⟩
      · rw [if_neg fun accepted => succeeded (succeeds.mpr accepted), if_neg succeeded]
        exact ⟨nvm, rfl, rfl, rfl, .refl nvm.contents⟩
    | read offset length => exact ⟨nvm, rfl, rfl, rfl, .refl nvm.contents⟩
    | size => exact ⟨nvm, rfl, rfl, rfl, .refl nvm.contents⟩
    | flush => exact ⟨nvm, rfl, rfl, rfl, .refl nvm.contents⟩

/-- A run on a memory device. The memory is general in the induction, since every step goes on from
what the one before has left. -/
theorem advanceAll_ofMemory (tree : FileTree) (nvm : MemoryNvm) (steps : List Step) :
    ∃ after, advanceAll (tree, .ofMemory nvm) steps = (tree, .ofMemory after) ∧
      after.size = nvm.size ∧ after.writeFault = armedAfter nvm.writeFault steps ∧
      Bytes.Patched nvm.contents after.contents (patches (tree, .ofMemory nvm) steps) := by
  induction steps generalizing nvm with
  | nil => exact ⟨nvm, rfl, rfl, rfl, .refl nvm.contents⟩
  | cons step rest inductionHypothesis =>
    obtain ⟨middle, stepped, firstSize, firstFault, first⟩ := advance_ofMemory tree nvm step
    obtain ⟨after, ended, size, fault, later⟩ := inductionHypothesis middle
    refine ⟨after, ?_, size.trans firstSize, ?_, ?_⟩
    · rw [advanceAll, List.foldl_cons, stepped]
      exact ended
    · rw [fault, firstFault]
      cases step with
      | access access => rfl
      | armWrite armed => rfl
    · rw [patches, stepped]
      exact first.trans later

/-- A read of memory that was patched and has kept its size gives, for each position, the byte of the
last patch over it or the one from before. -/
theorem readAt_of_patched (tree : FileTree) (before after : MemoryNvm) (made : List Patch)
    (size : after.size = before.size) (patched : Bytes.Patched before.contents after.contents made)
    (offset length : Nat) :
    let result := (ofMemory after).readAt tree offset length
    if offset + length ≤ before.size then
      ∃ bytes, result = .ok bytes ∧ bytes.length = length ∧ ∀ index, index < length →
        bytes[index]? = (Patch.lastByte? (offset + index) made).or before.contents[offset + index]?
    else result = .error (.readPastEnd offset length before.size) := by
  intro result
  have kept : (ofMemory after).size = before.size := size
  have answered : result = _ :=
    readAt_eq tree (.ofMemory after) offset length (whole_ofMemory tree after)
  rw [kept] at answered
  split
  · rename_i bounded
    refine ⟨after.contents.slice offset length, answered.trans (if_pos bounded), ?_,
      fun index within => ?_⟩
    · have room : offset + length ≤ after.contents.length :=
        Nat.le_trans bounded (Nat.le_of_eq size.symm)
      rw [Bytes.slice, List.length_take, List.length_drop]
      omega
    · rw [Bytes.getElem?_slice, if_pos within]
      exact patched.getElem?_of_length size (offset + index)
  · rename_i outside
    exact answered.trans (if_neg outside)

/-- At every point of any run on a memory device, its size is the one from the start. A read
succeeds exactly if the sum of its offset and its length is no more than that, as numbers and as
checked in words, and gives the bytes of the last successful writes over its range, or those from
the start. A write succeeds exactly if no fault is armed and the same bound holds; an armed fault
refuses it before the bound does. A flush succeeds, and whatever is refused has changed nothing.

Proof: a step patches the memory by the write that succeeded in it, if one did, and so a run patches
it by all of these in order. -/
theorem memory_holds_last_written_bytes (tree : FileTree) (nvm : MemoryNvm) (steps : List Step) :
    let start : State := (tree, .ofMemory nvm)
    let after := advanceAll start steps
    let armed := armedAfter nvm.writeFault steps
    after.2.size = nvm.size ∧
    (∀ offset length : Nat,
      let result := after.2.readAt after.1 offset length
      if offset + length ≤ nvm.size then
        ∃ bytes, result = .ok bytes ∧ bytes.length = length ∧ ∀ index, index < length →
          bytes[index]? = (Patch.lastByte? (offset + index) (patches start steps)).or
            nvm.contents[offset + index]?
      else result = .error (.readPastEnd offset length nvm.size)) ∧
    (∀ (offset : Nat) (data : Bytes),
      let result := after.2.writeAt after.1 offset data
      (result.isOk = true ↔ armed = false ∧ offset + data.length ≤ nvm.size) ∧
      (armed = true → result = .error (.writeFault offset)) ∧
      (armed = false → nvm.size < offset + data.length →
        result = .error (.writePastEnd offset data.length nvm.size))) ∧
    after.2.flush = .ok () ∧
    (∀ access, (respond after access).IsRefusal → take after access = after) ∧
    ∀ offset length size : UInt64, size.toNat = nvm.size →
      (after.2.readAt after.1 offset.toNat length.toNat).isOk = inBoundsOfWords offset length size ∧
      ∀ data : Bytes, data.length = length.toNat →
        (after.2.writeAt after.1 offset.toNat data).isOk =
          (!armed && inBoundsOfWords offset length size) := by
  intro start after armed
  obtain ⟨memory, ended, size, fault, patched⟩ := advanceAll_ofMemory tree nvm steps
  have same : after = (tree, .ofMemory memory) := ended
  have kept : (ofMemory memory).size = nvm.size := size
  have switched : (ofMemory memory).writeFault = armed := fault
  have read (offset length : Nat) := isOk_readAt tree (.ofMemory memory) offset length
    (whole_ofMemory tree memory)
  have written (offset : Nat) (data : Bytes) := isOk_writeAt tree (.ofMemory memory) offset data
  rw [kept] at read written
  rw [switched] at written
  rw [same]
  refine ⟨kept, readAt_of_patched tree nvm memory _ size patched, fun offset data => ?_, rfl,
    take_of_isRefusal (tree, .ofMemory memory), fun offset length words measured => ⟨?_, ?_⟩⟩
  · intro result
    have answered : result = _ := writeAt_eq tree (.ofMemory memory) offset data
    rw [kept, switched] at answered
    refine ⟨written offset data, fun stopped => ?_, fun unarmed beyond => ?_⟩
    · rw [answered, if_pos stopped]
    · have outside : ¬ InBounds offset data.length nvm.size := Nat.not_le_of_lt beyond
      rw [answered, if_neg (Bool.eq_false_iff.mp unarmed), if_neg outside]
  · have bounds := inBoundsOfWords_iff offset length words
    rw [measured] at bounds
    rw [Bool.eq_iff_iff, bounds, read]
    exact and_iff_right rfl
  · intro data counted
    have bounds := inBoundsOfWords_iff offset length words
    rw [measured, ← counted] at bounds
    rw [Bool.eq_iff_iff, written, Bool.and_eq_true, Bool.not_eq_true', bounds]

/-- Two writes meet, and between them one is refused. The byte that both were put over is the later
one, and the byte that the refused one was meant for is still the first one. A range can be empty at
the end, and one from the last word does not wrap round to the front. -/
theorem memory_holds_last_written_bytes_after_overlap :
    let start : State := (.empty, .ofMemory (.ofContents [1, 2, 3, 4]))
    let steps : List Step := [.access (.write 0 [8, 8, 8]), .armWrite true,
      .access (.write 3 [7]), .armWrite false, .access (.write 1 [9])]
    let after := advanceAll start steps
    (∃ bytes, after.2.readAt after.1 0 4 = .ok bytes ∧ bytes[1]? = some 9 ∧ bytes[2]? = some 8 ∧
      bytes[3]? = some 4) ∧
    (∃ bytes, after.2.readAt after.1 4 0 = .ok bytes ∧ bytes.length = 0) ∧
    after.2.writeAt after.1 3 [7, 7] = .error (.writePastEnd 3 2 4) ∧
    (after.2.readAt after.1 18446744073709551615 2).isOk = false := by
  intro start steps after
  have written : patches start steps = [⟨0, [8, 8, 8]⟩, ⟨1, [9]⟩] := by decide +kernel
  have unarmed : armedAfter false steps = false := by decide
  obtain ⟨_, read, write, _, _, words⟩ :=
    memory_holds_last_written_bytes .empty (.ofContents [1, 2, 3, 4]) steps
  have ended : advanceAll (.empty, .ofMemory (.ofContents [1, 2, 3, 4])) steps = after := rfl
  have started : ((.empty, .ofMemory (.ofContents [1, 2, 3, 4])) : State) = start := rfl
  rw [ended] at read write words
  rw [started, written] at read
  clear_value after
  obtain ⟨bytes, answered, _, holds⟩ := read 0 4
  obtain ⟨none, empty, nothing, _⟩ := read 4 0
  refine ⟨⟨bytes, answered, holds 1 (by decide), holds 2 (by decide), holds 3 (by decide)⟩,
    ⟨none, empty, nothing⟩, (write 3 [7, 7]).2.2 unarmed (by decide), ?_⟩
  exact (words 18446744073709551615 2 4 rfl).1.trans (by decide)

end Device

end DeviceParameters
