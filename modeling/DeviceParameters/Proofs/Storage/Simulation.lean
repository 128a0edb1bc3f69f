import DeviceParameters.Proofs.Storage.Images

/-!
# An image behaves as memory

A device is used by reading and writing ranges, by asking for its size, and by flushing. Two
devices that hold the same bytes, all of them, and have the same faults armed are `Alike`: they
answer every use with the same result or the same error, and a write leaves them alike. So a run
of uses cannot tell them apart, whatever the offsets and lengths are.

An image that was just opened is alike a memory device with the contents of its file. The run
leaves the image standing under its path, so what the memory device holds at any time is what
reading that path gives.
-/

namespace DeviceParameters.Device

/-- A device and the file tree around it. -/
abbrev State := FileTree × Device

/-- A use of a device. -/
inductive Access where
  | read (offset length : Nat)
  | write (offset : Nat) (data : Bytes)
  | size
  | flush
  deriving DecidableEq

/-- What a use of a device comes to. -/
inductive Response where
  | read (result : Except StorageError Bytes)
  | written (result : Except StorageError Unit)
  | size (bytes : Nat)
  | flushed (result : Except StorageError Unit)

/-- What the device answers. -/
def respond (state : State) : Access → Response
  | .read offset length => .read (state.2.readAt state.1 offset length)
  | .write offset data => .written ((state.2.writeAt state.1 offset data).map fun _ => ())
  | .size => .size state.2.size
  | .flush => .flushed state.2.flush

/-- The state after one use. Only a write that is accepted changes it. -/
def take (state : State) : Access → State
  | .write offset data => (state.2.writeAt state.1 offset data).toOption.getD state
  | .read _ _ | .size | .flush => state

/-- The state after uses in order. -/
def run (state : State) (accesses : List Access) : State := accesses.foldl take state

/-- What the device answers to uses in order. -/
def responses : State → List Access → List Response
  | _, [] => []
  | state, access :: rest => respond state access :: responses (take state access) rest

/-- A device with all of its bytes decides a read by its fault and its bounds. -/
theorem readAt_eq (tree : FileTree) (device : Device) (offset length : Nat)
    (whole : device.Whole tree) :
    device.readAt tree offset length =
      if device.readFault then .error (.io readFaultCause)
      else if InBounds offset length device.size then
        .ok ((device.contents tree).slice offset length)
      else .error (.readPastEnd offset length device.size) := by
  by_cases stopped : device.readFault = true
  · simp [readAt, stopped]
  by_cases bounded : InBounds offset length device.size
  · have held : offset + length ≤ (device.contents tree).length := whole.symm ▸ bounded
    rw [if_neg stopped, if_pos bounded]
    exact readAt_eq_slice tree device offset length (Bool.eq_false_iff.mpr stopped) bounded held
  · obtain ⟨medium, readFault, flushFault⟩ := device
    obtain rfl : readFault = false := Bool.eq_false_iff.mpr stopped
    cases medium with
    | memory nvm =>
      have outside : ¬ InBounds offset length nvm.size := bounded
      simp [readAt, MemoryNvm.readAt, size, outside]
    | image nvm =>
      have outside : ¬ InBounds offset length nvm.size := bounded
      simp [readAt, ImageNvm.readAt, size, outside]

/-- A write that is accepted replaces its range; any other leaves everything as it is. -/
theorem take_write (state : State) (offset : Nat) (data : Bytes) :
    take state (.write offset data) =
      if state.2.writeFault = false ∧ InBounds offset data.length state.2.size then
        state.2.replaced state.1 offset data
      else state := by
  rw [take, writeAt_eq]
  by_cases armed : state.2.writeFault = true
  · simp [armed, Except.toOption]
  by_cases bounded : InBounds offset data.length state.2.size
  · simp [armed, bounded, Except.toOption]
  · simp [armed, bounded, Except.toOption]

/-- Two devices that hold the same bytes, all of them, and have the same faults armed. -/
structure Alike (left right : State) : Prop where
  leftWhole : left.2.Whole left.1
  rightWhole : right.2.Whole right.1
  contents : left.2.contents left.1 = right.2.contents right.1
  readFault : left.2.readFault = right.2.readFault
  flushFault : left.2.flushFault = right.2.flushFault
  writeFault : left.2.writeFault = right.2.writeFault

namespace Alike

variable {left right : State} (alike : Alike left right)

include alike

/-- Devices that are alike have the same size. -/
theorem size : left.2.size = right.2.size := by
  have leftWhole : (left.2.contents left.1).length = left.2.size := alike.leftWhole
  have rightWhole : (right.2.contents right.1).length = right.2.size := alike.rightWhole
  rw [← leftWhole, ← rightWhole, alike.contents]

/-- Devices that are alike answer alike. -/
theorem respond (access : Access) : respond left access = respond right access := by
  cases access with
  | read offset length =>
    rw [Device.respond, Device.respond, readAt_eq _ _ _ _ alike.leftWhole,
      readAt_eq _ _ _ _ alike.rightWhole, alike.readFault, alike.contents, alike.size]
  | write offset data =>
    rw [Device.respond, Device.respond, writeAt_eq, writeAt_eq, alike.writeFault, alike.size]
    split
    · rfl
    split
    · rfl
    · rfl
  | size => rw [Device.respond, Device.respond, alike.size]
  | flush => rw [Device.respond, Device.respond, Device.flush, Device.flush, alike.flushFault]

/-- Devices that are alike are so after every use. -/
theorem take (access : Access) : Alike (take left access) (take right access) := by
  cases access with
  | write offset data =>
    rw [take_write, take_write, alike.writeFault, alike.size]
    split
    · rename_i accepted
      obtain ⟨-, bounded⟩ := accepted
      have inside : InBounds offset data.length left.2.size := alike.size ▸ bounded
      obtain ⟨leftReads, leftFlushes, leftWrites⟩ := faults_replaced left.1 left.2 offset data
      obtain ⟨reads, flushes, writes⟩ := faults_replaced right.1 right.2 offset data
      constructor
      · exact whole_replaced left.1 left.2 offset data alike.leftWhole inside
      · exact whole_replaced right.1 right.2 offset data alike.rightWhole bounded
      · rw [contents_replaced, contents_replaced, alike.contents]
      · rw [leftReads, reads, alike.readFault]
      · rw [leftFlushes, flushes, alike.flushFault]
      · rw [leftWrites, writes, alike.writeFault]
    · exact alike
  | read offset length => exact alike
  | size => exact alike
  | flush => exact alike

/-- No run of uses tells apart devices that are alike. The two states are general in the induction,
since each use goes on from where the one before ended. -/
theorem run (accesses : List Access) :
    responses left accesses = responses right accesses ∧
      Alike (run left accesses) (run right accesses) := by
  induction accesses generalizing left right with
  | nil => exact ⟨rfl, alike⟩
  | cons access rest inductionHypothesis =>
    obtain ⟨later, remain⟩ := inductionHypothesis (alike.take access)
    refine ⟨?_, remain⟩
    rw [responses, responses, alike.respond access, later]

end Alike

/-- A run leaves an image standing, behind the same handle. -/
theorem stands_run (tree : FileTree) (nvm : ImageNvm) (stands : nvm.Stands tree)
    (accesses : List Access) :
    ∃ after, run (tree, .ofImage nvm) accesses = (after, .ofImage nvm) ∧ nvm.Stands after := by
  induction accesses generalizing tree with
  | nil => exact ⟨tree, rfl, stands⟩
  | cons access rest inductionHypothesis =>
    have next : ∃ after, take (tree, .ofImage nvm) access = (after, .ofImage nvm) ∧
        nvm.Stands after := by
      cases access with
      | write offset data =>
        rw [take_write]
        split
        · rename_i accepted
          exact ⟨_, rfl, stands.replaced offset data accepted.2⟩
        · exact ⟨tree, rfl, stands⟩
      | read offset length => exact ⟨tree, rfl, stands⟩
      | size => exact ⟨tree, rfl, stands⟩
      | flush => exact ⟨tree, rfl, stands⟩
    obtain ⟨reached, taken, remains⟩ := next
    rw [run, List.foldl_cons, taken]
    exact inductionHypothesis reached remains

/-- A file that can be read can be opened as an image, as it is or with any size that it has
already. The image answers every run of reads, writes, sizes and flushes as memory with the
contents of the file does, errors and their numbers included, and after every run the file has the
bytes that the memory has.

Proof: the image and the memory are alike at the start, and every use keeps them so. The image
stands under its path throughout, so the bytes behind its handle are those of the file. -/
theorem image_answers_as_memory (tree other : FileTree) (path : Path) (contents : Bytes)
    (readable : tree.readFile path = .ok contents) :
    ∃ nvm, ImageNvm.openExisting tree path = .ok nvm ∧
      (∀ size, size ≤ contents.length → ImageNvm.openSized tree path size = (tree, .ok nvm)) ∧
      ∀ accesses : List Access,
        let onImage : State := (tree, .ofImage nvm)
        let inMemory : State := (other, .ofMemory (.ofContents contents))
        responses onImage accesses = responses inMemory accesses ∧
          (run onImage accesses).1.readFile path =
            .ok ((run inMemory accesses).2.contents (run inMemory accesses).1) := by
  obtain ⟨place, serial, found⟩ := (FileTree.readFile_eq_ok _ _ _).mp readable
  have held := FileTree.contents_of_find tree path ⟨place, serial⟩ contents found
  have stands : ImageNvm.Stands tree ⟨path, ⟨place, serial⟩, contents.length⟩ :=
    ImageNvm.stands_of_find tree contents _ found rfl
  refine ⟨⟨path, ⟨place, serial⟩, contents.length⟩, ?_, ?_, ?_⟩
  · exact ImageNvm.openExisting_of_find tree path place serial contents found
  · intro size roomy
    exact ImageNvm.openSized_of_find tree path place serial contents size found roomy
  · intro accesses onImage inMemory
    have alike : Alike onImage inMemory := ⟨stands.whole, rfl, held, rfl, rfl, rfl⟩
    obtain ⟨same, remain⟩ := alike.run accesses
    obtain ⟨after, reached, standing⟩ := stands_run tree _ stands accesses
    have bytes := remain.contents
    rw [reached] at bytes ⊢
    exact ⟨same, standing.readFile.trans (congrArg Except.ok bytes)⟩

/-- An image of four bytes, used within it, at its end and past it: what is read are the bytes of the
file, after a write with the one that was written, and a refusal tells the range and the size. -/
theorem image_answers_as_memory_at_the_end :
    let tree := ((FileTree.fresh (Utf8.bytes "work")).writeFile (.ofText "nvm.bin") [1, 2, 3, 4]
      ).toOption.getD .empty
    let accesses : List Access := [.read 1 2, .read 4 0, .read 4 1, .write 3 [9], .write 3 [8, 8],
      .read 2 2, .read 5 0, .size, .flush]
    let answers : List Response := [.read (.ok [2, 3]), .read (.ok []),
      .read (.error (.readPastEnd 4 1 4)), .written (.ok ()),
      .written (.error (.writePastEnd 3 2 4)), .read (.ok [3, 9]),
      .read (.error (.readPastEnd 5 0 4)), .size 4, .flushed (.ok ())]
    tree.readFile (.ofText "nvm.bin") = .ok [1, 2, 3, 4] ∧
      ∃ nvm, ImageNvm.openSized tree (.ofText "nvm.bin") 2 = (tree, .ok nvm) ∧
        responses (tree, .ofImage nvm) accesses = answers ∧
        (run (tree, .ofImage nvm) accesses).1.readFile (.ofText "nvm.bin") = .ok [1, 2, 3, 9] := by
  intro tree accesses answers
  have readable : tree.readFile (.ofText "nvm.bin") = .ok [1, 2, 3, 4] := by rfl
  have answered : responses (FileTree.empty, .ofMemory (.ofContents [1, 2, 3, 4])) accesses =
      answers := by rfl
  have kept : (run (FileTree.empty, .ofMemory (.ofContents [1, 2, 3, 4])) accesses).2.contents
      (run (FileTree.empty, .ofMemory (.ofContents [1, 2, 3, 4])) accesses).1 = [1, 2, 3, 9] := by
    decide +kernel
  obtain ⟨nvm, _, opens, simulates⟩ :=
    image_answers_as_memory tree .empty (.ofText "nvm.bin") [1, 2, 3, 4] readable
  obtain ⟨same, ends⟩ := simulates accesses
  rw [kept] at ends
  exact ⟨readable, nvm, opens 2 (by decide), same.trans answered, ends⟩

end DeviceParameters.Device
