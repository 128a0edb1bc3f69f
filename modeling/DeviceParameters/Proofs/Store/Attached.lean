import DeviceParameters.Proofs.File.Formatting
import DeviceParameters.Proofs.Slot.Refinement
import DeviceParameters.Proofs.Storage.Images
import DeviceParameters.Proofs.Store.Outcomes

/-!
# Stores and their media

Opening can format a root, make directories, and make or extend an image. Where a store was opened
before, there is nothing of that left to do: the root is a directory, or the image stands under its
path with the size that was asked for. `Attached` is what an opened store has of its medium. Every
set keeps it, whether it succeeds or fails, and from it opening gives the same store and leaves the
tree alone.
-/

namespace DeviceParameters

namespace SlotStore

/-- A set leaves the image of a slot store standing, behind the same device. -/
theorem stands_set (tree : FileTree) (nvm : ImageNvm) (stands : nvm.Stands tree)
    (roomy : Slot.tableSize ≤ nvm.size) (key value : String) :
    ∃ after, (set tree ⟨.ofImage nvm⟩ key value).state = (after, ⟨.ofImage nvm⟩) ∧
      nvm.Stands after := by
  rcases known_or_unknown key with ⟨slot, rfl⟩ | unknown
  · have inside := inBounds_recordOf nvm.size slot value roomy
    have written := state_set_name (tree, ⟨.ofImage nvm⟩) slot value roomy
    exact ⟨_, written, stands.replaced slot.offset (Slot.recordOf value) inside⟩
  · rw [set_unknown tree _ key value unknown]
    exact ⟨tree, rfl, stands⟩

end SlotStore

namespace ParameterStore

/-- A store that has its medium. A file store can be open without one. -/
def IsWorking : ParameterStore → Prop
  | .slots _ => True
  | .files inner => inner.isMounted = true

/-- The medium that a configuration describes is there, and the store uses it. -/
def Attached (config : Config) (state : State) : Platform → Prop
  | .flash =>
    state.1.isDirectory config.volumeRoot = true ∧
      state.2 = .files ⟨some ⟨config.volumeRoot, config.volumeCapacity⟩⟩
  | .radio =>
    ∃ nvm : ImageNvm, nvm.Stands state.1 ∧ nvm.path = config.imagePath ∧
      config.imageSize ≤ nvm.size ∧ Slot.tableSize ≤ nvm.size ∧
      state.2 = .slots ⟨.ofImage nvm⟩

/-- A store that was opened and works is attached to its medium. -/
theorem attached_of_openFor (tree : FileTree) (platform : Platform) (config : Config)
    (store : ParameterStore) (opened : (openFor tree platform config).result = .ok store)
    (working : store.IsWorking) :
    Attached config ((openFor tree platform config).state, store) platform := by
  cases platform with
  | flash =>
    obtain rfl : ParameterStore.files (FileStore.ofConfig tree config).2.1 = store :=
      Except.ok.inj opened
    change (FileStore.ofConfig tree config).2.1.isMounted = true at working
    change Attached config ((FileStore.ofConfig tree config).1, _) .flash
    -- A file store is always made; that it works says that its volume was mounted.
    rw [FileStore.ofConfig] at working ⊢
    split at working
    · rename_i reached volume formatted mounted
      obtain ⟨there, rfl⟩ := Volume.mounted_of_mountOrFormat _ _ _ _ _ _ _ mounted
      exact ⟨there, rfl⟩
    · simp [FileStore.isMounted] at working
  | radio =>
    change (openImage tree config).2 = .ok store at opened
    change Attached config ((openImage tree config).1, store) .radio
    rw [openImage] at opened ⊢
    split at opened
    · simp at opened
    · rename_i reached nvm sized
      obtain ⟨stands, path, large⟩ := ImageNvm.stands_of_openSized _ _ _ _ _ sized
      dsimp only at opened
      rw [ofDevice] at opened
      split at opened
      · simp at opened
      · rename_i inner accepted
        obtain rfl := Except.ok.inj opened
        obtain ⟨device, roomy⟩ := SlotStore.roomy_of_ofDevice _ _ accepted
        exact ⟨nvm, stands, path, large, roomy, by rw [← device]⟩

section Attached

variable {platform : Platform} {config : Config} {state : State}
  (attached : Attached config state platform)

include attached

/-- Opening the medium of an attached store gives that store and changes nothing. -/
theorem Attached.openFor :
    (openFor state.1 platform config).result = .ok state.2 ∧
      (openFor state.1 platform config).state = state.1 := by
  obtain ⟨tree, store⟩ := state
  cases platform with
  | flash =>
    obtain ⟨there, rfl⟩ := attached
    have mounted := (Volume.mount_eq_ok tree config.volumeRoot config.volumeCapacity _).mpr
      ⟨there, rfl⟩
    simp [ParameterStore.openFor, FileStore.ofConfig, Volume.mountOrFormat, mounted]
  | radio =>
    obtain ⟨nvm, stands, path, large, roomy, rfl⟩ := attached
    have opened := stands.openSized config.imageSize large
    have accepted : SlotStore.ofDevice (.ofImage nvm) = .ok ⟨.ofImage nvm⟩ :=
      if_neg (Nat.not_lt_of_le roomy)
    rw [path] at opened
    simp [ParameterStore.openFor, openImage, opened, ofDevice, accepted]

/-- Reads are not stopped on an attached store. -/
theorem Attached.readFault : state.2.readFault = false := by
  obtain ⟨tree, store⟩ := state
  cases platform with
  | flash =>
    obtain ⟨_, rfl⟩ := attached
    rfl
  | radio =>
    obtain ⟨_, _, _, _, _, rfl⟩ := attached
    rfl

/-- A set, granted or not, leaves a store attached to its medium. -/
theorem Attached.set (key value : String) :
    Attached config (state.2.set state.1 key value).state platform := by
  obtain ⟨tree, store⟩ := state
  cases platform with
  | flash =>
    obtain ⟨there, rfl⟩ := attached
    obtain ⟨place, root⟩ := (FileTree.isDirectory_iff _ _).mp there
    have still := FileStore.rootAt_of_set tree ⟨config.volumeRoot, config.volumeCapacity⟩ key value
      place root
    exact ⟨(FileTree.isDirectory_iff _ _).mpr ⟨place, still⟩, rfl⟩
  | radio =>
    obtain ⟨nvm, stands, path, large, roomy, rfl⟩ := attached
    obtain ⟨after, reached, standing⟩ := SlotStore.stands_set tree nvm stands roomy key value
    rw [ParameterStore.set, reached]
    exact ⟨nvm, standing, path, large, roomy, rfl⟩

/-- A run of sets leaves a store attached to its medium. -/
theorem Attached.setAll (requests : List Request) :
    Attached config (setAll state requests) platform := by
  induction requests generalizing state with
  | nil => exact attached
  | cons request rest inductionHypothesis =>
    exact inductionHypothesis (attached.set request.key request.value)

end Attached

end ParameterStore

end DeviceParameters
