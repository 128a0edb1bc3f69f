import DeviceParameters.Proofs.Host.NewEntries
import DeviceParameters.Proofs.Store.Attached
import DeviceParameters.Scratch

/-!
# Opening a medium again

A store can be dropped and opened again at any time: the medium is as it was left, opening does
nothing to it, and the new store reads as the old one did. That holds for every configuration from
which a working store was opened once, after any sets.

It holds for scratch stores on the host in particular. They have a directory of their own, which
is empty at first, so that the store of either platform can be made there.
-/

namespace DeviceParameters

section Vacant

variable (tree : FileTree) (directory : Path) (place : Place) (name : Name)
  (found : tree.find directory = .ok (place, .directory)) (entry : Path.IsEntryName name)
  (short : ¬ FileTree.pathLimit ≤ (directory.join ⟨name⟩).bytes.length)
  (vacant : tree.node? (place ++ [name]) = none)

include found entry short vacant

/-- A root that is vacant in a directory is formatted and mounted. -/
theorem Volume.mountOrFormat_of_vacant (capacity : Nat) :
    mountOrFormat tree (directory.join ⟨name⟩) capacity true =
      (tree.putDirectory (place ++ [name]), .ok (⟨directory.join ⟨name⟩, capacity⟩, true)) := by
  have missing := FileTree.find_join_of_vacant tree place directory name found entry short vacant
  have made := FileTree.makeDirectoryAll_join tree place directory name found entry short vacant
  have there := FileTree.isDirectory_putDirectory tree place directory name found entry short vacant
  have absent : tree.isDirectory (directory.join ⟨name⟩) = false := by
    rw [FileTree.isDirectory, FileTree.stat, missing]
    rfl
  have gone : tree.isPresent (directory.join ⟨name⟩) = false := by
    rw [FileTree.isPresent, FileTree.stat, missing]
    rfl
  simp [mountOrFormat, mount, absent, format, clear, gone, made, there]

/-- An image that is vacant in a directory is made and opened. -/
theorem ImageNvm.openSized_of_vacant (size : Nat) (possible : size ≤ maximumFileLength) :
    ∃ after nvm, openSized tree (directory.join ⟨name⟩) size = (after, .ok nvm) := by
  have joined := FileTree.locate_join_of_short tree directory place name found entry short
  have created := FileTree.openOrCreate_join tree place directory name found entry short
  rw [vacant] at created
  rw [openSized, house_of_locate tree _ _ joined]
  simp only [created, if_neg (Nat.not_lt_of_le possible)]
  split
  · exact ⟨_, _, rfl⟩
  · exact ⟨_, _, rfl⟩

end Vacant

namespace ScratchStore

/-- A place for a scratch store: an empty directory, under a path with room for one name more. -/
structure IsFree (tree : FileTree) (directory : Place) : Prop where
  named : ∀ name ∈ directory, Path.IsEntryName name
  stands : tree.node? directory = some .directory
  empty : tree.children directory = []
  short : (Path.build true directory).bytes.length + 8 < FileTree.pathLimit

/-- The directory that is made for a scratch store is free, if nothing stood under its name. -/
theorem isFree_makeDirectory (tree : FileTree)
    (entry : Path.IsEntryName (directoryName tree.nextSerial))
    (vacant : tree.node? [directoryName tree.nextSerial] = none) :
    IsFree (makeDirectory tree).1 (makeDirectory tree).2 := by
  have accepted : tree.Accepts [directoryName tree.nextSerial] :=
    ⟨List.cons_ne_nil _ _, rfl, by simp [vacant]⟩
  have stands (other : Place) :
      (makeDirectory tree).1.node? other = _ :=
    tree.node?_put [directoryName tree.nextSerial] other .directory accepted
  constructor
  · intro name member
    obtain rfl := List.mem_singleton.mp member
    exact entry
  · exact (stands _).trans (if_pos rfl)
  · refine (FileTree.children_eq_nil_iff _ _).mpr fun name => ?_
    have different : [directoryName tree.nextSerial] ≠ (makeDirectory tree).2 ++ [name] := by
      intro same
      have lengths := congrArg List.length same
      simp [makeDirectory] at lengths
    rw [stands, if_neg different]
    exact tree.vacant_below _ _ vacant (List.prefix_append _ _)
  · have small : (directoryName tree.nextSerial).length ≤ 255 := entry.short
    have length : (Path.build true (makeDirectory tree).2).bytes.length =
        1 + (directoryName tree.nextSerial).length := by
      simp [Path.build, makeDirectory, Nat.add_comm]
    rw [length, FileTree.pathLimit]
    omega

section Free

variable {tree : FileTree} {directory : Place} (free : IsFree tree directory)

include free

/-- A free place is found by its absolute path. -/
theorem IsFree.found : tree.find (.build true directory) = .ok (directory, .directory) := by
  apply FileTree.find_build tree directory free.named free.stands
  have room := free.short
  omega

/-- The path of an entry with a short name is not too long. -/
theorem IsFree.short_join (name : Name) (entry : Path.IsEntryName name) (small : name.length ≤ 7) :
    ¬ FileTree.pathLimit ≤ ((Path.build true directory).join ⟨name⟩).bytes.length := by
  have room := free.short
  have something : (Path.build true directory).bytes ≠ [] := List.cons_ne_nil _ _
  rw [Path.bytes_join _ _ something entry, List.length_append, List.length_append]
  split
  · rw [List.length_nil]
    omega
  · rw [List.length_singleton]
    omega

end Free

/-- In a free place the store of either platform can be opened, and works. -/
theorem openFor_of_isFree (tree : FileTree) (platform : Platform) (directory : Place)
    (free : IsFree tree directory) :
    ∃ store, (ParameterStore.openFor tree platform (configIn directory)).result = .ok store ∧
      store.IsWorking := by
  have vacant := (tree.children_eq_nil_iff directory).mp free.empty
  cases platform with
  | flash =>
    have entry : Path.IsEntryName (Utf8.bytes "spiffs") :=
      ⟨by decide, by decide, by decide, by decide, by decide, by decide⟩
    have opened := Volume.mountOrFormat_of_vacant tree _ directory (Utf8.bytes "spiffs") free.found
      entry (free.short_join _ entry (by decide)) (vacant _) scratchCapacity
    rw [← Path.build_concat directory _ free.named entry] at opened
    have mounted : (FileStore.ofConfig tree (configIn directory)).2.1.isMounted = true := by
      simp [FileStore.ofConfig, configIn, opened, FileStore.isMounted]
    exact ⟨.files (FileStore.ofConfig tree (configIn directory)).2.1, rfl, mounted⟩
  | radio =>
    have entry : Path.IsEntryName (Utf8.bytes "nvm.bin") :=
      ⟨by decide, by decide, by decide, by decide, by decide, by decide⟩
    obtain ⟨after, nvm, opened⟩ := ImageNvm.openSized_of_vacant tree _ directory
      (Utf8.bytes "nvm.bin") free.found entry (free.short_join _ entry (by decide)) (vacant _)
      scratchSize (by decide)
    rw [← Path.build_concat directory _ free.named entry] at opened
    obtain ⟨_, _, large⟩ := ImageNvm.stands_of_openSized _ _ _ _ _ opened
    have accepted : SlotStore.ofDevice (.ofImage nvm) = .ok ⟨.ofImage nvm⟩ :=
      if_neg (Nat.not_lt_of_le (Nat.le_trans (by decide) large))
    refine ⟨.slots ⟨.ofImage nvm⟩, ?_, trivial⟩
    simp [ParameterStore.openFor, ParameterStore.openImage, configIn, opened,
      ParameterStore.ofDevice, accepted]

/-- A scratch store that is attached to its medium is opened again as it was, with nothing
changed. -/
theorem reopen_of_attached (platform : Platform) (directory : Place) (state : ParameterStore.State)
    (attached : ParameterStore.Attached (configIn directory) state platform) :
    ∃ again, reopen state.1 ⟨state.2, some directory⟩ = some again ∧
      again.result = .ok ⟨state.2, some directory⟩ ∧ again.state = state.1 := by
  obtain ⟨result, same⟩ := attached.openFor
  have kind : ScratchStore.platform ⟨state.2, some directory⟩ = platform := by
    cases platform with
    | flash =>
      obtain ⟨_, store⟩ := attached
      rw [store]
      rfl
    | radio =>
      obtain ⟨_, _, _, _, _, store⟩ := attached
      rw [store]
      rfl
  refine ⟨_, rfl, ?_, ?_⟩
  · rw [kind]
    exact congrArg (Except.map _) result
  · rw [kind]
    exact same

end ScratchStore

namespace ParameterStore

/-- Two stores, each in its tree, that read the same: every key, and the list of keys. -/
def ReadsAs (left right : State) : Prop :=
  (∀ key, (left.2.get left.1 key).result = (right.2.get right.1 key).result) ∧
    left.2.keys left.1 = right.2.keys right.1

/-- Where a working store was opened, opening its medium again after any sets, of which some may
have failed, succeeds, leaves the tree exactly as it is, and gives a store that reads the same. In
any free place a scratch store of either platform can be opened; reopened after any sets it has
the same contents, and the tree is left as it is.

Proof: the store was attached to its medium when it was opened, and is so after every set. A
scratch store is one more store that was opened. -/
theorem reopening_changes_nothing (tree : FileTree) (platform : Platform)
    (requests : List Request) :
    (∀ config store, (openFor tree platform config).result = .ok store → store.IsWorking →
      let after := setAll ((openFor tree platform config).state, store) requests
      let again := openFor after.1 platform config
      again.state = after.1 ∧
        ∃ reopened, again.result = .ok reopened ∧ ReadsAs (again.state, reopened) after) ∧
    ∀ directory, ScratchStore.IsFree tree directory →
      let made := ScratchStore.openIn tree platform directory
      ∃ scratch, made.result = .ok scratch ∧
        let after := setAll (made.state, scratch.store) requests
        ∃ again, ScratchStore.reopen after.1 { scratch with store := after.2 } = some again ∧
          again.state = after.1 ∧
          ∃ reopened, again.result = .ok reopened ∧ reopened.directory = scratch.directory ∧
            ReadsAs (again.state, reopened.store) after := by
  have settled (config : Config) (store : ParameterStore)
      (opened : (openFor tree platform config).result = .ok store) (working : store.IsWorking) :=
    (attached_of_openFor tree platform config store opened working).setAll requests
  constructor
  · intro config store opened working after again
    have attached : Attached config after platform := settled config store opened working
    obtain ⟨result, state⟩ := attached.openFor
    refine ⟨state, after.2, result, ?_⟩
    rw [state]
    exact ⟨fun _ => rfl, rfl⟩
  · intro directory free made
    obtain ⟨store, opened, working⟩ :=
      ScratchStore.openFor_of_isFree tree platform directory free
    have result : made.result = .ok ⟨store, some directory⟩ := congrArg (Except.map _) opened
    refine ⟨⟨store, some directory⟩, result, ?_⟩
    intro after
    obtain ⟨again, reopens, same, state⟩ := ScratchStore.reopen_of_attached platform directory after
      (settled _ store opened working)
    refine ⟨again, reopens, state, ⟨after.2, some directory⟩, same, rfl, ?_⟩
    rw [state]
    exact ⟨fun _ => rfl, rfl⟩

/-- An image in a directory that is made for it, with a set that was granted and one that was not,
beside a scratch store in a directory of its own. -/
theorem reopening_changes_nothing_after_failed_set :
    let made := ScratchStore.makeDirectory (.fresh (Utf8.bytes "work"))
    let config : Config := { Config.standard with imagePath := .ofText "radio/nvm.bin" }
    let store : ParameterStore := .slots ⟨.ofImage ⟨.ofText "radio/nvm.bin",
      ⟨[Utf8.bytes "work", Utf8.bytes "radio", Utf8.bytes "nvm.bin"], 1⟩, 256⟩⟩
    let opened := openFor made.1 .radio config
    let after := setAll (opened.state, store) [⟨"ssid", "net"⟩, ⟨"bogus", "x"⟩]
    opened.result = .ok store ∧ store.IsWorking ∧ ScratchStore.IsFree made.1 made.2 ∧
      ∃ reopened, (openFor after.1 .radio config).result = .ok reopened ∧
        (reopened.get after.1 "ssid").result = .ok "net" := by
  intro made config store opened after
  have succeeded : opened.result = .ok store := by decide +kernel
  have working : store.IsWorking := True.intro
  have free : ScratchStore.IsFree made.1 made.2 := by
    apply ScratchStore.isFree_makeDirectory
    · constructor <;> decide +kernel
    · decide +kernel
  have kept : (after.2.get after.1 "ssid").result = .ok "net" := by decide +kernel
  have result := reopening_changes_nothing made.1 .radio [⟨"ssid", "net"⟩, ⟨"bogus", "x"⟩]
  obtain ⟨state, reopened, again, reads, _⟩ := result.1 config store succeeded working
  refine ⟨succeeded, working, free, reopened, again, ?_⟩
  rw [← kept, ← reads "ssid"]
  dsimp only
  rw [state]

end ParameterStore

end DeviceParameters
