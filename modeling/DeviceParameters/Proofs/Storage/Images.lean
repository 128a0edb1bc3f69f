import DeviceParameters.Proofs.Host.Handles
import DeviceParameters.Proofs.Storage.Access

/-!
# Images under their paths

An image device works through a handle, and nothing that it does moves its file: the path by
which the image was opened goes on finding that file, with as many bytes as the device has.
`Stands` says so. Opening gives it, and a write inside the device keeps it.

Opening an image that stands is no change. Its directories are there, its file is found, and no
byte is missing up to the size that was asked for, so the tree is left alone and the device is the
one that was open before.
-/

namespace DeviceParameters.ImageNvm

/-- The path of an image finds its file, and the file is as long as the device. -/
structure Stands (tree : FileTree) (nvm : ImageNvm) : Prop where
  found : tree.find nvm.path =
    .ok (nvm.handle.place, .file nvm.handle.serial (tree.contents nvm.handle))
  whole : (tree.contents nvm.handle).length = nvm.size

section Opening

variable (tree : FileTree) (path : Path) (place : Place) (serial : Nat) (contents : Bytes)

/-- A file that is found under the path of an image, with the length of the device, is its own. -/
theorem stands_of_find (nvm : ImageNvm)
    (found : tree.find nvm.path = .ok (nvm.handle.place, .file nvm.handle.serial contents))
    (length : contents.length = nvm.size) : Stands tree nvm := by
  obtain rfl := FileTree.contents_of_find tree nvm.path nvm.handle contents found
  exact ⟨found, length⟩

/-- The directories above an image that is found are there. -/
theorem house_of_locate (located : tree.locate path = .ok place) :
    house tree path = (tree, .ok ()) := by
  rw [house]
  cases above : path.parent? with
  | none => rfl
  | some parent => exact FileTree.makeDirectoryAll_parent tree path parent place above located

/-- Opening a file that is found and long enough changes nothing, and the device has all of it. -/
theorem openSized_of_find (size : Nat)
    (found : tree.find path = .ok (place, .file serial contents)) (roomy : size ≤ contents.length) :
    openSized tree path size = (tree, .ok ⟨path, ⟨place, serial⟩, contents.length⟩) := by
  obtain ⟨located, _⟩ := (FileTree.find_eq_file _ _ _ _ _).mp found
  have held := FileTree.contents_of_find tree path ⟨place, serial⟩ contents found
  rw [openSized, house_of_locate tree path place located]
  simp only [FileTree.openOrCreate_of_find tree path place serial contents found, held, if_pos roomy]

/-- Opening a file that is found as it is gives a device with all of it. -/
theorem openExisting_of_find (found : tree.find path = .ok (place, .file serial contents)) :
    openExisting tree path = .ok ⟨path, ⟨place, serial⟩, contents.length⟩ := by
  have held := FileTree.contents_of_find tree path ⟨place, serial⟩ contents found
  rw [openExisting, FileTree.openExisting_of_find tree path place serial contents found]
  simp only [held]

/-- An image that was opened with a size stands under the path, with that size at least. -/
theorem stands_of_openSized (after : FileTree) (size : Nat) (nvm : ImageNvm)
    (opened : openSized tree path size = (after, .ok nvm)) :
    Stands after nvm ∧ nvm.path = path ∧ size ≤ nvm.size := by
  have whole := length_of_openSized tree after path size nvm opened
  rw [openSized] at opened
  split at opened
  · simp at opened
  split at opened
  · simp at opened
  rename_i housed _ _ reached handle made
  obtain ⟨old, found⟩ := FileTree.find_of_openOrCreate housed path reached handle made
  have held := FileTree.contents_of_find reached path handle old found
  dsimp only at opened
  split at opened
  · rename_i enough
    obtain ⟨rfl, same⟩ := Prod.mk.inj opened
    obtain rfl := Except.ok.inj same
    exact ⟨⟨held.symm ▸ found, whole⟩, rfl, enough⟩
  split at opened
  · simp at opened
  · obtain ⟨rfl, same⟩ := Prod.mk.inj opened
    obtain rfl := Except.ok.inj same
    refine ⟨⟨?_, whole⟩, rfl, Nat.le_refl size⟩
    rw [FileTree.contents_setContents]
    exact FileTree.find_setContents reached path handle old _ found

end Opening

section Standing

variable {tree : FileTree} {nvm : ImageNvm} (stands : Stands tree nvm)

include stands

/-- The file of an image is read by its path. -/
theorem Stands.readFile : tree.readFile nvm.path = .ok (tree.contents nvm.handle) :=
  (FileTree.readFile_eq_ok _ _ _).mpr ⟨_, _, stands.found⟩

/-- Opening an image that stands, with no more bytes than it has, gives the same image and changes
nothing. -/
theorem Stands.openSized (size : Nat) (roomy : size ≤ nvm.size) :
    openSized tree nvm.path size = (tree, .ok nvm) := by
  have opened := openSized_of_find tree nvm.path nvm.handle.place nvm.handle.serial _ size
    stands.found (stands.whole.symm ▸ roomy)
  rw [opened, stands.whole]

/-- A write inside an image leaves it standing. -/
theorem Stands.replaced (offset : Nat) (data : Bytes) (inside : offset + data.length ≤ nvm.size) :
    Stands ((Device.ofImage nvm).replaced tree offset data).1 nvm := by
  by_cases nothing : data = []
  · simpa [Device.replaced, Device.ofImage, nothing] using stands
  · simp only [Device.replaced, Device.ofImage, if_neg nothing]
    apply stands_of_find
    · exact FileTree.find_setContents tree nvm.path nvm.handle _ _ stands.found
    · rw [Bytes.length_overwrite _ _ _ (stands.whole.symm ▸ inside), stands.whole]

end Standing

end DeviceParameters.ImageNvm
