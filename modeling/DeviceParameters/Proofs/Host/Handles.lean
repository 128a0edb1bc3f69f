import DeviceParameters.Proofs.Host.Parents
import DeviceParameters.Proofs.Host.Writing

/-!
# Open files and their paths

A file that was opened by a path is the file that the path finds. As long as only its contents
are replaced, through the handle, the path finds the same file with the new contents, and opening
it again by that path gives the same handle and makes nothing.
-/

namespace DeviceParameters

/-- A path without names is one of the top. -/
theorem Path.isAbsolute_of_nameless (path : Path) (something : path.bytes ≠ [])
    (nameless : path.names = []) : path.isAbsolute = true := by
  obtain ⟨byte, rest, whole⟩ := List.exists_cons_of_ne_nil something
  by_cases cut : byte = separator
  · simp [isAbsolute, whole, cut]
  · obtain ⟨piece, others, first⟩ := List.exists_cons_of_ne_nil (pieces_ne_nil rest)
    simp [names, whole, pieces, cut, first] at nameless

namespace FileTree

variable (tree : FileTree) (path : Path)

/-- A path finds a file exactly when it leads to one and does not ask for a directory. -/
theorem find_eq_file (place : Place) (serial : Nat) (contents : Bytes) :
    tree.find path = .ok (place, .file serial contents) ↔
      tree.locate path = .ok place ∧ path.endsInSeparator = false ∧
        tree.node? place = some (.file serial contents) := by
  cases located : tree.locate path with
  | error cause => simp [find_of_locate_error tree path cause located]
  | ok reached =>
    rw [find_of_locate tree path reached located]
    constructor
    · intro found
      split at found
      · cases found
      · cases found
      · rename_i other old stands
        split at found
        · cases found
        · rename_i plain
          obtain ⟨rfl, same⟩ := Prod.mk.inj (Except.ok.inj found)
          obtain ⟨rfl, rfl⟩ := Node.file.inj same
          exact ⟨rfl, Bool.eq_false_iff.mpr plain, stands⟩
    · rintro ⟨same, plain, stands⟩
      obtain rfl := Except.ok.inj same
      simp [stands, plain]

/-- The contents behind a handle are those of the file that a path finds. -/
theorem contents_of_find (handle : FileHandle) (contents : Bytes)
    (found : tree.find path = .ok (handle.place, .file handle.serial contents)) :
    tree.contents handle = contents := by
  obtain ⟨_, _, stands⟩ := (find_eq_file _ _ _ _ _).mp found
  rw [FileTree.contents, stands]
  exact if_pos rfl

/-- A file that is found is what is read. -/
theorem readFile_eq_ok (contents : Bytes) :
    tree.readFile path = .ok contents ↔
      ∃ place serial, tree.find path = .ok (place, .file serial contents) := by
  rw [readFile]
  cases found : tree.find path with
  | error cause => simp [bind, Except.bind]
  | ok entry =>
    obtain ⟨place, node⟩ := entry
    cases node with
    | directory => simp [bind, Except.bind]
    | file serial old => simp [bind, Except.bind, eq_comm]

/-- A path without names leads to the top. -/
theorem top_of_nameless (place : Place) (last : path.names.getLast? = none)
    (located : tree.locate path = .ok place) : place = [] := by
  obtain ⟨_, walked⟩ := (locate_eq_ok _ _ _).mp located
  have nameless : path.names = [] := List.getLast?_eq_none_iff.mp last
  have absolute := Path.isAbsolute_of_nameless path (bytes_ne_nil_of_locate tree path place located)
    nameless
  rw [nameless, FileTree.start, if_pos absolute] at walked
  exact (Except.ok.inj walked).symm

/-- Opening a path for writing, where it leads to a place and does not ask for a directory, is
decided by what stands there. -/
theorem openOrCreate_of_locate (place : Place) (located : tree.locate path = .ok place)
    (plain : path.endsInSeparator = false) :
    tree.openOrCreate path = match tree.node? place with
      | some .directory => .error .isDirectory
      | some (.file serial _) => .ok (tree, ⟨place, serial⟩)
      | none => .ok (tree.putFile place [], ⟨place, tree.nextSerial⟩) := by
  obtain ⟨checked, _⟩ := (locate_eq_ok _ _ _).mp located
  rw [openOrCreate, checked]
  cases last : path.names.getLast? with
  | none =>
    -- The top is a directory.
    obtain rfl := top_of_nameless tree path place last located
    rfl
  | some name =>
    obtain ⟨parent, parentLocated, stepped⟩ := step_of_locate tree path place name last located
    simp only [bind, Except.bind, parentLocated, stepped, plain]
    rfl

/-- A path that leads to a place where no directory stands, and does not ask for one, is opened for
writing. -/
theorem openOrCreate_ok_of_locate (place : Place) (located : tree.locate path = .ok place)
    (plain : path.endsInSeparator = false) (free : tree.node? place ≠ some .directory) :
    ∃ opened handle, tree.openOrCreate path = .ok (opened, handle) := by
  rw [openOrCreate_of_locate tree path place located plain]
  cases stands : tree.node? place with
  | none => exact ⟨_, _, rfl⟩
  | some node =>
    cases node with
    | directory => exact absurd stands free
    | file serial old => exact ⟨_, _, rfl⟩

/-- Opening a file that is found for writing makes nothing. -/
theorem openOrCreate_of_find (place : Place) (serial : Nat) (contents : Bytes)
    (found : tree.find path = .ok (place, .file serial contents)) :
    tree.openOrCreate path = .ok (tree, ⟨place, serial⟩) := by
  obtain ⟨located, plain, stands⟩ := (find_eq_file _ _ _ _ _).mp found
  rw [openOrCreate_of_locate tree path place located plain, stands]

/-- Opening a file that is found as it is gives its handle. -/
theorem openExisting_of_find (place : Place) (serial : Nat) (contents : Bytes)
    (found : tree.find path = .ok (place, .file serial contents)) :
    tree.openExisting path = .ok ⟨place, serial⟩ := by
  rw [openExisting, found]
  rfl

/-- A file that was opened for writing is found by its path. -/
theorem find_of_openOrCreate (opened : FileTree) (handle : FileHandle)
    (made : tree.openOrCreate path = .ok (opened, handle)) :
    ∃ contents, opened.find path = .ok (handle.place, .file handle.serial contents) := by
  obtain ⟨located, plain, accepted, existing | ⟨vacant, serial, rfl⟩⟩ :=
    openOrCreate_ok tree opened path handle made
  · obtain ⟨old, stands, rfl⟩ := existing
    exact ⟨old, (find_eq_file _ _ _ _ _).mpr ⟨located, plain, stands⟩⟩
  · have stands (other : Place) := node?_putFile tree handle.place other [] accepted
    have kept : KeepsDirectories tree (tree.putFile handle.place []) := by
      intro other housed
      have different : handle.place ≠ other := by
        rintro rfl
        simp [vacant] at housed
      rw [stands, if_neg different, housed]
    refine ⟨[], (find_eq_file _ _ _ _ _).mpr ⟨?_, plain, ?_⟩⟩
    · exact locate_of_keeps tree _ kept (current_put _ _ _) path handle.place located
    · rw [stands, if_pos rfl, serial]

/-- A file whose contents are replaced through its handle is found by the same path, as the same
file. -/
theorem find_setContents (handle : FileHandle) (old contents : Bytes)
    (found : tree.find path = .ok (handle.place, .file handle.serial old)) :
    (tree.setContents handle contents).find path =
      .ok (handle.place, .file handle.serial contents) := by
  obtain ⟨located, plain, stands⟩ := (find_eq_file _ _ _ _ _).mp found
  have replaced := replaces_of_setContents tree handle old contents stands
  refine (find_eq_file _ _ _ _ _).mpr ⟨replaced.locate path handle.place located, plain, ?_⟩
  rw [setContents_named tree handle old contents stands,
    node?_put _ _ _ _ (accepts_of_file stands), if_pos rfl]

end FileTree

end DeviceParameters
