import DeviceParameters.File.Store
import DeviceParameters.Proofs.Host.Joining
import DeviceParameters.Proofs.Host.Writing
import DeviceParameters.Proofs.Text.SingleBytes

/-!
# The places of keys

An accepted key has one entry of its own directly in the root: its file name is a plain name,
whatever characters the key is made of, and two keys have two file names. Setting a key changes
that entry or nothing, and reading it looks at that entry alone. A path that is too long as a
whole is refused for setting and for reading alike.
-/

namespace DeviceParameters

namespace FileName

/-- The bytes behind the key in a file name. -/
def endingBytes : Bytes := Utf8.encode ending

/-- The name on the host that belongs to a key. -/
def entryOf (key : String) : Name := Utf8.bytes key ++ endingBytes

/-- Two keys have two entries. -/
theorem entryOf_injective (left right : String) (same : entryOf left = entryOf right) :
    left = right :=
  Utf8.bytes_injective _ _ (List.append_cancel_right same)

/-- The file name of an accepted key is the key with the ending behind it. -/
theorem ofKey_eq_ok (key name : String) :
    ofKey key = .ok name ↔ fault? key = none ∧ name = String.ofList (key.toList ++ ending) := by
  rw [ofKey]
  cases fault? key with
  | none => simp [eq_comm]
  | some fault => simp

/-- An accepted key is not empty, not too long, and has no separator. -/
theorem fault?_eq_none (key : String) :
    fault? key = none ↔ key.toList ≠ [] ∧ Utf8.size key ≤ maximumKey ∧
      ∀ char ∈ key.toList, isSeparator char = false := by
  rw [fault?]
  split
  · rename_i empty
    simp [empty]
  split
  · rename_i something long
    simp [Nat.not_le_of_lt long]
  split
  · rename_i something short divided
    simp only [reduceCtorEq, false_iff, not_and]
    intro _ _ undivided
    obtain ⟨char, member, separates⟩ := List.any_eq_true.mp divided
    simp [undivided char member] at separates
  · rename_i something short undivided
    simp only [true_iff]
    refine ⟨something, Nat.le_of_not_lt short, ?_⟩
    intro char member
    apply Bool.eq_false_iff.mpr
    intro separates
    exact undivided (List.any_eq_true.mpr ⟨char, member, separates⟩)

/-- The bytes of a file name are those of the key and the ending. -/
theorem bytes_of_ofKey (key name : String) (accepted : ofKey key = .ok name) :
    Utf8.bytes name = Utf8.bytes key ++ endingBytes := by
  obtain ⟨_, rfl⟩ := (ofKey_eq_ok _ _).mp accepted
  rw [Utf8.bytes_ofList, Utf8.encode_append]
  rfl

/-- Two keys have two file names. -/
theorem ofKey_injective (left right name : String) (first : ofKey left = .ok name)
    (second : ofKey right = .ok name) : left = right := by
  apply entryOf_injective
  rw [entryOf, entryOf, ← bytes_of_ofKey left name first, ← bytes_of_ofKey right name second]

/-- A separator that is one byte and not in the ending is in no file name, since the key of a
file name has none. -/
theorem not_mem_bytes (key name : String) (accepted : ofKey key = .ok name) (byte : UInt8)
    (small : byte.toNat < 0x80) (separates : isSeparator (Char.ofNat byte.toNat) = true)
    (absent : byte ∉ endingBytes) : byte ∉ Utf8.bytes name := by
  obtain ⟨admitted, _⟩ := (ofKey_eq_ok _ _).mp accepted
  obtain ⟨_, _, undivided⟩ := (fault?_eq_none key).mp admitted
  rw [bytes_of_ofKey key name accepted, List.mem_append, not_or]
  refine ⟨?_, absent⟩
  intro member
  obtain ⟨char, inKey, same⟩ := (Utf8.mem_encode_iff key.toList byte small).mp member
  have clear := undivided char inKey
  rw [← Char.ofNat_toNat char, same, separates] at clear
  exact Bool.noConfusion clear

/-- The file name of an accepted key is a plain name. -/
theorem isEntryName_of_ofKey (key name : String) (accepted : ofKey key = .ok name) :
    Path.IsEntryName (Utf8.bytes name) := by
  obtain ⟨admitted, _⟩ := (ofKey_eq_ok _ _).mp accepted
  obtain ⟨something, short, _⟩ := (fault?_eq_none key).mp admitted
  have long : 0 < (Utf8.bytes key).length := by
    apply List.length_pos_iff.mpr
    intro empty
    have same : key = String.ofList [] :=
      Utf8.bytes_injective _ _ (empty.trans (Utf8.bytes_ofList []).symm)
    exact something (by rw [same]; simp)
  have length : (Utf8.bytes name).length = (Utf8.bytes key).length + 4 := by
    rw [bytes_of_ofKey key name accepted, List.length_append]
    rfl
  have bounded : (Utf8.bytes key).length ≤ 26 := short
  refine ⟨?_, ?_, ?_, ?_, ?_, ?_⟩
  · apply List.length_pos_iff.mp
    omega
  · exact not_mem_bytes key name accepted Path.separator (by decide) (by decide) (by decide)
  · exact not_mem_bytes key name accepted 0 (by decide) (by decide) (by decide)
  · intro same
    rw [same, Path.here, List.length_singleton] at length
    omega
  · intro same
    rw [same, Path.above, List.length_cons, List.length_singleton] at length
    omega
  · rw [FileTree.maximumName]
    omega

end FileName

namespace Volume

/-- The root of a volume is found as the directory at a place. -/
def RootAt (tree : FileTree) (volume : Volume) (place : Place) : Prop :=
  tree.find volume.root = .ok (place, .directory)

/-- The path of a file is too long to be walked. -/
def IsTooLong (volume : Volume) (name : String) : Prop :=
  FileTree.pathLimit ≤ (volume.pathFor name).bytes.length

instance (volume : Volume) (name : String) : Decidable (volume.IsTooLong name) :=
  inferInstanceAs (Decidable (FileTree.pathLimit ≤ (volume.pathFor name).bytes.length))

variable (tree : FileTree) (volume : Volume) (place : Place) (name : String)

/-- The path of a plainly named file leads to its entry in the root, unless it is too long. -/
theorem locate_pathFor (root : volume.RootAt tree place)
    (entry : Path.IsEntryName (Utf8.bytes name)) :
    tree.locate (volume.pathFor name) =
      if volume.IsTooLong name then .error .nameTooLong else .ok (place ++ [Utf8.bytes name]) :=
  FileTree.locate_join tree volume.root place (Utf8.bytes name) root entry

theorem locate_of_tooLong (root : volume.RootAt tree place)
    (entry : Path.IsEntryName (Utf8.bytes name)) (long : volume.IsTooLong name) :
    tree.locate (volume.pathFor name) = .error .nameTooLong :=
  (locate_pathFor tree volume place name root entry).trans (if_pos long)

theorem locate_of_short (root : volume.RootAt tree place)
    (entry : Path.IsEntryName (Utf8.bytes name)) (short : ¬ volume.IsTooLong name) :
    tree.locate (volume.pathFor name) = .ok (place ++ [Utf8.bytes name]) :=
  (locate_pathFor tree volume place name root entry).trans (if_neg short)

/-- The path of a plainly named file does not ask for a directory. -/
theorem endsInSeparator_pathFor (root : volume.RootAt tree place)
    (entry : Path.IsEntryName (Utf8.bytes name)) :
    (volume.pathFor name).endsInSeparator = false := by
  exact Path.endsInSeparator_join volume.root (Utf8.bytes name)
    (FileTree.bytes_ne_nil_of_directory tree volume.root place root) entry

/-- Reading a plainly named file looks at its entry in the root and at nothing else. -/
theorem read_eq (root : volume.RootAt tree place) (entry : Path.IsEntryName (Utf8.bytes name)) :
    volume.read tree name =
      if volume.IsTooLong name then .error (.io .nameTooLong)
      else match tree.node? (place ++ [Utf8.bytes name]) with
        | none => .ok none
        | some .directory => .error (.io .isDirectory)
        | some (.file _ contents) => .ok (some contents) := by
  split
  · rename_i long
    rw [read, FileTree.readFile_of_locate_error tree _ _
      (locate_of_tooLong tree volume place name root entry long)]
  · rename_i short
    rw [read, FileTree.readFile_of_locate tree _ _
      (locate_of_short tree volume place name root entry short)
      (endsInSeparator_pathFor tree volume place name root entry)]
    cases tree.node? (place ++ [Utf8.bytes name]) with
    | none => rfl
    | some node =>
      cases node with
      | directory => rfl
      | file serial contents => rfl

/-- The files are known only where the root is a directory. -/
theorem rootAt_of_files (entries : List (Name × Bytes)) (listed : volume.files tree = .ok entries) :
    ∃ place, volume.RootAt tree place := by
  rw [files] at listed
  cases listing : tree.listDirectory volume.root with
  | error cause => simp [listing] at listed
  | ok children =>
    obtain ⟨⟨place, node⟩, found, inside⟩ := (bind_eq_ok _ _ _).mp listing
    cases node with
    | file serial contents => simp at inside
    | directory => exact ⟨place, found⟩

/-- A write that succeeds was made on a root that is a directory, and replaces the file to
which its path leads. -/
theorem replaces_of_write (after : FileTree) (contents : Bytes)
    (written : volume.write tree name contents = .ok after) :
    (∃ place, volume.RootAt tree place) ∧
      ∃ place, tree.locate (volume.pathFor name) = .ok place ∧
        (volume.pathFor name).endsInSeparator = false ∧
        FileTree.Replaces tree after place contents := by
  obtain ⟨existing, _, measured⟩ := (bind_eq_ok _ _ _).mp written
  obtain ⟨used, known, checked⟩ := (bind_eq_ok _ _ _).mp measured
  obtain ⟨entries, listed, _⟩ := (bind_eq_ok _ _ _).mp known
  refine ⟨rootAt_of_files tree volume entries listed, ?_⟩
  dsimp only at checked
  split at checked
  · simp at checked
  cases stored : tree.writeFile (volume.pathFor name) contents with
  | error cause => simp [stored] at checked
  | ok reached =>
    simp only [stored, Except.ok.injEq] at checked
    subst checked
    exact FileTree.replaces_of_writeFile tree reached _ contents stored

/-- What was written is what is read. -/
theorem read_of_write (after : FileTree) (contents : Bytes)
    (written : volume.write tree name contents = .ok after) :
    volume.read after name = .ok (some contents) := by
  obtain ⟨_, place, located, separated, replaced⟩ :=
    replaces_of_write tree volume name after contents written
  rw [read, FileTree.readFile_of_replaces tree after _ place contents located separated replaced]

/-- A write leaves the root where it is. -/
theorem rootAt_of_replaces (after : FileTree) (entry : Place) (contents : Bytes)
    (root : volume.RootAt tree place) (replaced : FileTree.Replaces tree after entry contents) :
    volume.RootAt after place := by
  obtain ⟨located, housed⟩ := (FileTree.find_eq_directory _ _ _).mp root
  exact (FileTree.find_eq_directory _ _ _).mpr
    ⟨replaced.locate volume.root place located, replaced.keepsDirectories place housed⟩

end Volume

namespace FileStore

/-- A read of a key whose path is too long is refused for that. -/
theorem result_get_of_tooLong (tree : FileTree) (volume : Volume) (place : Place)
    (key name : String) (root : volume.RootAt tree place) (named : FileName.ofKey key = .ok name)
    (long : volume.IsTooLong name) :
    (get tree ⟨some volume⟩ key).result = .error (.storage (.io .nameTooLong)) := by
  have entry := FileName.isEntryName_of_ofKey key name named
  simp only [get, named, Volume.read_eq tree volume place name root entry, if_pos long]

end FileStore

end DeviceParameters
