import DeviceParameters.Proofs.File.Keys

/-!
# Keys and their file names

The file name of a key is the key with the ending behind it, and a key has one unless it is empty,
too long, or has a character that divides names. Such a file name is one plain component of a path,
whatever else the key is made of: full stops only, an ending of its own, or characters of several
bytes. So its path is that of the root and one name more.

Reading a file name takes the ending off once and looks at what is left as at any key. Writing and
reading are inverse to each other, in both directions: a file name that is read as a key is the file
name of that key, and no two keys share one.
-/

namespace DeviceParameters

namespace Path

/-- A path leads to an entry directly in a directory, as it is written: it has the names of the
directory and one more, starts where the directory does, and does not ask for a directory itself. -/
structure HasChild (directory child : Path) (name : Name) : Prop where
  names : child.names = directory.names ++ [name]
  start : child.isAbsolute = directory.isAbsolute
  plain : child.endsInSeparator = false

/-- A plain name that is joined to a directory is a child of it, also where the directory is
written with nothing. -/
theorem hasChild_join (directory : Path) (name : Name) (entry : IsEntryName name) :
    directory.HasChild (directory.join ⟨name⟩) name := by
  by_cases nothing : directory = ⟨[]⟩
  · obtain ⟨relative, plain⟩ := relative_of_undivided name entry.undivided
    have alone : directory.join ⟨name⟩ = ⟨name⟩ := by
      rw [nothing, join, if_neg (Bool.eq_false_iff.mp relative), if_pos (Or.inl rfl)]
      rfl
    rw [alone, nothing]
    refine ⟨?_, relative, plain⟩
    simp [names, pieces_of_undivided name entry.undivided, pieces, entry.something]
  · have something : directory.bytes ≠ [] := fun empty => nothing (congrArg Path.mk empty)
    exact ⟨names_join directory name something entry, isAbsolute_join directory name something entry,
      endsInSeparator_join directory name something entry⟩

end Path

namespace FileName

/-- A text has none of the characters that divide names. -/
def Undivided (text : String) : Prop :=
  '/' ∉ text.toList ∧ '\\' ∉ text.toList ∧ '\x00' ∉ text.toList

/-- A text is one ordinary component of a path. -/
structure IsComponent (name : String) : Prop where
  single : Path.pieces (Utf8.bytes name) = [Utf8.bytes name]
  undivided : Undivided name
  notHere : name ≠ "."
  notAbove : name ≠ ".."
  short : Utf8.size name ≤ 30

/-- A text is undivided exactly if none of its characters is a separator. -/
theorem undivided_iff (text : String) :
    Undivided text ↔ ∀ char ∈ text.toList, isSeparator char = false := by
  constructor
  · rintro ⟨slash, backslash, zero⟩ char member
    apply Bool.eq_false_iff.mpr
    intro separates
    simp only [isSeparator, Bool.or_eq_true, decide_eq_true_eq] at separates
    rcases separates with (rfl | rfl) | rfl
    · exact slash member
    · exact backslash member
    · exact zero member
  · intro clear
    refine ⟨?_, ?_, ?_⟩ <;> intro member <;> exact absurd (clear _ member) (by decide)

/-- A key has a file name exactly if it is not empty, not too long and undivided. -/
theorem exists_ofKey_iff (key : String) :
    (∃ name, ofKey key = .ok name) ↔
      key ≠ "" ∧ Utf8.size key ≤ maximumKey ∧ Undivided key := by
  have something : key.toList ≠ [] ↔ key ≠ "" := not_congr String.toList_eq_nil_iff
  simp only [ofKey_eq_ok, exists_and_left, exists_eq, and_true, fault?_eq_none, undivided_iff,
    something]

/-- The file name of a key is the key with the ending behind it. -/
theorem eq_append_of_ofKey (key name : String) (accepted : ofKey key = .ok name) :
    name = key ++ ".par" := by
  obtain ⟨_, rfl⟩ := (ofKey_eq_ok _ _).mp accepted
  apply String.toList_inj.mp
  rw [String.toList_ofList, String.toList_append]
  rfl

/-- The file name of a key is one ordinary component, for the key is undivided, and so is the
ending, which makes it longer than any component that moves. -/
theorem isComponent_of_ofKey (key name : String) (accepted : ofKey key = .ok name) :
    IsComponent name := by
  have entry := isEntryName_of_ofKey key name accepted
  obtain ⟨_, short, undivided⟩ := (exists_ofKey_iff key).mp ⟨name, accepted⟩
  refine ⟨Path.pieces_of_undivided _ entry.undivided, ?_, ?_, ?_, ?_⟩
  · rw [undivided_iff, eq_append_of_ofKey key name accepted, String.toList_append]
    intro char member
    have ending : ".par".toList.all (!isSeparator ·) = true := by decide
    rcases List.mem_append.mp member with inKey | inEnding
    · exact (undivided_iff key).mp undivided char inKey
    · simpa using List.all_eq_true.mp ending char inEnding
  · rintro rfl
    exact entry.notHere rfl
  · rintro rfl
    exact entry.notAbove rfl
  · rw [Utf8.size, bytes_of_ofKey key name accepted, List.length_append]
    exact Nat.add_le_add_right short 4

/-- Keys and file names are encoded in each other. A key has a file name exactly if it is not empty,
not longer than a file name allows, and free of slashes, backslashes and zero characters. The file
name is then one ordinary component and belongs to no other key. Its path is a child of the root as
it is written, and wherever the root is found, it leads to the entry of that name in it, unless it
is too long as a whole. Reading a file name gives exactly the key that has it. Components and paths
are those of a POSIX host without links. -/
theorem keys_and_names_are_inverse (key name : String) :
    ((∃ given, ofKey key = .ok given) ↔
      key ≠ "" ∧ Utf8.size key ≤ maximumKey ∧ Undivided key) ∧
    (ofKey key = .ok name →
      name = key ++ ".par" ∧ IsComponent name ∧ (∀ other, ofKey other = .ok name → other = key) ∧
      ∀ volume : Volume,
        volume.root.HasChild (volume.pathFor name) (Utf8.bytes name) ∧
        ∀ (tree : FileTree) (place : Place), volume.RootAt tree place →
          tree.locate (volume.pathFor name) =
            if volume.IsTooLong name then .error .nameTooLong
            else .ok (place ++ [Utf8.bytes name])) ∧
    (ofKey key = .ok name → key? name = some key) ∧
    (key? name = some key → ofKey key = .ok name) := by
  refine ⟨exists_ofKey_iff key, ?_, (key?_eq_some_iff name key).mpr, (key?_eq_some_iff name key).mp⟩
  intro named
  have entry := isEntryName_of_ofKey key name named
  refine ⟨eq_append_of_ofKey key name named, isComponent_of_ofKey key name named, ?_, ?_⟩
  · intro other otherNamed
    exact ofKey_injective other key name otherNamed named
  · intro volume
    refine ⟨Path.hasChild_join volume.root (Utf8.bytes name) entry, ?_⟩
    intro tree place root
    exact Volume.locate_pathFor tree volume place name root entry

/-- A key that would lead out of the root by itself: with the ending it is a name like any other, and
is read back as that key. -/
theorem keys_and_names_are_inverse_for_full_stops :
    let tree := FileTree.fresh (Utf8.bytes "flash")
    let volume : Volume := ⟨.ofText "/flash", 4096⟩
    ofKey ".." = .ok "...par" ∧ IsComponent "...par" ∧
      volume.RootAt tree [Utf8.bytes "flash"] ∧
      tree.locate (volume.pathFor "...par") = .ok [Utf8.bytes "flash", Utf8.bytes "...par"] ∧
      key? "...par" = some ".." := by
  intro tree volume
  have named : ofKey ".." = .ok "...par" := by decide +kernel
  have root : volume.RootAt tree [Utf8.bytes "flash"] := by decide +kernel
  have short : ¬ volume.IsTooLong "...par" := by decide +kernel
  obtain ⟨_, written, read, again⟩ := keys_and_names_are_inverse ".." "...par"
  obtain ⟨_, component, _, child⟩ := written named
  have leads := (child volume).2 tree _ root
  rw [if_neg short] at leads
  exact ⟨again (read named), component, root, leads, read named⟩

end FileName

end DeviceParameters
