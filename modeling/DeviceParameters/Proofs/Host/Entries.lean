import DeviceParameters.Proofs.Host.Handles

/-!
# The files of a directory

What a listing shows of the files directly in a directory, as a finite map from names to
contents, and what becomes of it when one of them is written. A name occurs once, so the order of
the map says nothing: everything is stated up to permutation, against the files beside one name,
which a write of that name leaves alone. The space in use and the names in use follow, each as a
part for the one name and a part for the others.

An entry can be opened for writing wherever no directory stands in its place, and the path is
not too long as a whole.
-/

namespace DeviceParameters.FileTree

variable (tree : FileTree) (place : Place)

/-- The files directly in a directory, with their contents. -/
def filesIn : List (Name × Bytes) :=
  (tree.children place).filterMap fun entry =>
    entry.2.contents?.map fun contents => (entry.1, contents)

/-- The files directly in a directory that have another name. -/
def filesBeside (name : Name) : List (Name × Bytes) :=
  (tree.filesIn place).filter fun file => file.1 ≠ name

/-- The names of the files directly in a directory. -/
def fileNames : List Name := (tree.filesIn place).map Prod.fst

/-- The bytes in files together. -/
def totalLength (files : List (Name × Bytes)) : Nat :=
  files.foldr (fun file used => file.2.length + used) 0

/-- The space that the files directly in a directory take up. -/
def occupied : Nat := totalLength (tree.filesIn place)

/-- The length of the file at a place, where one stands. -/
def fileLength : Nat :=
  match tree.node? place with
  | some (.file _ contents) => contents.length
  | _ => 0

/-- A file stands at a place. -/
def IsFile : Prop := ∃ serial contents, tree.node? place = some (.file serial contents)

/-- A listing is of what stands in the directory to which the path leads. -/
theorem listDirectory_eq_ok (path : Path) (listed : List (Name × Node)) :
    tree.listDirectory path = .ok listed ↔
      ∃ place, tree.find path = .ok (place, .directory) ∧ tree.children place = listed := by
  rw [listDirectory]
  cases found : tree.find path with
  | error cause => simp [bind, Except.bind]
  | ok entry =>
    obtain ⟨place, node⟩ := entry
    cases node with
    | directory => simp [bind, Except.bind]
    | file serial contents => simp [bind, Except.bind]

/-- Where every key stands once, what is shown of some entries stands once under each of its own
keys, if these tell the keys that the entries had. -/
theorem distinct_of_shown {Key Value Shown Part : Type} (entries : List (Key × Value))
    (show? : Key × Value → Option (Shown × Part)) (keyOf : Shown → Key)
    (distinct : (entries.map Prod.fst).Nodup)
    (tells : ∀ entry shown, show? entry = some shown → entry.1 = keyOf shown.1) :
    ((entries.filterMap show?).map Prod.fst).Nodup := by
  have apart : entries.Pairwise fun left right => left.1 ≠ right.1 := List.pairwise_map.mp distinct
  apply List.pairwise_map.mpr
  apply apart.filterMap
  intro left right different first firstShown second secondShown same
  apply different
  rw [tells left first firstShown, tells right second secondShown, same]

/-- What stands in a directory is listed once under its name. -/
theorem children_distinct : ((tree.children place).map Prod.fst).Nodup := by
  apply distinct_of_shown tree.nodes _ (fun name => place ++ [name]) tree.distinct
  intro entry shown listed
  split at listed
  · rename_i name last
    split at listed
    · rename_i housed
      obtain rfl := Option.some.inj listed
      obtain ⟨front, whole⟩ := List.getLast?_eq_some_iff.mp last
      rw [whole, List.dropLast_concat] at housed
      rw [whole, housed]
    · cases listed
  · cases listed

/-- The files of a directory are what is found in it. -/
theorem mem_filesIn (name : Name) (contents : Bytes) :
    (name, contents) ∈ tree.filesIn place ↔
      ∃ serial, tree.node? (place ++ [name]) = some (.file serial contents) := by
  simp only [filesIn, List.mem_filterMap]
  constructor
  · rintro ⟨⟨other, node⟩, listed, shown⟩
    cases node with
    | directory => simp [Node.contents?] at shown
    | file serial old =>
      obtain ⟨rfl, rfl⟩ : other = name ∧ old = contents := by simpa [Node.contents?] using shown
      exact ⟨serial, (tree.mem_children place other _).mp listed⟩
  · rintro ⟨serial, stands⟩
    exact ⟨(name, .file serial contents), (tree.mem_children place name _).mpr stands, rfl⟩

/-- A file is listed once. -/
theorem fileNames_distinct : (tree.fileNames place).Nodup := by
  apply distinct_of_shown (tree.children place) _ id (tree.children_distinct place)
  intro entry shown listed
  obtain ⟨contents, _, rfl⟩ := Option.map_eq_some_iff.mp listed
  rfl

theorem filesIn_distinct : (tree.filesIn place).Nodup := by
  have distinct := List.pairwise_map.mp (tree.fileNames_distinct place)
  exact distinct.imp fun different same => different (congrArg Prod.fst same)

theorem filesBeside_distinct (name : Name) : (tree.filesBeside place name).Nodup :=
  (tree.filesIn_distinct place).filter _

theorem mem_filesBeside (name other : Name) (contents : Bytes) :
    (other, contents) ∈ tree.filesBeside place name ↔
      (other, contents) ∈ tree.filesIn place ∧ other ≠ name := by
  simp [filesBeside]

/-- A name is in use exactly where a file stands. -/
theorem mem_fileNames (name : Name) :
    name ∈ tree.fileNames place ↔ tree.IsFile (place ++ [name]) := by
  simp only [fileNames, List.mem_map]
  constructor
  · rintro ⟨⟨other, contents⟩, listed, rfl⟩
    obtain ⟨serial, stands⟩ := (tree.mem_filesIn place other contents).mp listed
    exact ⟨serial, contents, stands⟩
  · rintro ⟨serial, contents, stands⟩
    exact ⟨(name, contents), (tree.mem_filesIn place name contents).mpr ⟨serial, stands⟩, rfl⟩

/-- Where a file stands, the files are that one and those beside it. -/
theorem filesIn_of_file (name : Name) (serial : Nat) (contents : Bytes)
    (stands : tree.node? (place ++ [name]) = some (.file serial contents)) :
    (tree.filesIn place).Perm ((name, contents) :: tree.filesBeside place name) := by
  have alone : (name, contents) ∉ tree.filesBeside place name := by
    rw [mem_filesBeside]
    exact fun both => both.2 rfl
  apply (List.perm_ext_iff_of_nodup (tree.filesIn_distinct place)
    (List.nodup_cons.mpr ⟨alone, tree.filesBeside_distinct place name⟩)).mpr
  rintro ⟨other, listed⟩
  rw [List.mem_cons, mem_filesBeside, Prod.mk.injEq]
  constructor
  · intro member
    by_cases same : other = name
    · subst same
      obtain ⟨_, found⟩ := (tree.mem_filesIn place other listed).mp member
      rw [stands] at found
      exact Or.inl ⟨rfl, (Node.file.inj (Option.some.inj found)).2.symm⟩
    · exact Or.inr ⟨member, same⟩
  · rintro (⟨rfl, rfl⟩ | ⟨member, _⟩)
    · exact (tree.mem_filesIn place other listed).mpr ⟨serial, stands⟩
    · exact member

/-- Where no file stands, all files are beside the name. -/
theorem filesBeside_of_not_isFile (name : Name) (vacant : ¬ tree.IsFile (place ++ [name])) :
    tree.filesBeside place name = tree.filesIn place := by
  apply List.filter_eq_self.mpr
  rintro ⟨other, contents⟩ listed
  have different : other ≠ name := by
    rintro rfl
    obtain ⟨serial, stands⟩ := (tree.mem_filesIn place other contents).mp listed
    exact vacant ⟨serial, contents, stands⟩
  simpa using different

theorem totalLength_of_perm {left right : List (Name × Bytes)} (same : left.Perm right) :
    totalLength left = totalLength right := by
  induction same with
  | nil => rfl
  | cons file _ inductionHypothesis => exact congrArg (file.2.length + ·) inductionHypothesis
  | swap first second rest => exact Nat.add_left_comm _ _ _
  | trans _ _ before after => exact before.trans after

/-- Files of bounded length take up no more than that for each of them. -/
theorem totalLength_le (files : List (Name × Bytes)) (most : Nat)
    (short : ∀ file ∈ files, file.2.length ≤ most) : totalLength files ≤ files.length * most := by
  induction files with
  | nil => exact Nat.zero_le _
  | cons file rest inductionHypothesis =>
    have first := short file List.mem_cons_self
    have others :=
      inductionHypothesis fun other member => short other (List.mem_cons_of_mem _ member)
    rw [List.length_cons, Nat.succ_mul, totalLength, List.foldr_cons, ← totalLength]
    omega

/-- Where no file stands, no space is taken up. -/
theorem fileLength_of_not_isFile (vacant : ¬ tree.IsFile place) : tree.fileLength place = 0 := by
  rw [fileLength]
  split
  · rename_i serial contents stands
    exact absurd ⟨serial, contents, stands⟩ vacant
  · rfl

/-- The space in use is that of one file and that of the files beside it. -/
theorem occupied_eq (name : Name) :
    tree.occupied place =
      tree.fileLength (place ++ [name]) + totalLength (tree.filesBeside place name) := by
  by_cases file : tree.IsFile (place ++ [name])
  · obtain ⟨serial, contents, stands⟩ := file
    rw [fileLength, stands]
    exact totalLength_of_perm (tree.filesIn_of_file place name serial contents stands)
  · rw [fileLength_of_not_isFile tree _ file, filesBeside_of_not_isFile tree place name file,
      Nat.zero_add, occupied]

section Replacing

variable {before after : FileTree} {place : Place} {name : Name} {contents : Bytes}
  (replaced : Replaces before after (place ++ [name]) contents)

include replaced

/-- A write leaves the files beside it. -/
theorem Replaces.filesBeside :
    (after.filesBeside place name).Perm (before.filesBeside place name) := by
  apply (List.perm_ext_iff_of_nodup (after.filesBeside_distinct place name)
    (before.filesBeside_distinct place name)).mpr
  rintro ⟨other, listed⟩
  simp only [mem_filesBeside, mem_filesIn]
  refine and_congr_left fun different => ?_
  rw [replaced.elsewhere (place ++ [other]) (by simpa using different)]

/-- After a write the files are the one that was written and those that were beside it. -/
theorem Replaces.filesIn :
    (after.filesIn place).Perm ((name, contents) :: before.filesBeside place name) := by
  obtain ⟨serial, stands⟩ := replaced.there
  exact (after.filesIn_of_file place name serial contents stands).trans
    (replaced.filesBeside.cons (name, contents))

/-- A write gives back the space of the old file and takes that of the new one. -/
theorem Replaces.occupied :
    after.occupied place =
      before.occupied place - before.fileLength (place ++ [name]) + contents.length := by
  have parts := before.occupied_eq place name
  have whole : after.occupied place =
      contents.length + totalLength (before.filesBeside place name) :=
    totalLength_of_perm replaced.filesIn
  omega

/-- A write over a file leaves the names in use. -/
theorem Replaces.fileNames_of_isFile (there : before.IsFile (place ++ [name])) :
    (after.fileNames place).Perm (before.fileNames place) := by
  obtain ⟨serial, old, stands⟩ := there
  exact (replaced.filesIn.map Prod.fst).trans
    ((before.filesIn_of_file place name serial old stands).map Prod.fst).symm

/-- A write where no file stood takes one more name into use. -/
theorem Replaces.fileNames_of_not_isFile (vacant : ¬ before.IsFile (place ++ [name])) :
    (after.fileNames place).Perm (name :: before.fileNames place) := by
  have names := replaced.filesIn.map Prod.fst
  rw [before.filesBeside_of_not_isFile place name vacant] at names
  exact names

end Replacing

/-- Opening an entry of a directory for writing: a directory in its place refuses, a file is
opened, and nothing is made a file. -/
theorem openOrCreate_join (directory : Path) (name : Name)
    (found : tree.find directory = .ok (place, .directory)) (entry : Path.IsEntryName name)
    (short : ¬ pathLimit ≤ (directory.join ⟨name⟩).bytes.length) :
    tree.openOrCreate (directory.join ⟨name⟩) =
      match tree.node? (place ++ [name]) with
      | some .directory => .error .isDirectory
      | some (.file serial _) => .ok (tree, ⟨place ++ [name], serial⟩)
      | none => .ok (tree.putFile (place ++ [name]) [], ⟨place ++ [name], tree.nextSerial⟩) := by
  have something := bytes_ne_nil_of_directory tree directory place found
  exact openOrCreate_of_locate tree _ _
    (locate_join_of_short tree directory place name found entry short)
    (Path.endsInSeparator_join directory name something entry)

/-- A file is written wherever the path leads to a place where no directory stands and does not ask
for one. -/
theorem writeFile_of_locate (path : Path) (contents : Bytes) (located : tree.locate path = .ok place)
    (plain : path.endsInSeparator = false) (free : tree.node? place ≠ some .directory) :
    ∃ after, tree.writeFile path contents = .ok after := by
  obtain ⟨opened, handle, made⟩ :=
    openOrCreate_ok_of_locate tree path place located plain free
  rw [writeFile, made]
  exact ⟨_, rfl⟩

/-- An entry of a directory is written wherever no directory stands in its place. -/
theorem writeFile_join_ok (directory : Path) (name : Name) (contents : Bytes)
    (found : tree.find directory = .ok (place, .directory)) (entry : Path.IsEntryName name)
    (short : ¬ pathLimit ≤ (directory.join ⟨name⟩).bytes.length)
    (free : tree.node? (place ++ [name]) ≠ some .directory) :
    ∃ after, tree.writeFile (directory.join ⟨name⟩) contents = .ok after := by
  have something := bytes_ne_nil_of_directory tree directory place found
  exact writeFile_of_locate tree _ _ contents
    (locate_join_of_short tree directory place name found entry short)
    (Path.endsInSeparator_join directory name something entry) free

end DeviceParameters.FileTree
