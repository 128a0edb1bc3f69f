import DeviceParameters.Proofs.File.Confinement

/-!
# A write of a volume is all or nothing

A write asks the host several times: for the length of what it would replace, for the files of the
root, and then for the file itself, which is made or cut to nothing. Each of these can fail. The
file is cut only when everything else has been asked, so up to there a failure leaves the tree as it
was; the bytes come last.

`writeSteps` is the write in these steps, with the tree that each of them leaves. What the host does
with the bytes is left open: it can take all of them or stop after some. Where it takes all of them,
the steps come to what `Volume.write` says in one: an error and the old tree, or a new one. Where it
stops, the file that was there before is lost, so this much has to be assumed of the host.
-/

namespace DeviceParameters

namespace Nodes

/-- What is put twice at a place is there as it was put last. -/
theorem put_put (place : Place) (first second : Node) (nodes : Nodes) :
    (nodes.put place first).put place second = nodes.put place second := by
  induction nodes with
  | nil => simp [put]
  | cons entry rest inductionHypothesis =>
    obtain ⟨other, old⟩ := entry
    by_cases same : other = place
    · simp [put, same]
    · simp [put, same, inductionHypothesis]

end Nodes

namespace FileTree

/-- Make a file, or cut the one that stands to nothing, and leave it open. -/
def createFile (tree : FileTree) (path : Path) : Except HostError (FileTree × FileHandle) := do
  let opened ← tree.openOrCreate path
  .ok (opened.1.setContents opened.2 [], opened.2)

/-- Contents that replace those of a named file are there in the stead of any that were put in
between. -/
theorem setContents_setContents (tree : FileTree) (handle : FileHandle) (old first second : Bytes)
    (stands : tree.node? handle.place = some (.file handle.serial old)) :
    (tree.setContents handle first).setContents handle second = tree.setContents handle second := by
  have accepted := accepts_of_file stands
  have between : (tree.put handle.place (.file handle.serial first)).node? handle.place =
      some (.file handle.serial first) := by
    rw [node?_put _ _ _ _ accepted, if_pos rfl]
  rw [setContents_named tree handle old first stands, setContents_named _ handle first second between,
    setContents_named tree handle old second stands]
  have again := accepts_of_file between
  rw [put, dif_pos again]
  unfold put
  simp only [accepted, dite_true, Nodes.put_put]

/-- What creating a file has done: an empty one stands where the path leads, and writing to it comes
to writing by the path. -/
theorem createFile_ok (tree created : FileTree) (path : Path) (handle : FileHandle)
    (made : tree.createFile path = .ok (created, handle)) :
    tree.locate path = .ok handle.place ∧ path.endsInSeparator = false ∧
      created.node? handle.place = some (.file handle.serial []) ∧
      ∀ contents, tree.writeFile path contents = .ok (created.setContents handle contents) := by
  obtain ⟨⟨opened, same⟩, opening, ending⟩ := (bind_eq_ok _ _ _).mp made
  obtain ⟨rfl, rfl⟩ := Prod.mk.inj (Except.ok.inj ending)
  obtain ⟨located, plain, _, _⟩ := openOrCreate_ok tree opened path same opening
  obtain ⟨old, found⟩ := find_of_openOrCreate tree path opened same opening
  obtain ⟨_, _, stands⟩ := (find_eq_file _ _ _ _ _).mp found
  obtain ⟨_, _, cut⟩ := (find_eq_file _ _ _ _ _).mp (find_setContents opened path same old [] found)
  refine ⟨located, plain, cut, fun contents => ?_⟩
  rw [writeFile, opening, setContents_setContents opened same old [] contents stands]
  rfl

/-- A file that cannot be created is not written. -/
theorem writeFile_of_createFile_error (tree : FileTree) (path : Path) (contents : Bytes)
    (cause : HostError) (refused : tree.createFile path = .error cause) :
    tree.writeFile path contents = .error cause := by
  rw [createFile] at refused
  rw [writeFile]
  cases opening : tree.openOrCreate path with
  | ok opened =>
    rw [opening] at refused
    cases refused
  | error other =>
    rw [opening] at refused
    obtain rfl := Except.error.inj refused
    rfl

/-- A put leaves the files whose names are gone. -/
theorem detached_put (tree : FileTree) (place : Place) (node : Node) :
    (tree.put place node).detached = tree.detached := by
  rw [put]
  split
  · rfl
  · rfl

/-- A write by a path leaves the files whose names are gone. -/
theorem detached_of_writeFile (tree after : FileTree) (path : Path) (contents : Bytes)
    (written : tree.writeFile path contents = .ok after) : after.detached = tree.detached := by
  obtain ⟨⟨opened, handle⟩, opening, ending⟩ := (bind_eq_ok _ _ _).mp written
  obtain rfl := Except.ok.inj ending
  obtain ⟨old, found⟩ := find_of_openOrCreate tree path opened handle opening
  obtain ⟨_, _, stands⟩ := (find_eq_file _ _ _ _ _).mp found
  rw [setContents_named opened handle old contents stands, detached_put]
  obtain ⟨_, _, _, existing | ⟨_, _, rfl⟩⟩ := openOrCreate_ok tree opened path handle opening
  · obtain ⟨_, _, rfl⟩ := existing
    rfl
  · exact detached_put tree handle.place _

end FileTree

namespace Volume

/-- What the host does with the bytes that are written to a file once it is open. -/
inductive Delivery where
  /-- It takes all of them. -/
  | whole
  /-- It stops after some of them. -/
  | cut (taken : Nat) (cause : HostError)
  deriving DecidableEq

/-- Write to an open file. -/
def Delivery.into (created : FileTree) (handle : FileHandle) (contents : Bytes) :
    Delivery → FileTree × Except StorageError Unit
  | .whole => (created.setContents handle contents, .ok ())
  | .cut taken cause => (created.setContents handle (contents.take taken), .error (.io cause))

/-- Create or truncate a file and write its contents, if they fit, step by step. -/
def writeSteps (tree : FileTree) (volume : Volume) (name : String) (contents : Bytes)
    (delivery : Delivery) : FileTree × Except StorageError Unit :=
  let path := volume.pathFor name
  match replacedLength tree path with
  | .error cause => (tree, .error cause)
  | .ok existing =>
    match volume.usedBytes tree with
    | .error cause => (tree, .error cause)
    | .ok used =>
      let available := volume.capacity - (used - existing)
      if available < contents.length then (tree, .error (.noSpace contents.length available))
      else match tree.createFile path with
        | .error cause => (tree, .error (.io cause))
        | .ok (created, handle) => delivery.into created handle contents

variable (tree : FileTree) (volume : Volume) (name : String) (contents : Bytes)

/-- The steps stop with the tree as it was, for the cause for which the write is refused, or they
come to the file, where only the delivery is left. -/
theorem writeSteps_cases (delivery : Delivery) :
    (∃ cause, volume.writeSteps tree name contents delivery = (tree, .error cause) ∧
      volume.write tree name contents = .error cause) ∨
    ∃ created handle, tree.createFile (volume.pathFor name) = .ok (created, handle) ∧
      volume.writeSteps tree name contents delivery = delivery.into created handle contents ∧
      volume.write tree name contents = .ok (created.setContents handle contents) := by
  rw [writeSteps, write]
  cases measured : replacedLength tree (volume.pathFor name) with
  | error cause => exact Or.inl ⟨cause, rfl, rfl⟩
  | ok existing =>
    cases known : volume.usedBytes tree with
    | error cause => exact Or.inl ⟨cause, rfl, rfl⟩
    | ok used =>
      simp only [bind, Except.bind]
      by_cases full : volume.capacity - (used - existing) < contents.length
      · rw [if_pos full, if_pos full]
        exact Or.inl ⟨_, rfl, rfl⟩
      · rw [if_neg full, if_neg full]
        cases made : tree.createFile (volume.pathFor name) with
        | error cause =>
          rw [FileTree.writeFile_of_createFile_error tree _ contents cause made]
          exact Or.inl ⟨_, rfl, rfl⟩
        | ok opened =>
          obtain ⟨created, handle⟩ := opened
          obtain ⟨_, _, _, written⟩ := FileTree.createFile_ok tree created _ handle made
          rw [written contents]
          exact Or.inr ⟨created, handle, rfl, rfl, rfl⟩

/-- Where the host takes all the bytes, the steps come to what the write is in one. -/
theorem writeSteps_whole :
    volume.writeSteps tree name contents .whole =
      ((volume.write tree name contents).toOption.getD tree,
        (volume.write tree name contents).map fun _ => ()) := by
  obtain ⟨cause, stopped, refused⟩ | ⟨created, handle, _, stepped, written⟩ :=
    writeSteps_cases tree volume name contents .whole
  · rw [stopped, refused]
    rfl
  · rw [stepped, written]
    rfl

/-- A write that succeeds has written the file by its path. -/
theorem writeFile_of_write (after : FileTree) (written : volume.write tree name contents = .ok after) :
    tree.writeFile (volume.pathFor name) contents = .ok after := by
  obtain ⟨existing, _, measured⟩ := (bind_eq_ok _ _ _).mp written
  obtain ⟨used, _, checked⟩ := (bind_eq_ok _ _ _).mp measured
  dsimp only at checked
  split at checked
  · cases checked
  cases stored : tree.writeFile (volume.pathFor name) contents with
  | error cause =>
    rw [stored] at checked
    cases checked
  | ok reached =>
    simp only [stored, Except.ok.injEq] at checked
    rw [checked]

/-- A file can be written: the root is a directory, the path leads to a place where none stands and
does not ask for one, and there is room for the contents once what stands there is taken as gone.
The path need not lead into the root. -/
def Admits (length : Nat) : Prop :=
  ∃ root place, volume.RootAt tree root ∧ tree.locate (volume.pathFor name) = .ok place ∧
    (volume.pathFor name).endsInSeparator = false ∧ tree.node? place ≠ some .directory ∧
    length ≤ volume.capacity - (tree.occupied root - tree.fileLength place)

/-- Where a word can hold what is in use, a write succeeds exactly if the file can be written. -/
theorem write_ok_iff_admits
    (small : ∀ root, volume.RootAt tree root → tree.occupied root < wordLimit) :
    (∃ after, volume.write tree name contents = .ok after) ↔
      volume.Admits tree name contents.length := by
  constructor
  · rintro ⟨after, written⟩
    obtain ⟨⟨root, rooted⟩, place, located, plain, replaced⟩ :=
      replaces_of_write tree volume name after contents written
    refine ⟨root, place, rooted, located, plain, replaced.free, ?_⟩
    rw [write, replacedLength_of_locate tree place _ located plain replaced.free,
      usedBytes_of_lt tree volume root rooted (small root rooted)] at written
    simp only [bind, Except.bind] at written
    by_contra full
    rw [if_pos (Nat.lt_of_not_le full)] at written
    cases written
  · rintro ⟨root, place, rooted, located, plain, free, room⟩
    obtain ⟨after, stored⟩ :=
      FileTree.writeFile_of_locate tree place (volume.pathFor name) contents located plain free
    refine ⟨after, ?_⟩
    rw [write, replacedLength_of_locate tree place _ located plain free,
      usedBytes_of_lt tree volume root rooted (small root rooted)]
    simp only [bind, Except.bind]
    rw [if_neg (Nat.not_lt_of_le room), stored]

/-- Where the host stops taking the bytes of what could have been written, the write fails with the
host's cause, and the file holds what was taken; the contents that it had before are lost. -/
theorem writeSteps_of_cut (after : FileTree) (taken : Nat) (cause : HostError)
    (written : volume.write tree name contents = .ok after) :
    let attempt := volume.writeSteps tree name contents (.cut taken cause)
    attempt.2 = .error (.io cause) ∧
      volume.read attempt.1 name = .ok (some (contents.take taken)) := by
  obtain ⟨other, _, refused⟩ | ⟨created, handle, made, stepped, _⟩ :=
    writeSteps_cases tree volume name contents (.cut taken cause)
  · rw [refused] at written
    cases written
  intro attempt
  have ended : attempt = (created.setContents handle (contents.take taken), .error (.io cause)) :=
    stepped
  obtain ⟨_, _, _, stored⟩ := FileTree.createFile_ok tree created _ handle made
  obtain ⟨place, located, plain, replaced⟩ :=
    FileTree.replaces_of_writeFile tree _ _ _ (stored (contents.take taken))
  rw [ended]
  refine ⟨rfl, ?_⟩
  rw [read, FileTree.readFile_of_replaces tree _ _ place _ located plain replaced]

/-- A write of a volume is all or nothing, for every tree, root, capacity and contents and for every
name, whatever path it makes, if the host takes all the bytes once the file is open. Where it
fails, nothing in the tree has changed. Where it succeeds, reading the name gives the contents, the
file at the one place to which the path leads is new or replaced, and everything else is as it was,
open files without a name too. Where a word can hold what is in use, it succeeds exactly if the path
can name a file and there is room. The tree is one of directories and regular files; a device or a
pipe could take the bytes and keep none.

Proof: the steps stop before the file is touched, or they come to the file. There only the delivery
is left, which does not fail, and the bytes that are put into the file after it was cut are there as
if its contents had been replaced at once. So the steps come to the write, and a write that succeeds
replaces the one place to which its path leads. -/
theorem write_is_all_or_nothing (delivery : Delivery) (whole : delivery = .whole) :
    let attempt := volume.writeSteps tree name contents delivery
    (∀ cause, attempt.2 = .error cause →
      attempt.1 = tree ∧ volume.write tree name contents = .error cause) ∧
    (attempt.2 = .ok () →
      volume.write tree name contents = .ok attempt.1 ∧
      volume.read attempt.1 name = .ok (some contents) ∧
      attempt.1.detached = tree.detached ∧
      ∃ place, tree.locate (volume.pathFor name) = .ok place ∧
        tree.Replaces attempt.1 place contents) ∧
    ((∀ root, volume.RootAt tree root → tree.occupied root < wordLimit) →
      (attempt.2 = .ok () ↔ volume.Admits tree name contents.length)) := by
  subst whole
  intro attempt
  have ended : attempt = _ := writeSteps_whole tree volume name contents
  have admitted := write_ok_iff_admits tree volume name contents
  rw [ended]
  cases written : volume.write tree name contents with
  | error cause =>
    refine ⟨fun other same => ⟨rfl, ?_⟩, fun done => ?_, fun small => ?_⟩
    · rw [Except.error.inj same]
    · cases done
    · rw [← admitted small, written]
      constructor
      · intro done
        cases done
      · rintro ⟨after, done⟩
        cases done
  | ok after =>
    obtain ⟨_, place, located, _, replaced⟩ :=
      replaces_of_write tree volume name after contents written
    have stored := writeFile_of_write tree volume name contents after written
    refine ⟨fun cause failed => ?_, fun _ => ⟨rfl, ?_, ?_, place, located, replaced⟩,
      fun small => ?_⟩
    · cases failed
    · exact read_of_write tree volume name after contents written
    · exact FileTree.detached_of_writeFile tree after _ contents stored
    · constructor
      · intro _
        exact (admitted small).mp ⟨after, written⟩
      · intro _
        rfl

/-- A volume of eight bytes with a file of six, and a file beside the root. New contents of four
bytes are written, since the old ones are taken as gone; nine bytes are too many, an empty name is
the root itself, and a directory that is missing is not passed over. A name can lead to the file
beside the root, which is then replaced, while the one in the root is kept. -/
theorem write_is_all_or_nothing_beside_root :
    let root : Place := [Utf8.bytes "flash"]
    let inside := root ++ [Utf8.bytes "a"]
    let tree := ((FileTree.fresh (Utf8.bytes "flash")).putFile inside [1, 2, 3, 4, 5, 6]).putFile
      [Utf8.bytes "b"] [7]
    let volume : Volume := ⟨.ofText "/flash", 8⟩
    let attempt (name : String) (contents : Bytes) := volume.writeSteps tree name contents .whole
    volume.read (attempt "a" [9, 9, 9, 9]).1 "a" = .ok (some [9, 9, 9, 9]) ∧
      (attempt "a" [1, 2, 3, 4, 5, 6, 7, 8, 9]).1 = tree ∧
      (attempt "" [9]).1 = tree ∧ (attempt "none/../a" [9]).1 = tree ∧
      (attempt "../b" [8]).1.shownAt inside = some (some [1, 2, 3, 4, 5, 6]) := by
  intro root inside tree volume attempt
  have laws (name : String) (contents : Bytes) :=
    write_is_all_or_nothing tree volume name contents .whole rfl
  have fits : (attempt "a" [9, 9, 9, 9]).2 = .ok () := by decide +kernel
  have full : (attempt "a" [1, 2, 3, 4, 5, 6, 7, 8, 9]).2 = .error (.noSpace 9 8) := by decide +kernel
  have nameless : (attempt "" [9]).2 = .error (.io .isDirectory) := by decide +kernel
  have missing : (attempt "none/../a" [9]).2 = .error (.io .notFound) := by decide +kernel
  have outside : (attempt "../b" [8]).2 = .ok () := by decide +kernel
  have led : tree.locate (volume.pathFor "../b") = .ok [Utf8.bytes "b"] := by decide +kernel
  have apart : inside ≠ [Utf8.bytes "b"] := by decide +kernel
  have old : tree.shownAt inside = some (some [1, 2, 3, 4, 5, 6]) := by decide +kernel
  refine ⟨((laws _ _).2.1 fits).2.1, ((laws _ _).1 _ full).1, ((laws _ _).1 _ nameless).1,
    ((laws _ _).1 _ missing).1, ?_⟩
  obtain ⟨_, _, _, place, located, replaced⟩ := (laws _ _).2.1 outside
  obtain rfl := Except.ok.inj (led.symm.trans located)
  rw [← old, FileTree.shownAt, FileTree.shownAt, replaced.elsewhere inside apart]

end Volume

end DeviceParameters
