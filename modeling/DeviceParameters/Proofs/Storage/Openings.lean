import DeviceParameters.Proofs.Bytes.Patches
import DeviceParameters.Proofs.Host.Making
import DeviceParameters.Proofs.Storage.Images

/-!
# What opening an image does to the tree

Opening an image makes the directories above it where they are missing, then the file, and then
moves the end of the file back. Whether it ends well or stops on the way, it has put directories
where nothing stood, and at most one file: at the place to which the path leads after that, where
the same file stood before or nothing did.

The old bytes of an image are those of the file at that place. Mostly the path has led there from
the start. A path that goes up again from a directory that is missing, as `new/../image` does, leads
nowhere until the directory is made; the file to which it leads then is opened with all it holds.
-/

namespace DeviceParameters

namespace FileTree

/-- The bytes of the file at a place, none where no file stands. -/
def bytesAt (tree : FileTree) (place : Place) : Bytes :=
  ((tree.node? place).bind Node.contents?).getD []

theorem bytesAt_of_file (tree : FileTree) (place : Place) (serial : Nat) (contents : Bytes)
    (stands : tree.node? place = some (.file serial contents)) : tree.bytesAt place = contents := by
  rw [bytesAt, stands]
  rfl

theorem bytesAt_of_vacant (tree : FileTree) (place : Place) (vacant : tree.node? place = none) :
    tree.bytesAt place = [] := by
  rw [bytesAt, vacant]
  rfl

/-- The second tree is the first with directories where nothing stood, and with a file at one place,
where the same file stood or nothing did. -/
structure GainsFile (before after : FileTree) (place : Place) (serial : Nat) (contents : Bytes) :
    Prop where
  current : after.current = before.current
  there : after.node? place = some (.file serial contents)
  old : ∀ node, before.node? place = some node → ∃ bytes, node = .file serial bytes
  elsewhere : ∀ other, other ≠ place → after.node? other = before.node? other ∨
    before.node? other = none ∧ after.node? other = some .directory

/-- A file that was opened for writing, after directories were made, holds what it held. -/
theorem gainsFile_of_openOrCreate (tree housed opened : FileTree) (path : Path) (handle : FileHandle)
    (gains : GainsDirectories tree housed fun _ => True)
    (made : housed.openOrCreate path = .ok (opened, handle)) :
    GainsFile tree opened handle.place handle.serial (tree.bytesAt handle.place) := by
  have directories (other : Place) : housed.node? other = tree.node? other ∨
      tree.node? other = none ∧ housed.node? other = some .directory :=
    (gains.each other).imp_right fun ⟨vacant, there, _⟩ => ⟨vacant, there⟩
  obtain ⟨_, _, accepted, existing | ⟨vacant, serial, rfl⟩⟩ :=
    openOrCreate_ok housed opened path handle made
  · obtain ⟨old, stands, rfl⟩ := existing
    have before := (gains.file_iff _ _ _).mp stands
    rw [bytesAt_of_file tree _ _ old before]
    refine ⟨gains.current, stands, fun node same => ⟨old, ?_⟩, fun other _ => directories other⟩
    exact Option.some.inj (same.symm.trans before)
  · have found (other : Place) := node?_putFile housed handle.place other [] accepted
    have before : tree.node? handle.place = none := by
      rcases directories handle.place with same | ⟨before, _⟩
      · rw [← same, vacant]
      · exact before
    rw [bytesAt_of_vacant tree _ before]
    refine ⟨(current_put _ _ _).trans gains.current, ?_, fun node stands => ?_,
      fun other different => ?_⟩
    · rw [found, if_pos rfl, serial]
    · rw [before] at stands
      cases stands
    · rw [found, if_neg different.symm]
      exact directories other

/-- Replacing the contents of the file does nothing more. -/
theorem GainsFile.setContents {before after : FileTree} {handle : FileHandle} {old : Bytes}
    (gains : GainsFile before after handle.place handle.serial old) (contents : Bytes) :
    GainsFile before (after.setContents handle contents) handle.place handle.serial contents := by
  have replaced := replaces_of_setContents after handle old contents gains.there
  refine ⟨replaced.current.trans gains.current, ?_, gains.old, fun other different => ?_⟩
  · rw [setContents_named after handle old contents gains.there,
      node?_put _ _ _ _ (accepts_of_file gains.there), if_pos rfl]
  · rw [replaced.elsewhere other different]
    exact gains.elsewhere other different

/-- What stood at another place still stands there. -/
theorem GainsFile.kept {before after : FileTree} {place : Place} {serial : Nat} {contents : Bytes}
    (gains : GainsFile before after place serial contents) (other : Place) (node : Node)
    (different : other ≠ place) (stands : before.node? other = some node) :
    after.node? other = some node := by
  rcases gains.elsewhere other different with same | ⟨vacant, _⟩
  · rw [same, stands]
  · rw [vacant] at stands
    cases stands

/-- Where nothing stood at another place, at most a directory does. -/
theorem GainsFile.made {before after : FileTree} {place : Place} {serial : Nat} {contents : Bytes}
    (gains : GainsFile before after place serial contents) (other : Place) (different : other ≠ place)
    (vacant : before.node? other = none) :
    after.node? other = none ∨ after.node? other = some .directory := by
  rcases gains.elsewhere other different with same | ⟨_, made⟩
  · exact Or.inl (same.trans vacant)
  · exact Or.inr made

/-- A gained file takes no directory away. -/
theorem GainsFile.keepsDirectories {before after : FileTree} {place : Place} {serial : Nat}
    {contents : Bytes} (gains : GainsFile before after place serial contents) :
    KeepsDirectories before after := by
  intro other housed
  by_cases here : other = place
  · obtain ⟨_, file⟩ := gains.old .directory (here ▸ housed)
    cases file
  · exact gains.kept other .directory here housed

/-- A path that finds a file leads to it in every tree that keeps the directories, and so the file
that it finds there is the one at the same place. -/
theorem place_of_find (before after : FileTree) (path : Path) (kept : KeepsDirectories before after)
    (current : after.current = before.current) (place other : Place) (serial number : Nat)
    (contents bytes : Bytes) (first : before.find path = .ok (place, .file serial contents))
    (second : after.find path = .ok (other, .file number bytes)) : place = other := by
  obtain ⟨located, _⟩ := (find_eq_file _ _ _ _ _).mp first
  obtain ⟨again, _⟩ := (find_eq_file _ _ _ _ _).mp second
  exact Except.ok.inj ((locate_of_keeps before after kept current path place located).symm.trans again)

end FileTree

namespace ImageNvm

open FileTree

variable (tree reached : FileTree) (path : Path) (size : Nat)

/-- Making the directories above an image does nothing else. -/
theorem gains_house : GainsDirectories tree (house tree path).1 fun _ => True := by
  rw [house]
  cases path.parent? with
  | none => exact .refl tree
  | some parent => exact gains_makeDirectoryAll _ tree parent fun _ _ _ _ _ _ => trivial

/-- Opening stops at the directories or at the file, or it has the file and moves its end, unless
the host does not take the length. -/
theorem openSized_cases (result : Except StorageError ImageNvm)
    (opened : openSized tree path size = (reached, result)) :
    (∃ cause, result = .error cause) ∧ (GainsDirectories tree reached fun _ => True) ∨
    ∃ handle contents, reached.find path = .ok (handle.place, .file handle.serial contents) ∧
      GainsFile tree reached handle.place handle.serial contents ∧
      let old := tree.bytesAt handle.place
      (result = .error (.io .lengthTooLarge) ∧ contents = old ∨
        result = .ok ⟨path, handle, max old.length size⟩ ∧
          contents = old.resize (max old.length size)) := by
  have gains := gains_house tree path
  rw [openSized] at opened
  cases above : house tree path with
  | mk housed done =>
  rw [above] at opened gains
  cases done with
  | error cause =>
    obtain ⟨rfl, rfl⟩ := Prod.mk.inj opened
    exact Or.inl ⟨⟨_, rfl⟩, gains⟩
  | ok done =>
    cases made : housed.openOrCreate path with
    | error cause =>
      simp only [made] at opened
      obtain ⟨rfl, rfl⟩ := Prod.mk.inj opened
      exact Or.inl ⟨⟨_, rfl⟩, gains⟩
    | ok file =>
      obtain ⟨standing, handle⟩ := file
      have gained := gainsFile_of_openOrCreate tree housed standing path handle gains made
      obtain ⟨contents, found⟩ := find_of_openOrCreate housed path standing handle made
      obtain ⟨_, _, stands⟩ := (find_eq_file _ _ _ _ _).mp found
      obtain ⟨-, rfl⟩ := Node.file.inj (Option.some.inj (stands.symm.trans gained.there))
      have held := contents_of_find standing path handle _ found
      simp only [made, held] at opened
      refine Or.inr ⟨handle, ?_⟩
      split at opened
      · rename_i enough
        obtain ⟨rfl, rfl⟩ := Prod.mk.inj opened
        refine ⟨_, found, gained, Or.inr ?_⟩
        rw [Nat.max_eq_left enough, Bytes.resize_of_le _ _ (Nat.le_refl _), Nat.sub_self]
        exact ⟨rfl, (List.append_nil _).symm⟩
      split at opened
      · obtain ⟨rfl, rfl⟩ := Prod.mk.inj opened
        exact ⟨_, found, gained, Or.inl ⟨rfl, rfl⟩⟩
      · rename_i short _
        obtain ⟨rfl, rfl⟩ := Prod.mk.inj opened
        refine ⟨_, find_setContents standing path handle _ _ found, gained.setContents _, Or.inr ?_⟩
        rw [Nat.max_eq_right (Nat.le_of_not_le short)]
        exact ⟨rfl, rfl⟩

/-- Where the path leads to a file or to nothing, and the image need not be made longer, opening gives
a device. How long the host lets a file become is its own affair. -/
theorem openSized_ok_of_locate (place : Place) (located : tree.locate path = .ok place)
    (plain : path.endsInSeparator = false) (free : tree.node? place ≠ some .directory)
    (enough : size ≤ (tree.bytesAt place).length) :
    ∃ nvm, (openSized tree path size).2 = .ok nvm := by
  obtain ⟨opened, handle, made⟩ :=
    openOrCreate_ok_of_locate tree path place located plain free
  have gained := gainsFile_of_openOrCreate tree tree opened path handle (.refl tree) made
  obtain ⟨again, _⟩ := openOrCreate_ok tree opened path handle made
  obtain rfl := Except.ok.inj (located.symm.trans again)
  have held : opened.contents handle = tree.bytesAt handle.place := by
    rw [FileTree.contents, gained.there]
    exact if_pos rfl
  rw [openSized, house_of_locate tree path _ located]
  simp only [made, held, if_pos enough]
  exact ⟨_, rfl⟩

/-- An opening that ended well: the device is as large as the longer of the image and the size that
was asked for, the image holds its old bytes with zeros behind them up to that, and everything else
that stood somewhere still does. Where the path found a file before, that is the image. Where it
found none, there was none, unless the path goes up and led nowhere. Opening again with no more
bytes than the device has does nothing and gives the same device. -/
structure Opened (before after : FileTree) (path : Path) (size : Nat) (nvm : ImageNvm) : Prop where
  current : after.current = before.current
  named : nvm.path = path
  size : nvm.size = max (before.bytesAt nvm.handle.place).length size
  image : after.readFile path = .ok (before.bytesAt nvm.handle.place ++
    Bytes.zeros (nvm.size - (before.bytesAt nvm.handle.place).length))
  others : ∀ place node, place ≠ nvm.handle.place → before.node? place = some node →
    after.node? place = some node
  made : ∀ place, place ≠ nvm.handle.place → before.node? place = none →
    after.node? place = none ∨ after.node? place = some .directory
  known : ∀ place serial contents, before.find path = .ok (place, .file serial contents) →
    nvm.handle = ⟨place, serial⟩
  missing : Path.above ∉ path.names ∨ (∃ place, before.locate path = .ok place) →
    (∀ place serial contents, before.find path ≠ .ok (place, .file serial contents)) →
    before.node? nvm.handle.place = none
  again : ∀ smaller, smaller ≤ nvm.size → openSized after path smaller = (after, .ok nvm)

/-- An opening that failed: everything that stood somewhere still does, and what is new is a
directory or the empty image. -/
structure Unopened (before after : FileTree) (path : Path) : Prop where
  current : after.current = before.current
  others : ∀ place node, before.node? place = some node → after.node? place = some node
  made : ∀ place, before.node? place = none →
    after.node? place = none ∨ after.node? place = some .directory ∨
      ∃ serial, after.find path = .ok (place, .file serial [])

/-- A file at the place to which the path leads after the opening has been found before it, unless
the path goes up and led nowhere. -/
theorem find_of_led (place : Place) (serial : Nat) (contents old : Bytes)
    (kept : KeepsDirectories tree reached) (current : reached.current = tree.current)
    (led : Path.above ∉ path.names ∨ ∃ place, tree.locate path = .ok place)
    (found : reached.find path = .ok (place, .file serial contents))
    (stands : tree.node? place = some (.file serial old)) :
    tree.find path = .ok (place, .file serial old) := by
  obtain ⟨located, plain, file⟩ := (find_eq_file _ _ _ _ _).mp found
  suffices before : tree.locate path = .ok place from
    (find_eq_file _ _ _ _ _).mpr ⟨before, plain, stands⟩
  rcases led with straight | ⟨other, before⟩
  · have free : reached.node? place ≠ some .directory := by simp [file]
    exact locate_of_straight path straight tree reached place _ current located stands
      (absurd · free)
  · have after := locate_of_keeps tree reached kept current path other before
    obtain rfl := Except.ok.inj (after.symm.trans located)
    exact before

/-- An opening that gives a device has ended well. -/
theorem opened_of_openSized (nvm : ImageNvm)
    (opened : openSized tree path size = (reached, .ok nvm)) :
    Opened tree reached path size nvm := by
  obtain ⟨⟨_, failed⟩, _⟩ | ⟨handle, contents, found, gains, ⟨failed, _⟩ | ⟨same, rfl⟩⟩ :=
    openSized_cases tree reached path size _ opened
  · cases failed
  · cases failed
  obtain ⟨standing, named, _⟩ := stands_of_openSized tree path reached size nvm opened
  obtain rfl := Except.ok.inj same
  refine ⟨gains.current, rfl, rfl, ?_, gains.kept, gains.made,
    fun place serial bytes before => ?_, fun led nowhere => ?_,
    fun smaller fewer => standing.openSized smaller fewer⟩
  · rw [← Bytes.resize_of_le _ _ (Nat.le_max_left _ _)]
    exact (readFile_eq_ok _ _ _).mpr ⟨_, _, found⟩
  · have here := place_of_find tree reached path gains.keepsDirectories gains.current _ _ _ _ _ _
      before found
    obtain ⟨_, _, stands⟩ := (find_eq_file _ _ _ _ _).mp before
    rw [here] at stands ⊢
    obtain ⟨old, file⟩ := gains.old _ stands
    rw [(Node.file.inj file).1]
  · by_contra there
    obtain ⟨node, stands⟩ := Option.ne_none_iff_exists'.mp there
    obtain ⟨old, rfl⟩ := gains.old node stands
    exact nowhere _ _ _ (find_of_led tree reached path _ _ _ old gains.keepsDirectories
      gains.current led found stands)

/-- An opening that gives none has failed without harm. -/
theorem unopened_of_openSized (cause : StorageError)
    (refused : openSized tree path size = (reached, .error cause)) :
    Unopened tree reached path := by
  obtain ⟨_, gains⟩ | ⟨handle, contents, found, gains, ⟨_, rfl⟩ | ⟨failed, _⟩⟩ :=
    openSized_cases tree reached path size _ refused
  · exact ⟨gains.current, gains.kept, fun place vacant => (gains.made place vacant).imp_right Or.inl⟩
  · refine ⟨gains.current, fun place node stands => ?_, fun place vacant => ?_⟩
    · by_cases here : place = handle.place
      · subst here
        obtain ⟨old, rfl⟩ := gains.old node stands
        rw [gains.there, bytesAt_of_file tree _ _ old stands]
      · exact gains.kept place node here stands
    · by_cases here : place = handle.place
      · subst here
        rw [bytesAt_of_vacant tree _ vacant] at found
        exact Or.inr (Or.inr ⟨_, found⟩)
      · exact (gains.made place here vacant).imp_right Or.inl
  · cases failed

end ImageNvm

end DeviceParameters
