import DeviceParameters.Host.Files
import DeviceParameters.Proofs.Host.Walks

/-!
# Writing a file

A file that is written stands, with its whole contents and nothing of the old ones, at the one
place to which its path leads, and every other place of the tree is as it was. `Replaces` says
so; a write that succeeds gives it. Nothing is said about a write that is refused, since it
gives no tree.

Reading by a path looks at that one place too, so what was written is what is read.
-/

namespace DeviceParameters.FileTree

/-- The second tree has a file with the given contents at one place, where no directory stood,
and is the first tree everywhere else. -/
structure Replaces (before after : FileTree) (place : Place) (contents : Bytes) : Prop where
  current : after.current = before.current
  free : before.node? place ≠ some .directory
  there : ∃ serial, after.node? place = some (.file serial contents)
  elsewhere : ∀ other, other ≠ place → after.node? other = before.node? other

/-- A directory is empty exactly where nothing stands one step below it. -/
theorem children_eq_nil_iff (tree : FileTree) (place : Place) :
    tree.children place = [] ↔ ∀ name, tree.node? (place ++ [name]) = none := by
  rw [List.eq_nil_iff_forall_not_mem]
  constructor
  · intro empty name
    cases stands : tree.node? (place ++ [name]) with
    | none => rfl
    | some node => exact absurd ((tree.mem_children place name node).mpr stands) (empty _)
  · rintro vacant ⟨name, node⟩ listed
    have stands := (tree.mem_children place name node).mp listed
    rw [vacant name] at stands
    cases stands

/-- Everything but the top stands in a directory. -/
theorem parent_of_stands (tree : FileTree) (place : Place) (node : Node) (below : place ≠ [])
    (stands : tree.node? place = some node) : tree.node? place.dropLast = some .directory := by
  have member : (place, node) ∈ tree.nodes :=
    Nodes.mem_of_find? (by simpa [node?, below] using stands)
  by_cases top : place.dropLast = []
  · simp [node?, top]
  · rcases (tree.rooted _ member).2 with atTop | holder
    · exact absurd atTop top
    · simpa [node?, top] using Nodes.find?_of_mem tree.distinct holder

/-- Every directory stands in a directory, the top in itself. -/
theorem parent_of_directory (tree : FileTree) (place : Place)
    (stands : tree.node? place = some .directory) : tree.node? place.dropLast = some .directory := by
  by_cases top : place = []
  · simp [node?, top]
  · exact parent_of_stands tree place .directory top stands

/-- A step from a directory to anything but a directory goes down by its name. -/
theorem step_below (tree : FileTree) (parent place : Place) (name : Name)
    (housed : tree.node? parent = some .directory) (stepped : step parent name = .ok place)
    (free : tree.node? place ≠ some .directory) : place = parent ++ [name] := by
  rw [step] at stepped
  split at stepped
  · obtain rfl := Except.ok.inj stepped
    exact absurd housed free
  split at stepped
  · obtain rfl := Except.ok.inj stepped
    exact absurd (parent_of_directory tree parent housed) free
  split at stepped
  · simp at stepped
  · exact (Except.ok.inj stepped).symm

/-- What opening a file for writing has done: the handle is of the file to which the path
leads, which was there, or is new where nothing was. -/
theorem openOrCreate_ok (tree opened : FileTree) (path : Path) (handle : FileHandle)
    (made : tree.openOrCreate path = .ok (opened, handle)) :
    tree.locate path = .ok handle.place ∧ path.endsInSeparator = false ∧
      tree.Accepts handle.place ∧
      ((∃ old, tree.node? handle.place = some (.file handle.serial old) ∧ opened = tree) ∨
        (tree.node? handle.place = none ∧ handle.serial = tree.nextSerial ∧
          opened = tree.putFile handle.place [])) := by
  rw [openOrCreate] at made
  obtain ⟨_, checked, named⟩ := (bind_eq_ok _ _ _).mp made
  split at named
  · simp at named
  rename_i name last
  obtain ⟨parent, parentLocated, opening⟩ := (bind_eq_ok _ _ _).mp named
  split at opening
  · simp at opening
  rename_i plain
  obtain ⟨place, stepped, standing⟩ := (bind_eq_ok _ _ _).mp opening
  obtain ⟨located, housed⟩ :=
    locate_of_locateParent tree path parent place name checked last parentLocated stepped
  have separated : path.endsInSeparator = false := Bool.eq_false_iff.mpr plain
  split at standing
  · simp at standing
  · rename_i serial old stands
    obtain ⟨rfl, rfl⟩ := Prod.mk.inj (Except.ok.inj standing)
    exact ⟨located, separated, accepts_of_file stands, Or.inl ⟨old, stands, rfl⟩⟩
  · rename_i vacant
    obtain ⟨rfl, rfl⟩ := Prod.mk.inj (Except.ok.inj standing)
    have below : place = parent ++ [name] :=
      step_below tree parent place name housed stepped (by simp [vacant])
    have accepted : tree.Accepts place := by
      refine ⟨by simp [below], ?_, by simp [vacant]⟩
      rw [below, List.dropLast_concat]
      exact housed
    exact ⟨located, separated, accepted, Or.inr ⟨vacant, rfl, rfl⟩⟩

/-- A put leaves the current directory. -/
theorem current_put (tree : FileTree) (place : Place) (node : Node) :
    (tree.put place node).current = tree.current := by
  rw [put]
  split
  · rfl
  · rfl

/-- Contents behind a handle whose file has its name are put under that name. -/
theorem setContents_named (tree : FileTree) (handle : FileHandle) (old contents : Bytes)
    (stands : tree.node? handle.place = some (.file handle.serial old)) :
    tree.setContents handle contents = tree.put handle.place (.file handle.serial contents) := by
  simp [setContents, stands]

/-- Replacing the contents of a file that has its name replaces that file. -/
theorem replaces_of_setContents (tree : FileTree) (handle : FileHandle) (old contents : Bytes)
    (stands : tree.node? handle.place = some (.file handle.serial old)) :
    Replaces tree (tree.setContents handle contents) handle.place contents := by
  have found (other : Place) := node?_put tree handle.place other (.file handle.serial contents)
    (accepts_of_file stands)
  rw [setContents_named tree handle old contents stands]
  refine ⟨current_put _ _ _, by simp [stands], ⟨handle.serial, ?_⟩, ?_⟩
  · rw [found, if_pos rfl]
  · intro other different
    rw [found, if_neg different.symm]

/-- A new file stands at its place, and everything else is as before. -/
theorem node?_putFile (tree : FileTree) (place other : Place) (contents : Bytes)
    (accepted : tree.Accepts place) :
    (tree.putFile place contents).node? other =
      if place = other then some (.file tree.nextSerial contents) else tree.node? other :=
  node?_put tree place other (.file tree.nextSerial contents) accepted

/-- A write that succeeds replaces the file to which its path leads.

Proof: opening has left a file under the handle, new or old; either way the contents are put at
the place of the handle. A new file adds only its own place before that. -/
theorem replaces_of_writeFile (tree after : FileTree) (path : Path) (contents : Bytes)
    (written : tree.writeFile path contents = .ok after) :
    ∃ place, tree.locate path = .ok place ∧ path.endsInSeparator = false ∧
      Replaces tree after place contents := by
  obtain ⟨⟨opened, handle⟩, made, ending⟩ := (bind_eq_ok _ _ _).mp written
  obtain rfl := Except.ok.inj ending
  obtain ⟨located, separated, accepted, existing | ⟨vacant, serial, rfl⟩⟩ :=
    openOrCreate_ok tree opened path handle made
  · obtain ⟨old, stands, rfl⟩ := existing
    exact ⟨handle.place, located, separated, replaces_of_setContents _ _ old contents stands⟩
  · have found (other : Place) := node?_putFile tree handle.place other [] accepted
    have stands : (tree.putFile handle.place []).node? handle.place = some (.file handle.serial []) := by
      rw [found, if_pos rfl, serial]
    have replaced := replaces_of_setContents _ _ [] contents stands
    refine ⟨handle.place, located, separated, replaced.current.trans (current_put _ _ _),
      by simp [vacant], replaced.there, ?_⟩
    intro other different
    rw [replaced.elsewhere other different, found, if_neg different.symm]

/-- Replacing a file takes no directory away. -/
theorem Replaces.keepsDirectories {before after : FileTree} {place : Place} {contents : Bytes}
    (replaced : Replaces before after place contents) : KeepsDirectories before after := by
  intro other stands
  have different : other ≠ place := by
    rintro rfl
    exact replaced.free stands
  rw [replaced.elsewhere other different, stands]

/-- Every path that led somewhere leads to the same place after a file was replaced. -/
theorem Replaces.locate {before after : FileTree} {place : Place} {contents : Bytes}
    (replaced : Replaces before after place contents) (path : Path) (reached : Place)
    (located : before.locate path = .ok reached) : after.locate path = .ok reached :=
  locate_of_keeps before after replaced.keepsDirectories replaced.current path reached located

/-- Reading by a path that leads to a place looks at that place. -/
theorem readFile_of_locate (tree : FileTree) (path : Path) (place : Place)
    (located : tree.locate path = .ok place) (separated : path.endsInSeparator = false) :
    tree.readFile path = match tree.node? place with
      | none => .error .notFound
      | some .directory => .error .isDirectory
      | some (.file _ contents) => .ok contents := by
  rw [readFile, find_of_locate tree path place located, separated]
  cases tree.node? place with
  | none => rfl
  | some node =>
    cases node with
    | directory => rfl
    | file serial contents => rfl

/-- Reading by a path that leads nowhere fails for the same cause. -/
theorem readFile_of_locate_error (tree : FileTree) (path : Path) (cause : HostError)
    (lost : tree.locate path = .error cause) : tree.readFile path = .error cause := by
  rw [readFile, find_of_locate_error tree path cause lost]
  rfl

/-- What was written by a path is read by it. -/
theorem readFile_of_replaces (before after : FileTree) (path : Path) (place : Place)
    (contents : Bytes) (located : before.locate path = .ok place)
    (separated : path.endsInSeparator = false) (replaced : Replaces before after place contents) :
    after.readFile path = .ok contents := by
  obtain ⟨serial, stands⟩ := replaced.there
  rw [readFile_of_locate after path place (replaced.locate path place located) separated, stands]

end DeviceParameters.FileTree
