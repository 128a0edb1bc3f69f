import DeviceParameters.Proofs.File.Formatting
import DeviceParameters.Proofs.Host.Erasing

/-!
# Formatting erases the root and nothing else

A volume that was formatted is an empty directory, whatever stood at its root: nothing, a file, or a
directory with any tree in it. Beside the root everything is as it was. Only the directories on the
way to the root can be new, where they were missing. A second formatting finds nothing to erase and
leaves the host as it is.

All this is said of roots whose names stand for entries. What a root with `..` in it comes to is
told where the opening of a volume is.
-/

namespace DeviceParameters

/-- Removing a file erases its place: nothing stands below a file. -/
theorem FileTree.Unnames.erases {before after : FileTree} {place : Place}
    (unnamed : Unnames before after place) : Erases before after place where
  current := unnamed.current
  gone other begins := by
    by_cases same : other = place
    · rw [same, unnamed.vacant]
    · rw [unnamed.elsewhere other same]
      cases stands : before.node? other with
      | none => rfl
      | some node =>
        obtain ⟨_, _, file⟩ := unnamed.file
        rw [directory_of_begins before place other node stands begins (Ne.symm same)] at file
        cases file
  elsewhere other apart := unnamed.elsewhere other fun same => apart (same ▸ List.prefix_rfl)

namespace Volume

variable (tree : FileTree) (root : Path) (capacity : Nat)

/-- Formatting that succeeds has cleared the root. -/
theorem clear_of_format (volume : Volume) (done : (format tree root capacity).2 = .ok volume) :
    (clear tree root).2 = .ok () := by
  rw [format] at done
  split at done
  · cases done
  · rename_i cleared emptied
    rw [emptied]

section Plain

variable (plain : root.IsPlain)

include plain

/-- Clearing a plain root erases the place to which it leads, or finds nothing that it could take
away. -/
theorem erases_clear (done : (clear tree root).2 = .ok ()) :
    (∃ place, tree.locate root = .ok place ∧ tree.Erases (clear tree root).1 place) ∨
      (clear tree root).1 = tree ∧ tree.isDirectory root = false := by
  cases there : tree.isDirectory root with
  | true =>
    obtain ⟨place, found⟩ := (FileTree.isDirectory_iff _ _).mp there
    rw [clear, if_pos there] at done ⊢
    exact Or.inl ⟨place, ((FileTree.find_eq_directory _ _ _).mp found).1,
      tree.erases_of_removeDirectoryAll root place plain found done⟩
  | false =>
    rcases clear_of_missing tree root there with unchanged | ⟨place, _, _, found, unnamed⟩
    · exact Or.inr ⟨unchanged, rfl⟩
    · exact Or.inl ⟨place, ((FileTree.find_eq_file _ _ _ _ _).mp found).1, unnamed.erases⟩

/-- What formatting has erased when it comes to make directories is the place at which the root then
stands. -/
theorem erases_of_format (volume : Volume) (place : Place)
    (done : (format tree root capacity).2 = .ok volume)
    (found : (format tree root capacity).1.find root = .ok (place, .directory)) :
    tree.Erases (clear tree root).1 place := by
  have gains := gains_format tree root capacity
  rcases erases_clear tree root plain (clear_of_format tree root capacity volume done) with
    ⟨was, located, erases⟩ | ⟨unchanged, missing⟩
  · have current := gains.current.trans erases.current
    have before := tree.place_of_locate root was plain located
    have after := FileTree.place_of_locate _ root place plain
      ((FileTree.find_eq_directory _ _ _).mp found).1
    rw [FileTree.start_of_current tree _ root current, ← before] at after
    exact after ▸ erases
  · rw [unchanged] at gains ⊢
    exact tree.erases_of_vacant place
      (FileTree.vacant_of_gains root plain.descends tree _ _ place gains missing found)

/-- A plain root that is a directory and not the top is formatted by removing it and making it
again. -/
theorem format_of_find (place : Place) (below : place ≠ [])
    (found : tree.find root = .ok (place, .directory)) :
    format tree root capacity =
      (((tree.removeBelow place).remove place).putDirectory place, .ok ⟨root, capacity⟩) := by
  obtain ⟨removed, made, mounted⟩ := tree.remade_of_find root place plain below found
  have there := (FileTree.isDirectory_iff _ _).mpr ⟨place, found⟩
  have cleared : clear tree root = ((tree.removeBelow place).remove place, .ok ()) := by
    rw [clear, if_pos there, removed]
  simp only [format, cleared, made, mount, mounted, if_true]

end Plain

/-- Formatting a root whose names stand for entries, where it succeeds, erases the root and nothing
else. The root is then an empty directory, with nothing below it. Everything that is not at the root
or below it stays what it was, and what is new there are directories on the way to the root. The
same formatting once more succeeds and changes nothing.

Proof: what is cleared away first is all that stands where the root will be, whichever of the three
ways of clearing it is; then directories come on the way there. The second time the root is found,
removed, and made again with one request. -/
theorem format_erases_root_alone (volume : Volume) (plain : root.IsPlain)
    (done : (format tree root capacity).2 = .ok volume) :
    let place := tree.start root ++ root.names
    let after := (format tree root capacity).1
    volume = ⟨root, capacity⟩ ∧ after.current = tree.current ∧
      after.find root = .ok (place, .directory) ∧ after.listDirectory root = .ok [] ∧
      (∀ other, place <+: other → other ≠ place → after.node? other = none) ∧
      (∀ other node, ¬ place <+: other → tree.node? other = some node →
        after.node? other = some node) ∧
      (∀ other, ¬ place <+: other → tree.node? other = none →
        after.node? other = none ∨ after.node? other = some .directory ∧ other <+: place) ∧
      (format after root capacity).2 = .ok volume ∧
      after.Alike (format after root capacity).1 := by
  intro place after
  obtain ⟨made, there, rfl⟩ := format_ok tree root capacity volume done
  obtain ⟨reached, found⟩ := (FileTree.isDirectory_iff _ _).mp there
  obtain ⟨located, housed⟩ := (FileTree.find_eq_directory _ _ _).mp found
  have erases := erases_of_format tree root capacity plain _ reached done found
  have gains : (clear tree root).1.GainsDirectories after (· <+: reached) := by
    have leads := located
    rw [made] at leads
    have new := FileTree.gains_of_straight root plain.descends _ reached leads
    rwa [← made] at new
  have current := gains.current.trans erases.current
  obtain rfl : reached = place := by
    have spelled := FileTree.place_of_locate _ root reached plain located
    rwa [FileTree.start_of_current tree _ root current] at spelled
  have below : place ≠ [] := by
    intro top
    have vacant := erases.gone place List.prefix_rfl
    rw [top] at vacant
    cases vacant
  have nothing (other : Place) (begins : place <+: other) (different : other ≠ place) :
      after.node? other = none := by
    rcases gains.each other with same | ⟨_, _, onTheWay⟩
    · rw [same, erases.gone other begins]
    · exact absurd (onTheWay.eq_of_length_le begins.length_le) different
  have empty : after.children place = [] := (after.children_eq_nil_iff place).mpr fun name =>
    nothing (place ++ [name]) (List.prefix_append _ _) (by simp)
  have again := format_of_find after root capacity plain place below found
  refine ⟨rfl, current, found, (after.listDirectory_eq_ok _ _).mpr ⟨place, found, empty⟩, nothing,
    ?_, ?_, ?_, ?_⟩
  · intro other node apart stands
    exact gains.kept other node ((erases.elsewhere other apart).trans stands)
  · intro other apart vacant
    rcases gains.each other with same | ⟨_, new, onTheWay⟩
    · exact Or.inl (same.trans ((erases.elsewhere other apart).trans vacant))
    · exact Or.inr ⟨new, onTheWay⟩
  · rw [again]
  · rw [again]
    exact after.alike_remade place housed nothing below

/-- A root with a directory and a file in it is erased beside another file. A root under a directory
that is missing is made together with it, and the first root keeps what it holds. -/
theorem format_erases_root_alone_beside_file :
    let home := Utf8.bytes "home"
    let flash : Place := [home, Utf8.bytes "flash"]
    let notes : Place := [home, Utf8.bytes "notes"]
    let deep := flash ++ [Utf8.bytes "deep"]
    let held := deep ++ [Utf8.bytes "a.par"]
    let tree := ((((FileTree.fresh home).putDirectory flash).putDirectory deep).putFile held
      (Utf8.bytes "old")).putFile notes (Utf8.bytes "abc")
    let erased := (format tree (.ofText "flash") 64).1
    let made := (format tree (.ofText "/home/new/flash") 64).1
    tree.node? held = some (.file 0 (Utf8.bytes "old")) ∧
      erased.listDirectory (.ofText "flash") = .ok [] ∧ erased.node? held = none ∧
      erased.node? notes = some (.file 1 (Utf8.bytes "abc")) ∧
      erased.Alike (format erased (.ofText "flash") 64).1 ∧
      made.listDirectory (.ofText "/home/new/flash") = .ok [] ∧
      made.node? held = some (.file 0 (Utf8.bytes "old")) := by
  intro home flash notes deep held tree erased made
  have stands : tree.node? held = some (.file 0 (Utf8.bytes "old")) := by decide +kernel
  have beside : tree.node? notes = some (.file 1 (Utf8.bytes "abc")) := by decide +kernel
  obtain ⟨_, _, _, empty, nothing, kept, _, _, same⟩ := format_erases_root_alone tree
    (.ofText "flash") 64 ⟨.ofText "flash", 64⟩ (by decide +kernel) (by decide +kernel)
  obtain ⟨_, _, _, newEmpty, _, newKept, _⟩ := format_erases_root_alone tree
    (.ofText "/home/new/flash") 64 ⟨.ofText "/home/new/flash", 64⟩ (by decide +kernel)
    (by decide +kernel)
  exact ⟨stands, empty, nothing held (by decide +kernel) (by decide +kernel),
    kept notes _ (by decide +kernel) beside, same, newEmpty,
    newKept held _ (by decide +kernel) stands⟩

end Volume

end DeviceParameters
