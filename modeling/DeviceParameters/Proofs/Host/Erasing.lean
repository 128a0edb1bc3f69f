import DeviceParameters.Proofs.Host.Handles
import DeviceParameters.Proofs.Host.Making

/-!
# Removing directories

Removing a directory with everything in it takes exactly one subtree away: what stands at its place
and below it, however deep, and nothing else. This holds for the paths whose names all stand for
entries. A path with `.` or `..` in it can lead through the subtree that is being removed, and then
does not find the directory itself any more.

Such a path can be followed again up to where the subtree was, so the directory can be made anew,
with one request and nothing to be made above it. Where the directory was empty, the tree is then as
it was.
-/

namespace DeviceParameters

/-- Every name along a path is that of an entry: none of them stays in place or goes up. -/
structure Path.IsPlain (path : Path) : Prop where
  moves : here ∉ path.names
  descends : above ∉ path.names

instance (path : Path) : Decidable path.IsPlain :=
  decidable_of_iff (Path.here ∉ path.names ∧ Path.above ∉ path.names)
    ⟨fun both => ⟨both.1, both.2⟩, fun plain => ⟨plain.moves, plain.descends⟩⟩

namespace FileTree

/-- The second tree is the first without what stands at a place and below it. -/
structure Erases (before after : FileTree) (place : Place) : Prop where
  current : after.current = before.current
  gone : ∀ other, place <+: other → after.node? other = none
  elsewhere : ∀ other, ¬ place <+: other → after.node? other = before.node? other

/-- Two trees that no request tells apart: at most the order in which they keep their nodes is
different. -/
structure Alike (before after : FileTree) : Prop where
  current : after.current = before.current
  nextSerial : after.nextSerial = before.nextSerial
  detached : after.detached = before.detached
  each : ∀ place, after.node? place = before.node? place

section Removals

variable (tree : FileTree) (place : Place)

/-- A removal erases a place. -/
theorem erases_remove (below : place ≠ []) : Erases tree (tree.remove place) place where
  current := rfl
  gone other begins := by rw [node?_remove tree place other below, if_pos begins]
  elsewhere other apart := by rw [node?_remove tree place other below, if_neg apart]

/-- A place where nothing stands has nothing below it that could be erased. -/
theorem erases_of_vacant (vacant : tree.node? place = none) : Erases tree tree place where
  current := rfl
  gone other begins := tree.vacant_below place other vacant begins
  elsewhere _ _ := rfl

/-- What stands below a place is removed without the place itself. -/
theorem node?_removeBelow (other : Place) :
    (tree.removeBelow place).node? other =
      if place <+: other ∧ other ≠ place then none else tree.node? other := by
  unfold removeBelow node?
  simp only [Nodes.find?_drop, Bool.and_eq_true, bne_iff_ne, List.isPrefixOf_iff_prefix]
  by_cases top : other = []
  · subst top
    rw [if_pos rfl, if_pos rfl, if_neg]
    rintro ⟨begins, different⟩
    exact different (List.prefix_nil.mp begins).symm
  · simp [top]

/-- The place itself stays as it was. -/
theorem node?_removeBelow_self : (tree.removeBelow place).node? place = tree.node? place := by
  rw [node?_removeBelow, if_neg fun both => both.2 rfl]

/-- A place with nothing below it is an empty directory, if it is one. -/
theorem children_removeBelow : (tree.removeBelow place).children place = [] := by
  refine (children_eq_nil_iff _ _).mpr fun name => ?_
  rw [node?_removeBelow, if_pos ⟨List.prefix_append _ _, by simp⟩]

/-- Removing what is below a place and then the place erases it. -/
theorem erases_remove_removeBelow (below : place ≠ []) :
    Erases tree ((tree.removeBelow place).remove place) place where
  current := rfl
  gone := (erases_remove (tree.removeBelow place) place below).gone
  elsewhere other apart := by
    rw [(erases_remove (tree.removeBelow place) place below).elsewhere other apart,
      node?_removeBelow, if_neg fun both => apart both.1]

/-- No contents are detached where no file goes. -/
theorem filesAt_eq_nil (isGone : Place → Bool)
    (spared : ∀ other serial contents, tree.node? other = some (.file serial contents) →
      isGone other = false) : tree.filesAt isGone = [] := by
  apply List.filterMap_eq_nil_iff.mpr
  rintro ⟨other, node⟩ member
  cases node with
  | directory => rfl
  | file serial contents =>
    have stands : tree.node? other = some (.file serial contents) := by
      rw [node?, if_neg (tree.rooted _ member).1]
      exact Nodes.find?_of_mem tree.distinct member
    simp [spared other serial contents stands]

/-- A place that was erased accepts a node again: the directory above it is still there. -/
theorem accepts_of_erases (erased : FileTree) (below : place ≠ [])
    (housed : tree.node? place.dropLast = some .directory) (erases : Erases tree erased place) :
    erased.Accepts place := by
  refine ⟨below, ?_, by simp [erases.gone place List.prefix_rfl]⟩
  rw [erases.elsewhere place.dropLast, housed]
  intro begins
  have longer := List.length_pos_iff.mpr below
  exact absurd begins.length_le (by rw [List.length_dropLast]; omega)

section Empty

variable (stands : tree.node? place = some .directory)
  (empty : ∀ other, place <+: other → other ≠ place → tree.node? other = none)

include stands empty

/-- No contents are detached when an empty directory goes. -/
theorem detached_of_empty :
    ((tree.removeBelow place).remove place).detached = tree.detached := by
  have spared (other : Place) (serial : Nat) (contents : Bytes)
      (file : tree.node? other = some (.file serial contents)) : place.isPrefixOf other = false := by
    apply Bool.eq_false_iff.mpr
    intro begins
    by_cases same : other = place
    · rw [same, stands] at file
      cases file
    · rw [empty other (List.isPrefixOf_iff_prefix.mp begins) same] at file
      cases file
  have first : tree.filesAt (fun other => place.isPrefixOf other && other != place) = [] :=
    filesAt_eq_nil tree _ fun other serial contents file => by
      simp [spared other serial contents file]
  have second : (tree.removeBelow place).filesAt (place.isPrefixOf ·) = [] := by
    refine filesAt_eq_nil _ _ fun other serial contents file => ?_
    rw [node?_removeBelow] at file
    split at file
    · cases file
    · exact spared other serial contents file
  simp only [remove, second, List.nil_append]
  simp only [removeBelow, first, List.nil_append]

/-- An empty directory that is removed and made again leaves the tree as it was. -/
theorem alike_remade (below : place ≠ []) :
    Alike tree (((tree.removeBelow place).remove place).putDirectory place) := by
  have erases := erases_remove_removeBelow tree place below
  have accepted := accepts_of_erases tree place _ below (parent_of_directory tree place stands) erases
  refine ⟨current_put _ _ _, ?_, ?_, fun other => ?_⟩
  · rw [putDirectory, put, dif_pos accepted]
    rfl
  · rw [← detached_of_empty tree place stands empty, putDirectory, put, dif_pos accepted]
  · rw [putDirectory, node?_put _ place other .directory accepted]
    by_cases same : place = other
    · rw [if_pos same, ← same, stands]
    · rw [if_neg same]
      by_cases begins : place <+: other
      · rw [erases.gone other begins, empty other begins (Ne.symm same)]
      · exact erases.elsewhere other begins

end Empty

end Removals

section Plain

variable (tree : FileTree) (path : Path) (place : Place) (plain : path.IsPlain)

/-- An empty directory is removed by a path whose last name is that of an entry. -/
theorem removeDirectory_of_find (name : Name) (last : path.names.getLast? = some name)
    (moves : name ≠ Path.here) (descends : name ≠ Path.above)
    (found : tree.find path = .ok (place, .directory)) (empty : tree.children place = []) :
    tree.removeDirectory path = .ok (tree.remove place) := by
  obtain ⟨located, stands⟩ := (find_eq_directory _ _ _).mp found
  obtain ⟨checked, _⟩ := (locate_eq_ok _ _ _).mp located
  obtain ⟨parent, parentLocated, stepped⟩ := step_of_locate tree path place name last located
  rw [removeDirectory, checked, last]
  simp [bind, Except.bind, parentLocated, stepped, stands, empty, moves, descends]

include plain

/-- A plain path leads to the place that its names spell. -/
theorem place_of_locate (located : tree.locate path = .ok place) :
    place = tree.start path ++ path.names := by
  obtain ⟨_, walked⟩ := (locate_eq_ok _ _ _).mp located
  have ends := walk_straight tree _ place _ plain.descends walked
  have entries : path.names.filter (· ≠ Path.here) = path.names := by
    apply List.filter_eq_self.mpr
    intro name member
    exact decide_eq_true fun stays => plain.moves (stays ▸ member)
  rw [ends, entries]

/-- The last name along a plain path is one step below where it is looked up. -/
theorem last_of_plain (name : Name) (last : path.names.getLast? = some name) :
    name ≠ Path.here ∧ name ≠ Path.above := by
  have member := List.mem_of_getLast? last
  exact ⟨fun stays => plain.moves (stays ▸ member), fun rises => plain.descends (rises ▸ member)⟩

/-- A directory that is found by a plain path is removed with everything in it, and nothing else is.
Only the top, which has no name, is not removed. -/
theorem removeDirectoryAll_of_find (name : Name) (last : path.names.getLast? = some name)
    (found : tree.find path = .ok (place, .directory)) :
    tree.removeDirectoryAll path = ((tree.removeBelow place).remove place, .ok ()) := by
  obtain ⟨moves, descends⟩ := last_of_plain path plain name last
  obtain ⟨located, stands⟩ := (find_eq_directory _ _ _).mp found
  have housed : (tree.removeBelow place).node? place = some .directory :=
    (node?_removeBelow_self tree place).trans stands
  -- The path is walked once more, and nothing that was removed lies on the way.
  have again : (tree.removeBelow place).find path = .ok (place, .directory) :=
    (find_eq_directory _ _ _).mpr ⟨locate_of_straight path plain.descends (tree.removeBelow place)
      tree place .directory rfl located housed fun _ => housed, housed⟩
  rw [removeDirectoryAll, found]
  simp only [removeDirectory_of_find _ path place name last moves descends again
    (children_removeBelow tree place)]

/-- A plain path along which a subtree was erased leads to where the subtree was. -/
theorem locate_of_erases (erased : FileTree) (name : Name) (last : path.names.getLast? = some name)
    (erases : Erases tree erased place) (located : tree.locate path = .ok place) :
    erased.locate path = .ok place := by
  obtain ⟨checked, _⟩ := (locate_eq_ok _ _ _).mp located
  obtain ⟨parent, parentLocated, stepped⟩ := step_of_locate tree path place name last located
  obtain ⟨walked, housed⟩ := (locateParent_eq_ok _ _ _).mp parentLocated
  have below : place = parent ++ [name] := by
    obtain ⟨moves, descends⟩ := last_of_plain path plain name last
    rw [step, if_neg moves, if_neg descends] at stepped
    split at stepped
    · cases stepped
    · exact (Except.ok.inj stepped).symm
  -- The directory above is not in the subtree.
  have kept : erased.node? parent = some .directory := by
    rw [erases.elsewhere parent, housed]
    exact fun begins => absurd begins.length_le (by simp [below])
  have straight : Path.above ∉ path.names.dropLast := fun member =>
    plain.descends (List.dropLast_subset _ member)
  have again : erased.locateParent path = .ok parent := by
    rw [locateParent_eq_ok, start_of_current tree erased path erases.current]
    exact ⟨walk_of_straight erased tree _ parent _ .directory straight walked kept fun _ => kept,
      kept⟩
  exact (locate_of_locateParent erased path parent place name checked last again stepped).1

/-- A directory that was erased is made anew by its path. -/
theorem makeDirectory_of_erases (erased : FileTree) (name : Name)
    (last : path.names.getLast? = some name) (erases : Erases tree erased place)
    (located : tree.locate path = .ok place) :
    erased.makeDirectory path = .ok (erased.putDirectory place) := by
  obtain ⟨moves, descends⟩ := last_of_plain path plain name last
  exact makeDirectory_of_locate erased path place name last moves descends
    (locate_of_erases tree path place plain erased name last erases located)
    (erases.gone place List.prefix_rfl)

/-- A plain path that finds a directory which is not the top can have the directory removed with
everything in it and made anew. -/
theorem remade_of_find (below : place ≠ []) (found : tree.find path = .ok (place, .directory)) :
    let erased := (tree.removeBelow place).remove place
    let made := erased.putDirectory place
    tree.removeDirectoryAll path = (erased, .ok ()) ∧
      erased.makeDirectoryAll path = (made, .ok ()) ∧ made.isDirectory path = true := by
  intro erased made
  obtain ⟨located, _⟩ := (find_eq_directory _ _ _).mp found
  cases last : path.names.getLast? with
  | none => exact absurd (top_of_nameless tree path place last located) below
  | some name =>
    obtain ⟨moves, _⟩ := last_of_plain path plain name last
    obtain ⟨parent, above⟩ := Path.parent?_of_mem_names path name (List.mem_of_getLast? last) moves
    have again : erased.makeDirectory path = .ok made := makeDirectory_of_erases tree path place
      plain erased name last (erases_remove_removeBelow tree place below) located
    exact ⟨removeDirectoryAll_of_find tree path place plain name last found,
      makeDirectoryAll_of_makeDirectory erased path parent made above again,
      (isDirectory_iff _ _).mpr (find_of_makeDirectory erased made path again)⟩

/-- Removing a directory with everything in it by a plain path erases it, where that succeeds: the
top is the only directory that is left. -/
theorem erases_of_removeDirectoryAll (found : tree.find path = .ok (place, .directory))
    (done : (tree.removeDirectoryAll path).2 = .ok ()) :
    Erases tree (tree.removeDirectoryAll path).1 place := by
  obtain ⟨located, _⟩ := (find_eq_directory _ _ _).mp found
  by_cases top : place = []
  · obtain ⟨checked, _⟩ := (locate_eq_ok _ _ _).mp located
    have nameless : path.names.getLast? = none := by
      have whole := place_of_locate tree path place plain located
      rw [top] at whole
      rw [(List.append_eq_nil_iff.mp whole.symm).2]
      rfl
    have refused : (tree.removeBelow place).removeDirectory path = .error .busy := by
      rw [removeDirectory, checked, nameless]
      rfl
    rw [removeDirectoryAll, found] at done
    simp only [refused] at done
    cases done
  · rw [(remade_of_find tree path place plain top found).1]
    exact erases_remove_removeBelow tree place top

end Plain

end FileTree

end DeviceParameters
