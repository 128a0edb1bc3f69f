import DeviceParameters.Host.Directories
import DeviceParameters.Proofs.Host.Joining

/-!
# What stands above a path

The parent of a path is a beginning of it, cut at a separator, with a name in what is left out. So
where a path leads anywhere, even to a vacant place, its walk has passed through the parent, and the
parent is a directory.

Making a directory where one is found, together with what is above it, changes nothing and is no
failure. Hence what is above a path that leads somewhere can be made again and again.
-/

namespace DeviceParameters

namespace Path

/-- The pieces of a path are what the library's cutting at a separator gives. -/
theorem pieces_eq_splitOn (bytes : Bytes) : pieces bytes = bytes.splitOn separator := by
  induction bytes with
  | nil => rfl
  | cons byte rest inductionHypothesis =>
    rw [pieces, List.splitOn_cons_eq_if_modifyHead, ← inductionHypothesis]
    by_cases cut : byte = separator
    · simp [cut]
    · obtain ⟨piece, others, first⟩ := List.exists_cons_of_ne_nil (pieces_ne_nil rest)
      simp [cut, first]

/-- No piece has a separator in it. -/
theorem undivided_of_mem_pieces (bytes piece : Bytes) (member : piece ∈ pieces bytes) :
    separator ∉ piece := by
  induction bytes generalizing piece with
  | nil =>
    obtain rfl : piece = [] := by simpa [pieces] using member
    exact List.not_mem_nil
  | cons byte rest inductionHypothesis =>
    rw [pieces] at member
    split at member
    · rcases List.mem_cons.mp member with rfl | later
      · exact List.not_mem_nil
      · exact inductionHypothesis piece later
    · rename_i different
      obtain ⟨first, others, opened⟩ := List.exists_cons_of_ne_nil (pieces_ne_nil rest)
      rw [opened] at member inductionHypothesis
      rcases List.mem_cons.mp member with rfl | later
      · have undivided := inductionHypothesis first List.mem_cons_self
        simp [Ne.symm different, undivided]
      · exact inductionHypothesis piece (List.mem_cons_of_mem _ later)

/-- Two runs of pieces are joined by one separator. -/
theorem intercalate_append (front back : List Bytes) (first : front ≠ []) (second : back ≠ []) :
    [separator].intercalate (front ++ back) =
      [separator].intercalate front ++ separator :: [separator].intercalate back := by
  induction front with
  | nil => exact absurd rfl first
  | cons piece rest inductionHypothesis =>
    cases rest with
    | nil => simp [List.intercalate_cons_of_ne_nil second]
    | cons next others =>
      have joined := inductionHypothesis (List.cons_ne_nil _ _)
      rw [List.cons_append] at joined
      simp [joined]

/-- A path as it is cut between two of its pieces, with a name on both sides. -/
structure IsCut (path front : Path) (left right : List Bytes) : Prop where
  whole : pieces path.bytes = left ++ right
  before : front = ⟨[separator].intercalate left⟩
  named : ∃ name ∈ left, name ≠ []
  more : ∃ name ∈ right, name ≠ []

namespace IsCut

variable {path front : Path} {left right : List Bytes} (cut : IsCut path front left right)

include cut

/-- The front of a cut has the pieces in front of the cut. -/
theorem pieces_front : pieces front.bytes = left := by
  obtain ⟨name, member, _⟩ := cut.named
  rw [cut.before, pieces_eq_splitOn]
  apply List.splitOn_intercalate
  · intro piece inLeft
    apply undivided_of_mem_pieces path.bytes
    rw [cut.whole]
    exact List.mem_append_left right inLeft
  · exact List.ne_nil_of_mem member

/-- The names along a path are those along the front and the others. -/
theorem names : path.names = front.names ++ right.filter (· ≠ []) := by
  rw [Path.names, Path.names, cut.whole, cut.pieces_front, List.filter_append]

/-- The front of a cut begins the path, with a separator behind it. -/
theorem begins : ∃ rest, path.bytes = front.bytes ++ separator :: rest := by
  obtain ⟨name, member, _⟩ := cut.named
  obtain ⟨other, otherMember, _⟩ := cut.more
  have joined := intercalate_append left right (List.ne_nil_of_mem member)
    (List.ne_nil_of_mem otherMember)
  rw [← cut.whole, pieces_eq_splitOn, List.intercalate_splitOn] at joined
  exact ⟨_, by rw [cut.before]; exact joined⟩

/-- The front of a cut is not empty. -/
theorem something : front.bytes ≠ [] := by
  intro empty
  obtain ⟨name, member, nonempty⟩ := cut.named
  rw [← cut.pieces_front, empty] at member
  exact nonempty (by simpa [pieces] using member)

/-- The front of a cut starts where the path does. -/
theorem start (tree : FileTree) : tree.start path = tree.start front := by
  obtain ⟨rest, whole⟩ := cut.begins
  obtain ⟨first, others, opened⟩ := List.exists_cons_of_ne_nil cut.something
  rw [FileTree.start, FileTree.start, isAbsolute, isAbsolute, whole, opened]
  rfl

end IsCut

/-- Behind the first of the beginnings there is a component, and the others are those of what is in
front of that. -/
theorem beginnings_cons (reversed : List Bytes) (first : Path) (others : List Path)
    (found : beginnings reversed = first :: others) :
    ∃ skipped piece front, reversed = skipped ++ piece :: front ∧ piece ≠ [] ∧
      beginnings front = others := by
  induction reversed with
  | nil => simp [beginnings] at found
  | cons piece front inductionHypothesis =>
    rw [beginnings] at found
    split at found
    · rename_i component
      obtain ⟨-, rfl⟩ := List.cons.inj found
      simp only [isComponent, Bool.and_eq_true] at component
      exact ⟨[], piece, front, rfl, of_decide_eq_true component.1, rfl⟩
    · obtain ⟨skipped, next, rest, whole, something, later⟩ := inductionHypothesis found
      exact ⟨piece :: skipped, next, rest, by rw [whole]; rfl, something, later⟩

/-- There is a beginning where any piece is a name that does not stay in place. -/
theorem beginnings_ne_nil (reversed : List Bytes) (name : Name) (member : name ∈ reversed)
    (something : name ≠ []) (moves : name ≠ here) : beginnings reversed ≠ [] := by
  induction reversed with
  | nil => cases member
  | cons piece front inductionHypothesis =>
    rw [beginnings]
    split
    · exact List.cons_ne_nil _ _
    · rename_i none
      rcases List.mem_cons.mp member with rfl | later
      · exact absurd (by simp [isComponent, something, moves]) none
      · exact inductionHypothesis later

/-- A path has something above it where any name along it does not stay in place. -/
theorem parent?_of_mem_names (path : Path) (name : Name) (member : name ∈ path.names)
    (moves : name ≠ here) : ∃ parent, path.parent? = some parent := by
  obtain ⟨piece, something⟩ := List.mem_filter.mp member
  have opened := beginnings_ne_nil (pieces path.bytes).reverse name (List.mem_reverse.mpr piece)
    (of_decide_eq_true something) moves
  rw [parent?]
  split
  · contradiction
  · exact ⟨_, rfl⟩
  · exact ⟨_, rfl⟩

/-- Each of the beginnings ends with one of the components. -/
theorem mem_beginnings (reversed : List Bytes) (path : Path)
    (member : path ∈ beginnings reversed) :
    ∃ skipped piece front, reversed = skipped ++ piece :: front ∧ piece ≠ [] ∧
      path = ⟨[separator].intercalate (piece :: front).reverse⟩ := by
  induction reversed with
  | nil => cases member
  | cons piece front inductionHypothesis =>
    have later (found : path ∈ beginnings front) :
        ∃ skipped next rest, piece :: front = skipped ++ next :: rest ∧ next ≠ [] ∧
          path = ⟨[separator].intercalate (next :: rest).reverse⟩ := by
      obtain ⟨skipped, next, rest, whole, something, same⟩ := inductionHypothesis found
      exact ⟨piece :: skipped, next, rest, by rw [whole]; rfl, something, same⟩
    rw [beginnings] at member
    split at member
    · rename_i component
      rcases List.mem_cons.mp member with same | found
      · simp only [isComponent, Bool.and_eq_true] at component
        exact ⟨[], piece, front, rfl, of_decide_eq_true component.1, same⟩
      · exact later found
    · exact later member

/-- Every beginning of a path but the longest is the front of a cut. -/
theorem cut_of_later (path first front : Path) (others : List Path)
    (listed : beginnings (pieces path.bytes).reverse = first :: others) (member : front ∈ others) :
    ∃ left right, IsCut path front left right := by
  obtain ⟨behind, piece, before, whole, something, rfl⟩ := beginnings_cons _ _ _ listed
  obtain ⟨between, name, rest, beforeWhole, nonempty, same⟩ := mem_beginnings _ _ member
  refine ⟨(name :: rest).reverse, (behind ++ piece :: between).reverse, ?_, same,
    ⟨name, by simp, nonempty⟩, ⟨piece, by simp, something⟩⟩
  have reversed := congrArg List.reverse whole
  rw [List.reverse_reverse, beforeWhole] at reversed
  rw [reversed]
  simp

/-- The parent of a path is the front of a cut, or has itself no parent. -/
theorem cut_of_parent (path parent : Path) (above : path.parent? = some parent) :
    parent.parent? = none ∨ ∃ left right, IsCut path parent left right := by
  rw [parent?] at above
  split at above
  · cases above
  · obtain rfl := Option.some.inj above
    left
    cases path.isAbsolute with
    | false => rfl
    | true => rfl
  · rename_i first last others listed
    obtain rfl := Option.some.inj above
    exact Or.inr (cut_of_later path first last _ listed List.mem_cons_self)

/-- What is above a path is the front of a cut. -/
theorem cut_of_ancestor (path front : Path) (above : front ∈ path.ancestors) :
    front = path ∨ ∃ left right, IsCut path front left right := by
  refine (List.mem_cons.mp above).imp_right fun later => ?_
  cases listed : beginnings (pieces path.bytes).reverse with
  | nil =>
    rw [listed] at later
    cases later
  | cons first others =>
    rw [listed] at later
    exact cut_of_later path first front others listed later

end Path

namespace FileTree

variable (tree : FileTree) (path : Path)

/-- A path that leads somewhere passes through a directory at every cut. -/
theorem isDirectory_of_cut (front : Path) (place : Place) (left right : List Bytes)
    (cut : Path.IsCut path front left right) (located : tree.locate path = .ok place) :
    tree.isDirectory front = true := by
  obtain ⟨checked, walked⟩ := (locate_eq_ok _ _ _).mp located
  obtain ⟨zeroless, _, short⟩ := (checkPath_eq_ok _ _).mp checked
  obtain ⟨rest, whole⟩ := cut.begins
  have frontChecked : checkPath front = .ok () := by
    rw [whole] at zeroless short
    rw [List.length_append] at short
    refine (checkPath_eq_ok _ _).mpr ⟨?_, cut.something, by omega⟩
    exact fun zero => zeroless (List.mem_append_left _ zero)
  rw [cut.names, walk_append, cut.start] at walked
  obtain ⟨reached, frontWalked, onward⟩ := (bind_eq_ok _ _ _).mp walked
  -- There is one more name, and it is looked up from where the front leads.
  obtain ⟨name, member, nonempty⟩ := cut.more
  have further : name ∈ right.filter (· ≠ []) := List.mem_filter.mpr ⟨member, by simpa using nonempty⟩
  obtain ⟨next, others, listed⟩ := List.exists_cons_of_ne_nil (List.ne_nil_of_mem further)
  rw [listed] at onward
  have housed := ((walk_cons_eq_ok _ _ _ _ _).mp onward).1
  exact (isDirectory_iff _ _).mpr ⟨reached, (find_eq_directory _ _ _).mpr
    ⟨(locate_eq_ok _ _ _).mpr ⟨frontChecked, frontWalked⟩, housed⟩⟩

/-- A path that leads somewhere does so by one step from where its last name is looked up. -/
theorem step_of_locate (place : Place) (name : Name) (last : path.names.getLast? = some name)
    (located : tree.locate path = .ok place) :
    ∃ parent, tree.locateParent path = .ok parent ∧ step parent name = .ok place := by
  obtain ⟨_, walked⟩ := (locate_eq_ok _ _ _).mp located
  obtain ⟨front, whole⟩ := List.getLast?_eq_some_iff.mp last
  rw [whole, walk_append] at walked
  obtain ⟨parent, frontWalked, onward⟩ := (bind_eq_ok _ _ _).mp walked
  obtain ⟨housed, next, stepped, ended⟩ := (walk_cons_eq_ok _ _ _ _ _).mp onward
  obtain rfl : next = place := Except.ok.inj ended
  have parents : path.names.dropLast = front := by rw [whole, List.dropLast_concat]
  exact ⟨parent, (locateParent_eq_ok _ _ _).mpr ⟨parents ▸ frontWalked, housed⟩, stepped⟩

/-- A directory is not made where one is found. -/
theorem makeDirectory_of_isDirectory (there : tree.isDirectory path = true) :
    tree.makeDirectory path = .error .alreadyExists := by
  obtain ⟨place, found⟩ := (isDirectory_iff _ _).mp there
  obtain ⟨located, stands⟩ := (find_eq_directory _ _ _).mp found
  obtain ⟨checked, _⟩ := (locate_eq_ok _ _ _).mp located
  rw [makeDirectory, checked]
  cases last : path.names.getLast? with
  | none => rfl
  | some name =>
    obtain ⟨parent, parentLocated, stepped⟩ := step_of_locate tree path place name last located
    simp [bind, Except.bind, parentLocated, stepped, stands]

/-- A directory is made at a vacant place to which a path leads, if the last name of the path is one
that stands for an entry. -/
theorem makeDirectory_of_locate (place : Place) (name : Name)
    (last : path.names.getLast? = some name) (moves : name ≠ Path.here) (descends : name ≠ Path.above)
    (located : tree.locate path = .ok place) (vacant : tree.node? place = none) :
    tree.makeDirectory path = .ok (tree.putDirectory place) := by
  obtain ⟨checked, _⟩ := (locate_eq_ok _ _ _).mp located
  obtain ⟨parent, parentLocated, stepped⟩ := step_of_locate tree path place name last located
  rw [makeDirectory, checked, last]
  simp [bind, Except.bind, parentLocated, stepped, vacant, moves, descends]

/-- A directory that can be made is made with nothing to be made above it. -/
theorem makeDirectoryAll_of_makeDirectory (parent : Path) (made : FileTree)
    (above : path.parent? = some parent) (done : tree.makeDirectory path = .ok made) :
    tree.makeDirectoryAll path = (made, .ok ()) := by
  rw [makeDirectoryAll, above, Path.ancestors, makeDirectories, done]

/-- Making a directory that is found, with all above it, changes nothing. -/
theorem makeDirectoryAll_of_isDirectory (there : tree.isDirectory path = true) :
    tree.makeDirectoryAll path = (tree, .ok ()) := by
  rw [makeDirectoryAll]
  split
  · rfl
  · rw [Path.ancestors, makeDirectories, makeDirectory_of_isDirectory tree path there]
    simp [unlessDirectory, there]

/-- Making what is above a path that leads somewhere changes nothing. -/
theorem makeDirectoryAll_parent (parent : Path) (place : Place)
    (above : path.parent? = some parent) (located : tree.locate path = .ok place) :
    tree.makeDirectoryAll parent = (tree, .ok ()) := by
  rcases Path.cut_of_parent path parent above with top | ⟨left, right, cut⟩
  · rw [makeDirectoryAll, top]
  · exact makeDirectoryAll_of_isDirectory tree parent
      (isDirectory_of_cut tree path parent place left right cut located)

end FileTree

end DeviceParameters
