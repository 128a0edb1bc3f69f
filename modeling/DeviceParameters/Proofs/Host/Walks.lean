import DeviceParameters.Host.Lookup

/-!
# Walks

Where a path leads depends on the directories along it and on nothing else: a walk that
succeeds does so in every tree that has those directories. A walk of two parts is the walk of
the first and then, from where that ends, the walk of the second.

What is found by a path is then what stands where it leads, except that a path which ends in a
separator does not find a file.
-/

namespace DeviceParameters

/-- A sequence of two requests succeeds exactly when both do. -/
theorem bind_eq_ok {ε α β : Type} (first : Except ε α) (next : α → Except ε β) (result : β) :
    first >>= next = .ok result ↔ ∃ value, first = .ok value ∧ next value = .ok result := by
  cases first with
  | error cause => simp [bind, Except.bind]
  | ok value => simp [bind, Except.bind]

namespace FileTree

/-- A directory is required exactly where one stands. -/
theorem requireDirectory_eq_ok (tree : FileTree) (place : Place) (done : Unit) :
    tree.requireDirectory place = .ok done ↔ tree.node? place = some .directory := by
  rw [requireDirectory]
  split
  · rename_i stands
    simp [stands]
  · rename_i stands
    simp [stands]
  · rename_i stands
    simp [stands]

/-- A walk goes on by one name from a directory. -/
theorem walk_cons_eq_ok (tree : FileTree) (place reached : Place) (name : Name) (rest : List Name) :
    tree.walk place (name :: rest) = .ok reached ↔
      tree.node? place = some .directory ∧
        ∃ next, step place name = .ok next ∧ tree.walk next rest = .ok reached := by
  simp only [walk, bind_eq_ok, requireDirectory_eq_ok, exists_const]

/-- A walk of two parts is two walks. -/
theorem walk_append (tree : FileTree) (place : Place) (front back : List Name) :
    tree.walk place (front ++ back) = tree.walk place front >>= fun reached =>
      tree.walk reached back := by
  induction front generalizing place with
  | nil => rfl
  | cons name rest inductionHypothesis =>
    rw [List.cons_append, walk, walk]
    cases tree.requireDirectory place with
    | error cause => rfl
    | ok done =>
      cases stepped : step place name with
      | error cause => simp [bind, Except.bind]
      | ok next => simpa [bind, Except.bind] using inductionHypothesis next

/-- A walk that ends with one more name is that step from a directory. -/
theorem walk_concat_eq_ok (tree : FileTree) (place parent reached : Place) (front : List Name)
    (name : Name) (walked : tree.walk place front = .ok parent) :
    tree.walk place (front ++ [name]) = .ok reached ↔
      tree.node? parent = some .directory ∧ step parent name = .ok reached := by
  rw [walk_append, walked]
  change tree.walk parent [name] = .ok reached ↔ _
  rw [walk_cons_eq_ok]
  simp [walk]

/-- The second tree has every directory of the first. -/
def KeepsDirectories (before after : FileTree) : Prop :=
  ∀ place, before.node? place = some .directory → after.node? place = some .directory

/-- A walk that succeeds leads to the same place where its directories are kept. -/
theorem walk_of_keeps (before after : FileTree) (kept : KeepsDirectories before after)
    (place reached : Place) (names : List Name) (walked : before.walk place names = .ok reached) :
    after.walk place names = .ok reached := by
  induction names generalizing place with
  | nil => exact walked
  | cons name rest inductionHypothesis =>
    obtain ⟨housed, next, stepped, later⟩ := (walk_cons_eq_ok _ _ _ _ _).mp walked
    exact (walk_cons_eq_ok _ _ _ _ _).mpr
      ⟨kept place housed, next, stepped, inductionHypothesis next later⟩

/-- A path leads somewhere exactly when it is one that is walked and its walk ends there. -/
theorem locate_eq_ok (tree : FileTree) (path : Path) (place : Place) :
    tree.locate path = .ok place ↔
      checkPath path = .ok () ∧ tree.walk (tree.start path) path.names = .ok place := by
  simp only [locate, bind_eq_ok]
  exact ⟨fun ⟨_, checked, walked⟩ => ⟨checked, walked⟩, fun ⟨checked, walked⟩ => ⟨(), checked, walked⟩⟩

/-- The last name of a path is looked up from where the others lead, which has to be a directory. -/
theorem locateParent_eq_ok (tree : FileTree) (path : Path) (parent : Place) :
    tree.locateParent path = .ok parent ↔
      tree.walk (tree.start path) path.names.dropLast = .ok parent ∧
        tree.node? parent = some .directory := by
  simp only [locateParent, bind_eq_ok, requireDirectory_eq_ok, exists_const]
  constructor
  · rintro ⟨reached, walked, housed, same⟩
    obtain rfl := Except.ok.inj same
    exact ⟨walked, housed⟩
  · exact fun ⟨walked, housed⟩ => ⟨parent, walked, housed, rfl⟩

/-- From where the last name of a path is looked up, which is a directory, it is one step to where
the path leads. -/
theorem locate_of_locateParent (tree : FileTree) (path : Path) (parent place : Place) (name : Name)
    (checked : checkPath path = .ok ()) (last : path.names.getLast? = some name)
    (parentLocated : tree.locateParent path = .ok parent) (stepped : step parent name = .ok place) :
    tree.locate path = .ok place ∧ tree.node? parent = some .directory := by
  obtain ⟨walked, housed⟩ := (locateParent_eq_ok _ _ _).mp parentLocated
  have names : path.names = path.names.dropLast ++ [name] := by
    obtain ⟨front, whole⟩ := List.getLast?_eq_some_iff.mp last
    rw [whole, List.dropLast_concat]
  rw [locate_eq_ok, names]
  exact ⟨⟨checked, (walk_concat_eq_ok _ _ _ _ _ _ walked).mpr ⟨housed, stepped⟩⟩, housed⟩

/-- Paths start from the same places in trees with the same current directory. -/
theorem start_of_current (before after : FileTree) (path : Path)
    (current : after.current = before.current) : after.start path = before.start path := by
  rw [FileTree.start, FileTree.start, current]

/-- A path leads to the same place where its directories and the current one are kept. -/
theorem locate_of_keeps (before after : FileTree) (kept : KeepsDirectories before after)
    (current : after.current = before.current) (path : Path) (place : Place)
    (located : before.locate path = .ok place) : after.locate path = .ok place := by
  obtain ⟨checked, walked⟩ := (locate_eq_ok _ _ _).mp located
  rw [locate_eq_ok, start_of_current before after path current]
  exact ⟨checked, walk_of_keeps before after kept _ _ _ walked⟩

/-- What a path finds, where it leads to a place. -/
theorem find_of_locate (tree : FileTree) (path : Path) (place : Place)
    (located : tree.locate path = .ok place) :
    tree.find path = match tree.node? place with
      | none => .error .notFound
      | some .directory => .ok (place, .directory)
      | some (.file serial contents) =>
        if path.endsInSeparator then .error .notDirectory else .ok (place, .file serial contents) := by
  rw [find, located]
  rfl

/-- What a path does not lead to is not found, for the same cause. -/
theorem find_of_locate_error (tree : FileTree) (path : Path) (cause : HostError)
    (lost : tree.locate path = .error cause) : tree.find path = .error cause := by
  rw [find, lost]
  rfl

/-- A path finds a directory exactly when it leads to one. -/
theorem find_eq_directory (tree : FileTree) (path : Path) (place : Place) :
    tree.find path = .ok (place, .directory) ↔
      tree.locate path = .ok place ∧ tree.node? place = some .directory := by
  cases located : tree.locate path with
  | error cause => simp [find_of_locate_error tree path cause located]
  | ok reached =>
    rw [find_of_locate tree path reached located]
    cases stands : tree.node? reached with
    | none =>
      simp only [reduceCtorEq, Except.ok.injEq, false_iff, not_and]
      rintro rfl
      simp [stands]
    | some node =>
      cases node with
      | directory =>
        simp only [Except.ok.injEq, Prod.mk.injEq, and_true]
        constructor
        · rintro rfl
          exact ⟨rfl, stands⟩
        · exact fun both => both.1
      | file serial contents =>
        dsimp only
        constructor
        · intro found
          split at found
          · simp at found
          · simp at found
        · rintro ⟨same, housed⟩
          obtain rfl := Except.ok.inj same
          simp [stands] at housed

/-- A path names a directory exactly when it leads to one. -/
theorem isDirectory_iff (tree : FileTree) (path : Path) :
    tree.isDirectory path = true ↔ ∃ place, tree.find path = .ok (place, .directory) := by
  unfold isDirectory stat
  cases found : tree.find path with
  | error cause => simp [Except.map]
  | ok entry =>
    obtain ⟨place, node⟩ := entry
    cases node with
    | directory => simp [Except.map]
    | file serial contents => simp [Except.map]

end FileTree

end DeviceParameters
