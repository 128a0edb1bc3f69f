import Mathlib.Data.List.Induction
import DeviceParameters.Proofs.Host.Parents
import DeviceParameters.Proofs.Host.Writing

/-!
# Making directories

Making a directory, alone or together with every missing one above it, puts directories where
nothing stood and changes nothing else, whether it succeeds or fails half way. So no file is lost
by it.

Where the new directories stand is told by the path, as long as it never goes up: every one of them
lies on the way to where the path leads. A path that does go up, such as `a/..`, can have a
directory made for it off that way, and can lead to a directory that was there before and is full.
-/

namespace DeviceParameters.FileTree

/-- The second tree is the first with directories where nothing stood, all of them at places that
are allowed. -/
structure GainsDirectories (before after : FileTree) (allowed : Place → Prop) : Prop where
  current : after.current = before.current
  each : ∀ place, after.node? place = before.node? place ∨
    before.node? place = none ∧ after.node? place = some .directory ∧ allowed place

namespace GainsDirectories

variable {before between after : FileTree} {allowed : Place → Prop}

theorem refl (tree : FileTree) : GainsDirectories tree tree allowed :=
  ⟨rfl, fun _ => Or.inl rfl⟩

theorem trans (front : GainsDirectories before between allowed)
    (back : GainsDirectories between after allowed) : GainsDirectories before after allowed := by
  refine ⟨back.current.trans front.current, fun place => ?_⟩
  rcases back.each place with same | ⟨vacant, made, admitted⟩
  · rw [same]
    exact front.each place
  · rcases front.each place with old | ⟨_, there, _⟩
    · exact Or.inr ⟨old ▸ vacant, made, admitted⟩
    · rw [vacant] at there
      cases there

/-- What stands in the first tree stands in the second. -/
theorem kept (gains : GainsDirectories before after allowed) (place : Place) (node : Node)
    (stands : before.node? place = some node) : after.node? place = some node := by
  rcases gains.each place with same | ⟨vacant, _, _⟩
  · rw [same, stands]
  · rw [vacant] at stands
    cases stands

/-- Where nothing stands in the first tree, at most a directory does in the second. -/
theorem made (gains : GainsDirectories before after allowed) (place : Place)
    (vacant : before.node? place = none) :
    after.node? place = none ∨ after.node? place = some .directory := by
  rcases gains.each place with same | ⟨_, made, _⟩
  · exact Or.inl (same.trans vacant)
  · exact Or.inr made

/-- The directories of the first tree are in the second. -/
theorem keepsDirectories (gains : GainsDirectories before after allowed) :
    KeepsDirectories before after :=
  fun place stands => gains.kept place .directory stands

/-- Both trees have the same files. -/
theorem file_iff (gains : GainsDirectories before after allowed) (place : Place) (serial : Nat)
    (contents : Bytes) :
    after.node? place = some (.file serial contents) ↔
      before.node? place = some (.file serial contents) := by
  rcases gains.each place with same | ⟨vacant, made, _⟩
  · rw [same]
  · simp [vacant, made]

end GainsDirectories

/-- Everything on the way to what stands somewhere is a directory. -/
theorem directory_of_begins (tree : FileTree) (front place : Place) (node : Node)
    (stands : tree.node? place = some node) (begins : front <+: place) (shorter : front ≠ place) :
    tree.node? front = some .directory := by
  obtain ⟨rest, rfl⟩ := begins
  induction rest using List.reverseRecOn generalizing node with
  | nil => exact absurd (List.append_nil front).symm shorter
  | append_singleton others name inductionHypothesis =>
    have housed := tree.parent_of_stands _ node (by simp) stands
    rw [← List.append_assoc, List.dropLast_concat] at housed
    by_cases last : front = front ++ others
    · rw [last]
      exact housed
    · exact inductionHypothesis .directory housed last

/-- Nothing stands below a vacant place. -/
theorem vacant_below (tree : FileTree) (front place : Place) (vacant : tree.node? front = none)
    (begins : front <+: place) : tree.node? place = none := by
  by_cases same : front = place
  · exact same ▸ vacant
  · cases stands : tree.node? place with
    | none => rfl
    | some node =>
      rw [directory_of_begins tree front place node stands begins same] at vacant
      cases vacant

/-- A directory is made where its path leads, which is a vacant place in a directory. -/
theorem makeDirectory_ok (tree made : FileTree) (path : Path)
    (done : tree.makeDirectory path = .ok made) :
    ∃ place, tree.locate path = .ok place ∧ tree.node? place = none ∧ tree.Accepts place ∧
      made = tree.putDirectory place := by
  obtain ⟨_, checked, named⟩ := (bind_eq_ok _ _ _).mp done
  split at named
  · cases named
  rename_i name last
  obtain ⟨parent, parentLocated, making⟩ := (bind_eq_ok _ _ _).mp named
  split at making
  · cases making
  obtain ⟨place, stepped, standing⟩ := (bind_eq_ok _ _ _).mp making
  split at standing
  · cases standing
  rename_i vacant
  obtain ⟨located, housed⟩ :=
    locate_of_locateParent tree path parent place name checked last parentLocated stepped
  have below := step_below tree parent place name housed stepped (by simp [vacant])
  refine ⟨place, located, vacant, ⟨by simp [below], ?_, by simp [vacant]⟩,
    (Except.ok.inj standing).symm⟩
  rw [below, List.dropLast_concat]
  exact housed

/-- Making a directory puts one where its path leads. -/
theorem gains_makeDirectory (tree made : FileTree) (path : Path) (allowed : Place → Prop)
    (leads : ∀ place, tree.locate path = .ok place → allowed place)
    (done : tree.makeDirectory path = .ok made) : GainsDirectories tree made allowed := by
  obtain ⟨place, located, vacant, accepted, rfl⟩ := makeDirectory_ok tree made path done
  refine ⟨current_put _ _ _, fun other => ?_⟩
  rw [putDirectory, node?_put tree place other .directory accepted]
  by_cases same : place = other
  · subst same
    exact Or.inr ⟨vacant, if_pos rfl, leads place located⟩
  · exact Or.inl (if_neg same)

/-- A directory that was made is found by its path. -/
theorem find_of_makeDirectory (tree made : FileTree) (path : Path)
    (done : tree.makeDirectory path = .ok made) :
    ∃ place, made.find path = .ok (place, .directory) := by
  have gains := gains_makeDirectory tree made path (fun _ => True) (fun _ _ => trivial) done
  obtain ⟨place, located, _, accepted, same⟩ := makeDirectory_ok tree made path done
  have leads := locate_of_keeps tree made gains.keepsDirectories gains.current path place located
  refine ⟨place, (find_eq_directory _ _ _).mpr ⟨leads, ?_⟩⟩
  rw [same, putDirectory, node?_put tree place place .directory accepted, if_pos rfl]

/-- Making the directories of a list puts some of them where their paths lead, also where it fails
half way. The tree is general in the induction, and the paths have to lead to allowed places
whatever was made before. -/
theorem gains_makeDirectories (allowed : Place → Prop) (paths : List Path) (tree : FileTree)
    (leads : ∀ path ∈ paths, ∀ now : FileTree, now.current = tree.current →
      ∀ place, now.locate path = .ok place → allowed place) :
    GainsDirectories tree (tree.makeDirectories paths).1 allowed := by
  induction paths with
  | nil => exact .refl tree
  | cons path above inductionHypothesis =>
    have first (now : FileTree) (same : now.current = tree.current) :=
      leads path List.mem_cons_self now same
    have others : GainsDirectories tree (tree.makeDirectories above).1 allowed :=
      inductionHypothesis fun other member => leads other (List.mem_cons_of_mem _ member)
    rw [makeDirectories]
    split
    · rename_i made done
      exact gains_makeDirectory tree made path allowed (first tree rfl) done
    · split
      · rename_i reached cause failed
        rwa [failed] at others
      · rename_i reached done
        rw [done] at others
        split
        · rename_i made last
          exact others.trans
            (gains_makeDirectory reached made path allowed (first reached others.current) last)
        · exact others
    · exact .refl tree

/-- Making a directory and all that is missing above it puts directories where the path and those
above it lead. -/
theorem gains_makeDirectoryAll (allowed : Place → Prop) (tree : FileTree) (path : Path)
    (leads : ∀ front ∈ path.ancestors, ∀ now : FileTree, now.current = tree.current →
      ∀ place, now.locate front = .ok place → allowed place) :
    GainsDirectories tree (tree.makeDirectoryAll path).1 allowed := by
  rw [makeDirectoryAll]
  split
  · exact .refl tree
  · exact gains_makeDirectories allowed path.ancestors tree leads

section Straight

/-- A walk that never goes up ends at its start followed by its names. -/
theorem walk_straight (tree : FileTree) (place reached : Place) (names : List Name)
    (straight : Path.above ∉ names) (walked : tree.walk place names = .ok reached) :
    reached = place ++ names.filter (· ≠ Path.here) := by
  induction names generalizing place with
  | nil =>
    obtain rfl := Except.ok.inj walked
    simp
  | cons name rest inductionHypothesis =>
    obtain ⟨different, later⟩ := not_or.mp fun either => straight (List.mem_cons.mpr either)
    obtain ⟨_, next, stepped, onward⟩ := (walk_cons_eq_ok _ _ _ _ _).mp walked
    rw [inductionHypothesis next later onward]
    rw [step] at stepped
    split at stepped
    · rename_i stays
      obtain rfl := Except.ok.inj stepped
      simp [stays]
    rename_i moves
    rw [if_neg (Ne.symm different)] at stepped
    split at stepped
    · cases stepped
    · obtain rfl := Except.ok.inj stepped
      simp [moves]

/-- A walk that never goes up can be made in every tree that has what stands at its end: all the
places on it are on the way there. If the walk stays at its end, that has to be a directory. -/
theorem walk_of_straight (tree other : FileTree) (place reached : Place) (names : List Name)
    (node : Node) (straight : Path.above ∉ names) (walked : other.walk place names = .ok reached)
    (stands : tree.node? reached = some node)
    (alike : other.node? reached = some .directory → tree.node? reached = some .directory) :
    tree.walk place names = .ok reached := by
  induction names generalizing place with
  | nil => exact walked
  | cons name rest inductionHypothesis =>
    have ends := walk_straight other place reached _ straight walked
    obtain ⟨passed, next, stepped, onward⟩ := (walk_cons_eq_ok _ _ _ _ _).mp walked
    have housed : tree.node? place = some .directory := by
      by_cases last : place = reached
      · rw [last] at passed ⊢
        exact alike passed
      · exact directory_of_begins tree place reached node stands ⟨_, ends.symm⟩ last
    exact (walk_cons_eq_ok _ _ _ _ _).mpr ⟨housed, next, stepped,
      inductionHypothesis next (fun later => straight (List.mem_cons_of_mem _ later)) onward⟩

variable (path : Path) (straight : Path.above ∉ path.names)

include straight

/-- A path that never goes up leads to the same place in every tree that has what stands there. If
the path stays at its end, that has to be a directory. -/
theorem locate_of_straight (tree other : FileTree) (place : Place) (node : Node)
    (current : other.current = tree.current) (located : other.locate path = .ok place)
    (stands : tree.node? place = some node)
    (alike : other.node? place = some .directory → tree.node? place = some .directory) :
    tree.locate path = .ok place := by
  obtain ⟨checked, walked⟩ := (locate_eq_ok _ _ _).mp located
  rw [start_of_current tree other path current] at walked
  exact (locate_eq_ok _ _ _).mpr
    ⟨checked, walk_of_straight tree other _ place _ node straight walked stands alike⟩

/-- What is above a path that never goes up leads to places on the way to where the path leads. -/
theorem begins_of_ancestor (front : Path) (above : front ∈ path.ancestors) (now after : FileTree)
    (current : now.current = after.current) (place reached : Place)
    (located : now.locate front = .ok place) (ended : after.locate path = .ok reached) :
    place <+: reached := by
  obtain ⟨_, frontWalked⟩ := (locate_eq_ok _ _ _).mp located
  obtain ⟨_, walked⟩ := (locate_eq_ok _ _ _).mp ended
  have whole := walk_straight after _ reached _ straight walked
  have start := start_of_current after now path current
  rcases Path.cut_of_ancestor path front above with rfl | ⟨left, right, cut⟩
  · have same := walk_straight now _ place _ straight frontWalked
    have together : reached = place := by rw [whole, same, start]
    exact together ▸ List.prefix_refl place
  · have names := cut.names
    have straightFront : Path.above ∉ front.names := by
      intro member
      apply straight
      rw [names]
      exact List.mem_append_left _ member
    have part := walk_straight now _ place _ straightFront frontWalked
    rw [whole, part, names, List.filter_append, ← cut.start now, start, ← List.append_assoc]
    exact List.prefix_append _ _

/-- What is made for a path that never goes up lies on the way to where the path leads. -/
theorem gains_of_straight (tree : FileTree) (place : Place)
    (located : (tree.makeDirectoryAll path).1.locate path = .ok place) :
    GainsDirectories tree (tree.makeDirectoryAll path).1 (· <+: place) := by
  have somewhere := gains_makeDirectoryAll (fun _ => True) tree path fun _ _ _ _ _ _ => trivial
  exact gains_makeDirectoryAll (· <+: place) tree path
    fun front above now same other frontLocated =>
      begins_of_ancestor path straight front above now _ (same.trans somewhere.current.symm)
        other place frontLocated located

/-- Where a path that never goes up finds a directory and found none before, nothing stood there.

Proof: if the place had been a directory before, the path would have led there. -/
theorem vacant_of_gains (tree made : FileTree) (allowed : Place → Prop) (place : Place)
    (gains : GainsDirectories tree made allowed) (missing : tree.isDirectory path = false)
    (found : made.find path = .ok (place, .directory)) : tree.node? place = none := by
  obtain ⟨located, stands⟩ := (find_eq_directory _ _ _).mp found
  cases before : tree.node? place with
  | none => rfl
  | some node =>
    rw [gains.kept place node before] at stands
    obtain rfl := Option.some.inj stands
    have led := locate_of_straight path straight tree made place _ gains.current located before
      fun _ => before
    have known : tree.isDirectory path = true :=
      (isDirectory_iff _ _).mpr ⟨place, (find_eq_directory _ _ _).mpr ⟨led, before⟩⟩
    rw [missing] at known
    cases known

/-- A directory that is made by a path that never goes up, where the path named none, is empty:
nothing stood in its place before, and what was made lies on the way to it. -/
theorem children_of_makeDirectoryAll (tree : FileTree) (place : Place)
    (missing : tree.isDirectory path = false)
    (found : (tree.makeDirectoryAll path).1.find path = .ok (place, .directory)) :
    (tree.makeDirectoryAll path).1.children place = [] := by
  have gains := gains_of_straight path straight tree place ((find_eq_directory _ _ _).mp found).1
  have vacant := vacant_of_gains path straight tree _ _ place gains missing found
  refine (children_eq_nil_iff _ _).mpr fun name => ?_
  rcases gains.each (place ++ [name]) with same | ⟨_, _, begins⟩
  · rw [same, tree.vacant_below place _ vacant (List.prefix_append _ _)]
  · exact absurd begins.length_le (by simp)

end Straight

end DeviceParameters.FileTree
