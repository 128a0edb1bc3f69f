import DeviceParameters.Host.Path

/-!
# The file tree

The host's files as one value: a finite map from places to directories and files. A place
is the list of names from the top; the top itself is a directory and is not in the map.

Two invariants are part of the type. A place occurs once, and everything stands in a
directory. They make a listing exact: what a directory lists is what can be found in it,
and a place that is vacant has nothing below it.

A file has a serial number, by which an open file is known after its name is gone. The
contents of such a file move to the detached ones when its name is removed.

This is the boundary of what is said of the host here. It is a POSIX host with directories and
regular files only: there are no links of either kind, no permissions, no special files, no
times, and no other file system that comes into the way. What a theorem says of all trees, it
says of all trees of this kind.
-/

namespace DeviceParameters

/-- Where something stands: the names from the top. -/
abbrev Place := List Name

/-- What stands at a place. -/
inductive Node where
  | directory
  | file (serial : Nat) (contents : Bytes)
  deriving DecidableEq

namespace Node

/-- The contents of a file. -/
def contents? : Node → Option Bytes
  | .directory => none
  | .file _ contents => some contents

end Node

/-- Places and what stands there. -/
abbrev Nodes := List (Place × Node)

namespace Nodes

/-- What stands at a place. -/
def find? (place : Place) : Nodes → Option Node
  | [] => none
  | (other, node) :: rest => if other = place then some node else find? place rest

/-- Put a node at a place, in the stead of what stood there. -/
def put (place : Place) (node : Node) : Nodes → Nodes
  | [] => [(place, node)]
  | (other, old) :: rest =>
    if other = place then (place, node) :: rest else (other, old) :: put place node rest

/-- Everything but what satisfies `isGone`. -/
def drop (isGone : Place → Bool) (nodes : Nodes) : Nodes :=
  nodes.filter fun entry => !isGone entry.1

/-- A place occurs once. -/
def Distinct (nodes : Nodes) : Prop := (nodes.map Prod.fst).Nodup

/-- Everything stands in a directory, and nothing stands at the top itself. -/
def Rooted (nodes : Nodes) : Prop :=
  ∀ entry ∈ nodes, entry.1 ≠ [] ∧
    (entry.1.dropLast = [] ∨ (entry.1.dropLast, Node.directory) ∈ nodes)

theorem find?_put (place other : Place) (node : Node) (nodes : Nodes) :
    find? other (put place node nodes) =
      if place = other then some node else find? other nodes := by
  induction nodes with
  | nil => simp [put, find?]
  | cons entry rest inductionHypothesis =>
    obtain ⟨first, old⟩ := entry
    by_cases same : first = place
    · subst same
      by_cases asked : first = other <;> simp [put, find?, asked]
    · by_cases asked : first = other
      · subst asked
        simp [put, find?, same, Ne.symm same]
      · simp [put, find?, same, asked, inductionHypothesis]

theorem find?_drop (isGone : Place → Bool) (place : Place) (nodes : Nodes) :
    find? place (drop isGone nodes) = if isGone place then none else find? place nodes := by
  induction nodes with
  | nil => simp [drop, find?]
  | cons entry rest inductionHypothesis =>
    obtain ⟨first, node⟩ := entry
    unfold drop at inductionHypothesis ⊢
    by_cases gone : isGone first = true
    · by_cases same : first = place
      · subst same
        simpa [find?, gone] using inductionHypothesis
      · simpa [find?, gone, same] using inductionHypothesis
    · by_cases same : first = place
      · subst same
        simp [find?, gone]
      · simpa [find?, gone, same] using inductionHypothesis

/-- What is found is in the map. -/
theorem mem_of_find? {place : Place} {node : Node} {nodes : Nodes}
    (found : find? place nodes = some node) : (place, node) ∈ nodes := by
  induction nodes with
  | nil => simp [find?] at found
  | cons entry rest inductionHypothesis =>
    obtain ⟨first, old⟩ := entry
    by_cases same : first = place
    · subst same
      have equal : old = node := by simpa [find?] using found
      simp [equal]
    · exact List.mem_cons_of_mem _ (inductionHypothesis (by simpa [find?, same] using found))

/-- Where a place occurs once, what is in the map is found. -/
theorem find?_of_mem {place : Place} {node : Node} {nodes : Nodes}
    (distinct : Distinct nodes) (member : (place, node) ∈ nodes) :
    find? place nodes = some node := by
  induction nodes with
  | nil => simp at member
  | cons entry rest inductionHypothesis =>
    obtain ⟨first, old⟩ := entry
    have apart : first ∉ rest.map Prod.fst ∧ Distinct rest := by
      simpa [Distinct, List.nodup_cons] using distinct
    rcases List.mem_cons.mp member with same | later
    · obtain ⟨rfl, rfl⟩ := Prod.mk.inj same
      simp [find?]
    · have different : first ≠ place := by
        intro same
        exact apart.1 (same ▸ List.mem_map.mpr ⟨_, later, rfl⟩)
      simpa [find?, different] using inductionHypothesis apart.2 later

theorem mem_put {place : Place} {node : Node} {nodes : Nodes} {entry : Place × Node}
    (member : entry ∈ put place node nodes) : entry = (place, node) ∨ entry ∈ nodes := by
  induction nodes with
  | nil => exact Or.inl (by simpa [put] using member)
  | cons head rest inductionHypothesis =>
    obtain ⟨first, old⟩ := head
    by_cases same : first = place
    · rcases (by simpa [put, same] using member : entry = (place, node) ∨ entry ∈ rest) with h | h
      · exact Or.inl h
      · exact Or.inr (List.mem_cons_of_mem _ h)
    · rcases (by simpa [put, same] using member :
        entry = (first, old) ∨ entry ∈ put place node rest) with h | h
      · exact Or.inr (by simp [h])
      · exact (inductionHypothesis h).imp_right (List.mem_cons_of_mem _)

/-- Entries at other places stay. -/
theorem mem_put_of_mem {place : Place} {node : Node} {nodes : Nodes} {entry : Place × Node}
    (member : entry ∈ nodes) (elsewhere : entry.1 ≠ place) : entry ∈ put place node nodes := by
  induction nodes with
  | nil => simp at member
  | cons head rest inductionHypothesis =>
    obtain ⟨first, old⟩ := head
    rcases List.mem_cons.mp member with same | later
    · subst same
      have different : first ≠ place := elsewhere
      simp [put, different]
    · by_cases same : first = place
      · simp [put, same, later]
      · simp [put, same, inductionHypothesis later]

theorem put_distinct {place : Place} {node : Node} {nodes : Nodes}
    (distinct : Distinct nodes) : Distinct (put place node nodes) := by
  induction nodes with
  | nil => simp [Distinct, put]
  | cons head rest inductionHypothesis =>
    obtain ⟨first, old⟩ := head
    have apart : first ∉ rest.map Prod.fst ∧ Distinct rest := by
      simpa [Distinct, List.nodup_cons] using distinct
    by_cases same : first = place
    · subst same
      simpa [Distinct, put, List.nodup_cons] using apart
    · have later : Distinct (put place node rest) := inductionHypothesis apart.2
      have absent : first ∉ (put place node rest).map Prod.fst := by
        intro present
        obtain ⟨entry, member, rfl⟩ := List.mem_map.mp present
        rcases mem_put member with h | h
        · exact same (by rw [h])
        · exact apart.1 (List.mem_map.mpr ⟨entry, h, rfl⟩)
      simpa [Distinct, put, same, List.nodup_cons] using And.intro absent later

theorem drop_distinct {isGone : Place → Bool} {nodes : Nodes}
    (distinct : Distinct nodes) : Distinct (drop isGone nodes) :=
  List.Nodup.sublist (List.filter_sublist.map Prod.fst) distinct

/-- A node may stand in a directory, where no directory stands already. -/
theorem put_rooted {place : Place} {node : Node} {nodes : Nodes} (distinct : Distinct nodes)
    (rooted : Rooted nodes) (below : place ≠ [])
    (housed : place.dropLast = [] ∨ find? place.dropLast nodes = some .directory)
    (free : find? place nodes ≠ some .directory) : Rooted (put place node nodes) := by
  have survives (holder : Place) (member : (holder, Node.directory) ∈ nodes) :
      (holder, Node.directory) ∈ put place node nodes := by
    refine mem_put_of_mem member ?_
    intro same
    exact free (same ▸ find?_of_mem distinct member)
  intro entry member
  rcases mem_put member with rfl | old
  · exact ⟨below, housed.imp_right fun found => survives _ (mem_of_find? found)⟩
  · exact ⟨(rooted entry old).1, (rooted entry old).2.imp_right (survives _)⟩

/-- Whole subtrees may go: with a directory goes everything in it. -/
theorem drop_rooted {isGone : Place → Bool} {nodes : Nodes} (rooted : Rooted nodes)
    (whole : ∀ place, isGone place.dropLast = true → isGone place = true) :
    Rooted (drop isGone nodes) := by
  intro entry member
  obtain ⟨old, kept⟩ := List.mem_filter.mp member
  refine ⟨(rooted entry old).1, (rooted entry old).2.imp_right fun holder => ?_⟩
  refine List.mem_filter.mpr ⟨holder, ?_⟩
  cases gone : isGone entry.1.dropLast with
  | false => rfl
  | true => simp [whole entry.1 gone] at kept

end Nodes

/-- The host's files. -/
structure FileTree where
  /-- Every directory but the top, and every file. -/
  nodes : Nodes
  /-- Where relative paths start. -/
  current : Place
  /-- The serial number of the next file that is created. -/
  nextSerial : Nat
  /-- The contents of files whose names are gone, by serial number. -/
  detached : List (Nat × Bytes)
  distinct : nodes.Distinct
  rooted : nodes.Rooted

/-- A file that was opened: where its name stood and its serial number. -/
structure FileHandle where
  place : Place
  serial : Nat
  deriving DecidableEq

namespace FileTree

/-- What stands at a place; the top is a directory. -/
def node? (tree : FileTree) (place : Place) : Option Node :=
  if place = [] then some .directory else tree.nodes.find? place

/-- A tree with nothing in it, current at the top. -/
def empty : FileTree where
  nodes := []
  current := []
  nextSerial := 0
  detached := []
  distinct := List.nodup_nil
  rooted := by intro entry member; simp at member

/-- A tree that holds one empty directory, which is the current one. -/
def fresh (name : Name) : FileTree where
  nodes := [([name], .directory)]
  current := [name]
  nextSerial := 0
  detached := []
  distinct := by simp [Nodes.Distinct]
  rooted := by intro entry member; simp_all

/-- Whether a node may be put at a place: it lies in a directory, and no directory stands
there already. -/
def Accepts (tree : FileTree) (place : Place) : Prop :=
  place ≠ [] ∧ tree.node? place.dropLast = some .directory ∧
    tree.node? place ≠ some .directory

instance (tree : FileTree) (place : Place) : Decidable (tree.Accepts place) := by
  unfold Accepts; infer_instance

/-- Put a node at a place that accepts one; other places accept nothing. -/
def put (tree : FileTree) (place : Place) (node : Node) : FileTree :=
  if accepted : tree.Accepts place then
    { tree with
      nodes := tree.nodes.put place node
      distinct := Nodes.put_distinct tree.distinct
      rooted := by
        obtain ⟨below, housed, free⟩ := accepted
        refine Nodes.put_rooted tree.distinct tree.rooted below ?_ (by simpa [node?, below] using free)
        by_cases top : place.dropLast = []
        · exact Or.inl top
        · exact Or.inr (by simpa [node?, top] using housed) }
  else tree

/-- Make a directory. -/
def putDirectory (tree : FileTree) (place : Place) : FileTree := tree.put place .directory

/-- Make a file, under a serial number of its own. -/
def putFile (tree : FileTree) (place : Place) (contents : Bytes) : FileTree :=
  { tree.put place (.file tree.nextSerial contents) with nextSerial := tree.nextSerial + 1 }

/-- The files at the places that satisfy `isGone`, by serial number. -/
def filesAt (tree : FileTree) (isGone : Place → Bool) : List (Nat × Bytes) :=
  tree.nodes.filterMap fun entry =>
    match entry.2 with
    | .directory => none
    | .file serial contents => if isGone entry.1 then some (serial, contents) else none

/-- Remove what stands at a place and everything below it. -/
def remove (tree : FileTree) (place : Place) : FileTree :=
  { tree with
    nodes := tree.nodes.drop (place.isPrefixOf ·)
    detached := tree.filesAt (place.isPrefixOf ·) ++ tree.detached
    distinct := Nodes.drop_distinct tree.distinct
    rooted := by
      refine Nodes.drop_rooted tree.rooted fun other gone => ?_
      rw [List.isPrefixOf_iff_prefix] at gone ⊢
      exact gone.trans (List.dropLast_prefix other) }

/-- Remove everything below a place, but not what stands there. -/
def removeBelow (tree : FileTree) (place : Place) : FileTree :=
  { tree with
    nodes := tree.nodes.drop fun other => place.isPrefixOf other && other != place
    detached := tree.filesAt (fun other => place.isPrefixOf other && other != place) ++ tree.detached
    distinct := Nodes.drop_distinct tree.distinct
    rooted := by
      refine Nodes.drop_rooted tree.rooted fun other gone => ?_
      simp only [Bool.and_eq_true, bne_iff_ne, List.isPrefixOf_iff_prefix] at gone ⊢
      refine ⟨gone.1.trans (List.dropLast_prefix other), ?_⟩
      rintro rfl
      exact gone.2 (gone.1.eq_of_length_le (by simp)).symm }

/-- The contents behind a handle: of the file that still has its name, or of the detached
one. -/
def contents (tree : FileTree) (handle : FileHandle) : Bytes :=
  match tree.node? handle.place with
  | some (.file serial contents) =>
    if serial = handle.serial then contents else (tree.detached.lookup handle.serial).getD []
  | _ => (tree.detached.lookup handle.serial).getD []

/-- Replace the contents behind a handle. -/
def setContents (tree : FileTree) (handle : FileHandle) (contents : Bytes) : FileTree :=
  match tree.node? handle.place with
  | some (.file serial _) =>
    if serial = handle.serial then tree.put handle.place (.file serial contents)
    else { tree with detached := (handle.serial, contents) :: tree.detached }
  | _ => { tree with detached := (handle.serial, contents) :: tree.detached }

/-- What stands directly in a directory, by name. -/
def children (tree : FileTree) (place : Place) : List (Name × Node) :=
  tree.nodes.filterMap fun entry =>
    match entry.1.getLast? with
    | some name => if entry.1.dropLast = place then some (name, entry.2) else none
    | none => none

/-- Everything below a place, by the names that lead there from it. -/
def descendants (tree : FileTree) (place : Place) : List (Place × Node) :=
  tree.nodes.filterMap fun entry =>
    if place.isPrefixOf entry.1 ∧ entry.1 ≠ place then
      some (entry.1.drop place.length, entry.2)
    else none

/-- A put changes what stands at its place and nothing else. -/
theorem node?_put (tree : FileTree) (place other : Place) (node : Node)
    (accepted : tree.Accepts place) :
    (tree.put place node).node? other = if place = other then some node else tree.node? other := by
  have below : place ≠ [] := accepted.1
  unfold put node?
  simp only [accepted, dite_true, Nodes.find?_put]
  by_cases top : other = []
  · subst top
    simp [below]
  · simp [top]

/-- A refused put changes nothing. -/
theorem put_of_not_accepts (tree : FileTree) (place : Place) (node : Node)
    (refused : ¬tree.Accepts place) : tree.put place node = tree := by
  simp [put, refused]

/-- A removal takes exactly the subtree. -/
theorem node?_remove (tree : FileTree) (place other : Place) (below : place ≠ []) :
    (tree.remove place).node? other =
      if place <+: other then none else tree.node? other := by
  unfold remove node?
  simp only [Nodes.find?_drop, List.isPrefixOf_iff_prefix]
  by_cases top : other = []
  · subst top
    simp [below]
  · simp [top]

/-- What a directory lists is what is found in it. -/
theorem mem_children (tree : FileTree) (place : Place) (name : Name) (node : Node) :
    (name, node) ∈ tree.children place ↔ tree.node? (place ++ [name]) = some node := by
  constructor
  · intro listed
    obtain ⟨⟨other, found⟩, member, accepted⟩ := List.mem_filterMap.mp listed
    cases last : other.getLast? with
    | none => simp [last] at accepted
    | some final =>
      simp only [last] at accepted
      split at accepted
      · rename_i housed
        obtain ⟨rfl, rfl⟩ := Prod.mk.inj (Option.some.inj accepted)
        have whole : place ++ [final] = other := by
          obtain ⟨front, rfl⟩ := List.getLast?_eq_some_iff.mp last
          simpa using housed.symm
        rw [whole]
        have below : other ≠ [] := (tree.rooted _ member).1
        simpa [node?, below] using Nodes.find?_of_mem tree.distinct member
      · simp at accepted
  · intro found
    refine List.mem_filterMap.mpr ⟨(place ++ [name], node), ?_, by simp⟩
    exact Nodes.mem_of_find? (by simpa [node?] using found)

/-- A place where a file stands accepts another node. -/
theorem accepts_of_file {tree : FileTree} {place : Place} {serial : Nat} {contents : Bytes}
    (stands : tree.node? place = some (.file serial contents)) : tree.Accepts place := by
  have below : place ≠ [] := by
    rintro rfl
    simp [node?] at stands
  refine ⟨below, ?_, by simp [stands]⟩
  have member : (place, Node.file serial contents) ∈ tree.nodes :=
    Nodes.mem_of_find? (by simpa [node?, below] using stands)
  rcases (tree.rooted _ member).2 with top | holder
  · simp [node?, show place.dropLast = [] from top]
  · by_cases top : place.dropLast = []
    · simp [node?, top]
    · simpa [node?, top] using Nodes.find?_of_mem tree.distinct holder

/-- A file that still has its name is replaced under it; no other place is touched. -/
theorem node?_setContents (tree : FileTree) (handle : FileHandle) (contents : Bytes)
    (other : Place) (elsewhere : other ≠ handle.place) :
    (tree.setContents handle contents).node? other = tree.node? other := by
  unfold setContents
  split
  · rename_i serial old stands
    split
    · rw [node?_put _ _ _ _ (accepts_of_file stands), if_neg elsewhere.symm]
    · rfl
  · rfl

/-- What was put behind a handle is what is read through it, whether or not the file still
has its name. -/
theorem contents_setContents (tree : FileTree) (handle : FileHandle) (contents : Bytes) :
    (tree.setContents handle contents).contents handle = contents := by
  unfold setContents
  split
  · rename_i serial old stands
    split
    · rename_i same
      have found := node?_put tree handle.place handle.place (.file serial contents)
        (accepts_of_file stands)
      simp only [if_true] at found
      unfold FileTree.contents
      rw [found]
      simp [same]
    · rename_i other
      have kept : ({ tree with detached := (handle.serial, contents) :: tree.detached } :
          FileTree).node? handle.place = some (.file serial old) := stands
      simp [FileTree.contents, kept, other]
  · rename_i missing
    have kept : ({ tree with detached := (handle.serial, contents) :: tree.detached } :
        FileTree).node? handle.place = tree.node? handle.place := rfl
    unfold FileTree.contents
    rw [kept]
    split
    · rename_i serial old stands
      exact absurd stands (missing serial old)
    · simp

end FileTree

end DeviceParameters
