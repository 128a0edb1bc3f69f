import Mathlib.Data.List.Induction
import DeviceParameters.Proofs.Host.Entries
import DeviceParameters.Proofs.Host.Making

/-!
# New entries of a directory

A directory is found by the absolute path that spells its place, as long as that path is not too
long. What is joined to it and does not stand yet can be made: a directory with one request, also
by the request that makes everything above it.
-/

namespace DeviceParameters

namespace Path

/-- The absolute path of a place is made by joining its names one after the other. The induction
is on the last name, since it tells that the path so far does not end in a separator. -/
theorem build_concat (directory : Place) (name : Name)
    (named : ∀ other ∈ directory, IsEntryName other) (entry : IsEntryName name) :
    build true (directory ++ [name]) = (build true directory).join ⟨name⟩ := by
  have something (place : Place) : (build true place).bytes ≠ [] := List.cons_ne_nil _ _
  have bytes : (build true (directory ++ [name])).bytes =
      ((build true directory).join ⟨name⟩).bytes := by
    induction directory using List.reverseRecOn generalizing name with
    | nil =>
      have ends : (build true []).endsInSeparator = true := rfl
      rw [bytes_join _ _ (something _) entry, ends]
      simp [build]
    | append_singleton front last inductionHypothesis =>
      have others : ∀ other ∈ front, IsEntryName other := fun other member =>
        named other (List.mem_append_left _ member)
      have lastEntry : IsEntryName last := named last (List.mem_append_right _ List.mem_cons_self)
      have shape : build true (front ++ [last]) = (build true front).join ⟨last⟩ :=
        congrArg Path.mk (inductionHypothesis last others lastEntry)
      have plain : (build true (front ++ [last])).endsInSeparator = false := by
        rw [shape]
        exact endsInSeparator_join _ _ (something _) lastEntry
      have joined := intercalate_append (front ++ [last]) [name] (by simp) (List.cons_ne_nil _ _)
      rw [bytes_join _ _ (something _) entry, plain]
      simp only [build, joined]
      simp
  exact congrArg Path.mk bytes

/-- A joined path has something above it. -/
theorem parent?_join (directory : Path) (name : Name) (something : directory.bytes ≠ [])
    (entry : IsEntryName name) : ∃ parent, (directory.join ⟨name⟩).parent? = some parent := by
  refine parent?_of_mem_names _ name ?_ entry.notHere
  rw [names_join directory name something entry]
  exact List.mem_append_right _ List.mem_cons_self

end Path

namespace FileTree

variable (tree : FileTree) (place : Place)

/-- A directory is found by the absolute path of its place. -/
theorem find_build (named : ∀ name ∈ place, Path.IsEntryName name)
    (stands : tree.node? place = some .directory)
    (short : (Path.build true place).bytes.length < pathLimit) :
    tree.find (.build true place) = .ok (place, .directory) := by
  induction place using List.reverseRecOn with
  | nil => rfl
  | append_singleton front name inductionHypothesis =>
    have others : ∀ other ∈ front, Path.IsEntryName other := fun other member =>
      named other (List.mem_append_left _ member)
    have entry : Path.IsEntryName name := named name (List.mem_append_right _ List.mem_cons_self)
    have housed := parent_of_directory tree _ stands
    rw [List.dropLast_concat] at housed
    have shape := Path.build_concat front name others entry
    have something : (Path.build true front).bytes ≠ [] := List.cons_ne_nil _ _
    have longer : (Path.build true front).bytes.length <
        ((Path.build true front).join ⟨name⟩).bytes.length := by
      have size := List.length_pos_iff.mpr entry.something
      rw [Path.bytes_join _ _ something entry, List.length_append, List.length_append]
      omega
    rw [shape] at short ⊢
    have found := inductionHypothesis others housed (Nat.lt_trans longer short)
    refine (find_eq_directory _ _ _).mpr ⟨?_, stands⟩
    exact locate_join_of_short tree _ front name found entry (Nat.not_le_of_lt short)

variable (directory : Path) (name : Name) (found : tree.find directory = .ok (place, .directory))
  (entry : Path.IsEntryName name)
  (short : ¬ pathLimit ≤ (directory.join ⟨name⟩).bytes.length)
  (vacant : tree.node? (place ++ [name]) = none)

include found entry short vacant

/-- Nothing is found at a vacant entry of a directory. -/
theorem find_join_of_vacant : tree.find (directory.join ⟨name⟩) = .error .notFound := by
  have joined := locate_join_of_short tree directory place name found entry short
  rw [find_of_locate tree _ _ joined, vacant]

/-- A vacant entry of a directory can be made a directory. -/
theorem makeDirectory_join :
    tree.makeDirectory (directory.join ⟨name⟩) = .ok (tree.putDirectory (place ++ [name])) := by
  have something := bytes_ne_nil_of_directory tree directory place found
  have joined := locate_join_of_short tree directory place name found entry short
  apply makeDirectory_of_locate tree _ _ name _ entry.notHere entry.notAbove joined vacant
  rw [Path.names_join directory name something entry, List.getLast?_concat]

/-- A vacant entry of a directory is made a directory, with nothing to be made above it. -/
theorem makeDirectoryAll_join :
    tree.makeDirectoryAll (directory.join ⟨name⟩) =
      (tree.putDirectory (place ++ [name]), .ok ()) := by
  have something := bytes_ne_nil_of_directory tree directory place found
  obtain ⟨parent, above⟩ := Path.parent?_join directory name something entry
  exact makeDirectoryAll_of_makeDirectory tree _ parent _ above
    (makeDirectory_join tree place directory name found entry short vacant)

/-- An entry that was made a directory is one. -/
theorem isDirectory_putDirectory :
    (tree.putDirectory (place ++ [name])).isDirectory (directory.join ⟨name⟩) = true := by
  obtain ⟨made, found⟩ := find_of_makeDirectory tree _ _
    (makeDirectory_join tree place directory name found entry short vacant)
  exact (isDirectory_iff _ _).mpr ⟨made, found⟩

end FileTree

end DeviceParameters
