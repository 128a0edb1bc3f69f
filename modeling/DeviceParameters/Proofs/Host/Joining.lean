import DeviceParameters.Proofs.Host.Walks

/-!
# Joining a name to a directory

A path made of a directory and one plain name is walked as the directory and then that name,
however the directory is written: relative or absolute, with or without a separator at its end.
So where the directory is found the joined path leads to the entry of that name in it, unless
the path as a whole is too long to be walked.
-/

namespace DeviceParameters

namespace Path

/-- A name that is one entry of a directory: it is not empty, has neither a separator nor a
zero byte, is not one of the names that move, and is not too long. -/
structure IsEntryName (name : Name) : Prop where
  something : name ≠ []
  undivided : separator ∉ name
  whole : 0 ∉ name
  notHere : name ≠ here
  notAbove : name ≠ above
  short : name.length ≤ FileTree.maximumName

theorem pieces_ne_nil (bytes : Bytes) : pieces bytes ≠ [] := by
  cases bytes with
  | nil => simp [pieces]
  | cons byte rest =>
    rw [pieces]
    split
    · simp
    · split
      · simp
      · simp

/-- A separator cuts a path into the pieces before it and those behind it. -/
theorem pieces_append_separator (front back : Bytes) :
    pieces (front ++ separator :: back) = pieces front ++ pieces back := by
  induction front with
  | nil => simp [pieces]
  | cons byte rest inductionHypothesis =>
    by_cases cut : byte = separator
    · simp [pieces, cut, inductionHypothesis]
    · obtain ⟨piece, others, first⟩ := List.exists_cons_of_ne_nil (pieces_ne_nil rest)
      simp [pieces, cut, inductionHypothesis, first]

/-- Without a separator there is one piece. -/
theorem pieces_of_undivided (bytes : Bytes) (undivided : separator ∉ bytes) :
    pieces bytes = [bytes] := by
  induction bytes with
  | nil => rfl
  | cons byte rest inductionHypothesis =>
    obtain ⟨different, later⟩ := not_or.mp (fun either => undivided (List.mem_cons.mpr either))
    simp [pieces, Ne.symm different, inductionHypothesis later]

/-- Without a separator a path neither starts nor ends with one. -/
theorem relative_of_undivided (name : Name) (undivided : separator ∉ name) :
    (⟨name⟩ : Path).isAbsolute = false ∧ (⟨name⟩ : Path).endsInSeparator = false := by
  constructor
  · apply Bool.eq_false_iff.mpr
    intro absolute
    exact undivided (List.mem_of_mem_head? (by simpa [isAbsolute] using absolute))
  · apply Bool.eq_false_iff.mpr
    intro ends
    exact undivided (List.mem_of_getLast? (by simpa [endsInSeparator] using ends))

variable (directory : Path) (name : Name)

/-- The bytes of a joined path: one separator stands between the parts. -/
theorem bytes_join (something : directory.bytes ≠ []) (entry : IsEntryName name) :
    (directory.join ⟨name⟩).bytes =
      directory.bytes ++ ((if directory.endsInSeparator then [] else [separator]) ++ name) := by
  have relative : ¬ (⟨name⟩ : Path).isAbsolute = true :=
    Bool.eq_false_iff.mp (relative_of_undivided name entry.undivided).1
  rw [join, if_neg relative]
  by_cases ends : directory.endsInSeparator = true
  · simp [ends]
  · simp [ends, something]

/-- The last piece of a joined path is the name, and the others have the names of the directory. -/
theorem pieces_join (something : directory.bytes ≠ []) (entry : IsEntryName name) :
    ∃ front, pieces (directory.join ⟨name⟩).bytes = front ++ [name] ∧
      front.filter (· ≠ []) = directory.names := by
  rw [bytes_join directory name something entry, names]
  by_cases ends : directory.endsInSeparator = true
  · have final : directory.bytes.getLast? = some separator := by
      simpa [endsInSeparator] using ends
    obtain ⟨front, whole⟩ := List.getLast?_eq_some_iff.mp final
    have joined : front ++ [separator] ++ ((if true then [] else [separator]) ++ name) =
        front ++ separator :: name := by simp
    have opened : pieces (front ++ [separator]) = pieces front ++ [[]] :=
      pieces_append_separator front []
    refine ⟨pieces front, ?_, ?_⟩
    · rw [ends, whole, joined, pieces_append_separator, pieces_of_undivided name entry.undivided]
    · rw [whole, opened, List.filter_append]
      simp
  · refine ⟨pieces directory.bytes, ?_, rfl⟩
    rw [if_neg ends, List.singleton_append, pieces_append_separator,
      pieces_of_undivided name entry.undivided]

/-- The names along a joined path are those of the directory and the one name. -/
theorem names_join (something : directory.bytes ≠ []) (entry : IsEntryName name) :
    (directory.join ⟨name⟩).names = directory.names ++ [name] := by
  obtain ⟨front, whole, others⟩ := pieces_join directory name something entry
  rw [names, whole, List.filter_append, others]
  simp [entry.something]

/-- A joined path starts where its directory does. -/
theorem isAbsolute_join (something : directory.bytes ≠ []) (entry : IsEntryName name) :
    (directory.join ⟨name⟩).isAbsolute = directory.isAbsolute := by
  obtain ⟨first, rest, whole⟩ := List.exists_cons_of_ne_nil something
  rw [isAbsolute, isAbsolute, bytes_join directory name something entry, whole]
  rfl

/-- A joined path does not ask for a directory. -/
theorem endsInSeparator_join (something : directory.bytes ≠ []) (entry : IsEntryName name) :
    (directory.join ⟨name⟩).endsInSeparator = false := by
  have final : (directory.join ⟨name⟩).bytes.getLast? = name.getLast? := by
    rw [bytes_join directory name something entry, ← List.append_assoc, List.getLast?_append,
      List.getLast?_eq_some_getLast entry.something]
    rfl
  rw [endsInSeparator, final]
  exact (relative_of_undivided name entry.undivided).2

end Path

namespace FileTree

/-- A path is walked exactly when it has no zero byte, is not empty and is not too long. -/
theorem checkPath_eq_ok (path : Path) (done : Unit) :
    checkPath path = .ok done ↔ 0 ∉ path.bytes ∧ path.bytes ≠ [] ∧ path.bytes.length < pathLimit := by
  rw [checkPath]
  split
  · rename_i zero
    simp [zero]
  split
  · rename_i zero empty
    simp [empty]
  split
  · rename_i zero something long
    simp [Nat.not_lt_of_le long]
  · rename_i zero something short
    simp [zero, something, Nat.lt_of_not_le short]

/-- A path that finds anything is not empty. -/
theorem bytes_ne_nil_of_locate (tree : FileTree) (path : Path) (place : Place)
    (located : tree.locate path = .ok place) : path.bytes ≠ [] := by
  obtain ⟨checked, _⟩ := (locate_eq_ok _ _ _).mp located
  exact ((checkPath_eq_ok _ _).mp checked).2.1

/-- A path that finds a directory is not empty. -/
theorem bytes_ne_nil_of_directory (tree : FileTree) (path : Path) (place : Place)
    (found : tree.find path = .ok (place, .directory)) : path.bytes ≠ [] :=
  bytes_ne_nil_of_locate tree path place ((find_eq_directory _ _ _).mp found).1

/-- A joined path is walked from where its directory is walked from. -/
theorem start_join (tree : FileTree) (directory : Path) (name : Name)
    (something : directory.bytes ≠ []) (entry : Path.IsEntryName name) :
    tree.start (directory.join ⟨name⟩) = tree.start directory := by
  rw [FileTree.start, FileTree.start, Path.isAbsolute_join directory name something entry]

/-- An entry name leads one step down. -/
theorem step_of_isEntryName (place : Place) (name : Name) (entry : Path.IsEntryName name) :
    step place name = .ok (place ++ [name]) := by
  rw [step, if_neg entry.notHere, if_neg entry.notAbove, if_neg (Nat.not_lt_of_le entry.short)]

/-- From a directory that is found, a joined name leads to the entry of that name, unless the
whole path is too long. -/
theorem locate_join (tree : FileTree) (directory : Path) (place : Place) (name : Name)
    (found : tree.find directory = .ok (place, .directory)) (entry : Path.IsEntryName name) :
    tree.locate (directory.join ⟨name⟩) =
      if pathLimit ≤ (directory.join ⟨name⟩).bytes.length then .error .nameTooLong
      else .ok (place ++ [name]) := by
  obtain ⟨located, housed⟩ := (find_eq_directory _ _ _).mp found
  obtain ⟨checked, walked⟩ := (locate_eq_ok _ _ _).mp located
  obtain ⟨whole, something, _⟩ := (checkPath_eq_ok _ _).mp checked
  have noZero : 0 ∉ (directory.join ⟨name⟩).bytes := by
    rw [Path.bytes_join directory name something entry]
    simp only [List.mem_append, not_or]
    refine ⟨whole, ?_, entry.whole⟩
    split
    · simp
    · decide
  have nonempty : (directory.join ⟨name⟩).bytes ≠ [] := by
    rw [Path.bytes_join directory name something entry]
    simp [something]
  by_cases long : pathLimit ≤ (directory.join ⟨name⟩).bytes.length
  · have refused : checkPath (directory.join ⟨name⟩) = .error .nameTooLong := by
      rw [checkPath, if_neg noZero, if_neg nonempty, if_pos long]
    rw [if_pos long, locate, refused]
    rfl
  · rw [if_neg long, locate_eq_ok]
    refine ⟨(checkPath_eq_ok _ _).mpr ⟨noZero, nonempty, Nat.lt_of_not_le long⟩, ?_⟩
    rw [start_join tree directory name something entry,
      Path.names_join directory name something entry, walk_concat_eq_ok tree _ place _ _ _ walked]
    exact ⟨housed, step_of_isEntryName place name entry⟩

/-- A joined name leads to the entry of that name, where the whole path is not too long. -/
theorem locate_join_of_short (tree : FileTree) (directory : Path) (place : Place) (name : Name)
    (found : tree.find directory = .ok (place, .directory)) (entry : Path.IsEntryName name)
    (short : ¬ pathLimit ≤ (directory.join ⟨name⟩).bytes.length) :
    tree.locate (directory.join ⟨name⟩) = .ok (place ++ [name]) :=
  (locate_join tree directory place name found entry).trans (if_neg short)

end FileTree

end DeviceParameters
