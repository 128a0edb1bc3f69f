import DeviceParameters.Proofs.File.Keys
import DeviceParameters.Proofs.Host.Making

/-!
# Formatting spares what is there

Opening a volume formats it only where its root is no directory and formatting is allowed. Where the
root is a directory it is mounted as it is, whatever is in it. Formatting takes at most one file
away, the one that the root itself names, and makes directories; so every other file of the host is
kept, also where formatting fails half way.

What a new volume holds is told exactly: the files that stood directly in the place to which the
root leads. For a root that never goes up there are none, and the place is an empty directory. A
root such as `missing/..` does go up: making what is missing on the way lets it lead to a directory
that was there before, and the volume is reported as formatted with all that is in it.
-/

namespace DeviceParameters

namespace FileTree

/-- The second tree is the first without one file. -/
structure Unnames (before after : FileTree) (place : Place) : Prop where
  current : after.current = before.current
  file : before.IsFile place
  vacant : after.node? place = none
  elsewhere : ∀ other, other ≠ place → after.node? other = before.node? other

/-- Nothing stands below a file, so removing it takes nothing else away. -/
theorem unnames_remove (tree : FileTree) (place : Place) (file : tree.IsFile place) :
    Unnames tree (tree.remove place) place := by
  obtain ⟨serial, contents, stands⟩ := file
  have below : place ≠ [] := (accepts_of_file stands).1
  refine ⟨rfl, ⟨serial, contents, stands⟩, ?_, fun other different => ?_⟩
  · rw [node?_remove tree place place below, if_pos List.prefix_rfl]
  · rw [node?_remove tree place other below]
    split
    · rename_i begins
      cases inside : tree.node? other with
      | none => rfl
      | some node =>
        rw [directory_of_begins tree place other node inside begins different.symm] at stands
        cases stands
    · rfl

/-- Removing a file by its path removes the file that the path finds. -/
theorem removeFile_ok (tree removed : FileTree) (path : Path)
    (done : tree.removeFile path = .ok removed) :
    ∃ place serial contents, tree.find path = .ok (place, .file serial contents) ∧
      Unnames tree removed place := by
  obtain ⟨⟨place, node⟩, found, taken⟩ := (bind_eq_ok _ _ _).mp done
  cases node with
  | directory => cases taken
  | file serial contents =>
    obtain ⟨_, _, stands⟩ := (find_eq_file _ _ _ _ _).mp found
    obtain rfl := Except.ok.inj taken
    exact ⟨place, serial, contents, found, unnames_remove tree place ⟨serial, contents, stands⟩⟩

/-- Removing a file takes no directory away. -/
theorem Unnames.keepsDirectories {before after : FileTree} {place : Place}
    (unnamed : Unnames before after place) : KeepsDirectories before after := by
  intro other stands
  have different : other ≠ place := by
    rintro rfl
    obtain ⟨_, _, file⟩ := unnamed.file
    rw [file] at stands
    cases stands
  rw [unnamed.elsewhere other different, stands]

end FileTree

namespace Volume

variable (tree : FileTree) (root : Path) (capacity : Nat)

/-- A volume is mounted exactly where its root is a directory. -/
theorem mount_eq_ok (volume : Volume) :
    mount tree root capacity = .ok volume ↔
      tree.isDirectory root = true ∧ volume = ⟨root, capacity⟩ := by
  rw [mount]
  split
  · rename_i there
    simp [there, eq_comm]
  · rename_i missing
    simp [missing]

/-- The three courses that opening a volume can take. -/
theorem mountOrFormat_cases (mayFormat : Bool) :
    tree.isDirectory root = true ∧
        mountOrFormat tree root capacity mayFormat = (tree, .ok (⟨root, capacity⟩, false)) ∨
      tree.isDirectory root = false ∧ mayFormat = false ∧
        mountOrFormat tree root capacity mayFormat =
          (tree, .error (.notMounted (.noFileSystem root.display))) ∨
      tree.isDirectory root = false ∧ mayFormat = true ∧
        mountOrFormat tree root capacity mayFormat =
          ((format tree root capacity).1, (format tree root capacity).2.map (·, true)) := by
  cases there : tree.isDirectory root with
  | true => exact Or.inl ⟨rfl, by simp [mountOrFormat, mount, there]⟩
  | false =>
    cases mayFormat with
    | false => exact Or.inr (Or.inl ⟨rfl, rfl, by simp [mountOrFormat, mount, there]⟩)
    | true =>
      refine Or.inr (Or.inr ⟨rfl, rfl, ?_⟩)
      rcases formatted : format tree root capacity with ⟨reached, cause | volume⟩ <;>
        simp [mountOrFormat, mount, there, formatted, Except.map]

/-- Formatting gains directories over what clearing the root has left, also where it fails. -/
theorem gains_format :
    (clear tree root).1.GainsDirectories (format tree root capacity).1 fun _ => True := by
  rw [format]
  split
  · rename_i cleared cause stuck
    rw [stuck]
    exact .refl cleared
  · rename_i cleared done
    have gains := FileTree.gains_makeDirectoryAll (fun _ => True) cleared root
      fun _ _ _ _ _ _ => trivial
    rw [done]
    split
    · rename_i made cause failed
      rwa [failed] at gains
    · rename_i made finished
      rwa [finished] at gains

/-- Formatting that succeeds has made the directories of the root and mounts that. -/
theorem format_ok (volume : Volume) (done : (format tree root capacity).2 = .ok volume) :
    (format tree root capacity).1 = ((clear tree root).1.makeDirectoryAll root).1 ∧
      (format tree root capacity).1.isDirectory root = true ∧ volume = ⟨root, capacity⟩ := by
  rw [format] at done ⊢
  split at done
  · cases done
  rename_i cleared emptied
  split at done
  · cases done
  · rename_i made finished
    obtain ⟨there, same⟩ := (mount_eq_ok _ _ _ _).mp done
    simp only [emptied, finished, true_and]
    exact ⟨there, same⟩

/-- A root that was mounted, formatted or not, is a directory. -/
theorem mounted_of_mountOrFormat (reached : FileTree) (mayFormat formatted : Bool) (volume : Volume)
    (opened : mountOrFormat tree root capacity mayFormat = (reached, .ok (volume, formatted))) :
    reached.isDirectory root = true ∧ volume = ⟨root, capacity⟩ := by
  obtain ⟨there, mounted⟩ | ⟨_, _, refused⟩ | ⟨_, _, attempt⟩ :=
    mountOrFormat_cases tree root capacity mayFormat
  · rw [mounted] at opened
    obtain ⟨rfl, same⟩ := Prod.mk.inj opened
    obtain ⟨rfl, _⟩ := Prod.mk.inj (Except.ok.inj same)
    exact ⟨there, rfl⟩
  · rw [refused] at opened
    cases (Prod.mk.inj opened).2
  · rw [attempt] at opened
    obtain ⟨rfl, same⟩ := Prod.mk.inj opened
    cases done : (format tree root capacity).2 with
    | error cause =>
      rw [done] at same
      cases same
    | ok made =>
      rw [done] at same
      obtain ⟨rfl, _⟩ := Prod.mk.inj (Except.ok.inj same)
      exact (format_ok tree root capacity made done).2

section Missing

variable (missing : tree.isDirectory root = false)

include missing

/-- Clearing a root that is no directory changes nothing, or takes away the file that it finds. -/
theorem clear_of_missing :
    (clear tree root).1 = tree ∨
      ∃ place serial contents, tree.find root = .ok (place, .file serial contents) ∧
        tree.Unnames (clear tree root).1 place := by
  rw [clear, if_neg (by simp [missing])]
  split
  · cases done : tree.removeFile root with
    | error cause => exact Or.inl rfl
    | ok removed => exact Or.inr (tree.removeFile_ok removed root done)
  · exact Or.inl rfl

/-- A root that is no directory is none after it was cleared. -/
theorem isDirectory_clear : (clear tree root).1.isDirectory root = false := by
  rcases clear_of_missing tree root missing with unchanged | ⟨place, _, _, gone, unnamed⟩
  · rw [unchanged, missing]
  · apply Bool.eq_false_iff.mpr
    intro there
    obtain ⟨located, _, _⟩ := (FileTree.find_eq_file _ _ _ _ _).mp gone
    obtain ⟨reached, found⟩ := (FileTree.isDirectory_iff _ _).mp there
    obtain ⟨leads, stands⟩ := (FileTree.find_eq_directory _ _ _).mp found
    have kept := FileTree.locate_of_keeps tree _ unnamed.keepsDirectories unnamed.current root place
      located
    obtain rfl := Except.ok.inj (leads.symm.trans kept)
    rw [unnamed.vacant] at stands
    cases stands

/-- Formatting a root that is no directory keeps every file but the one that the root finds. -/
theorem file_of_format (place : Place) (serial : Nat) (contents : Bytes)
    (stands : tree.node? place = some (.file serial contents))
    (spared : tree.find root ≠ .ok (place, .file serial contents)) :
    (format tree root capacity).1.node? place = some (.file serial contents) := by
  apply ((gains_format tree root capacity).file_iff place serial contents).mpr
  rcases clear_of_missing tree root missing with unchanged | ⟨gone, _, _, found, unnamed⟩
  · rw [unchanged, stands]
  · have different : place ≠ gone := by
      rintro rfl
      obtain ⟨_, _, old⟩ := (FileTree.find_eq_file _ _ _ _ _).mp found
      rw [stands] at old
      rw [Option.some.inj old] at spared
      exact spared found
    rw [unnamed.elsewhere place different, stands]

/-- The files directly in the root of a volume that was formatted are those that stood directly in
its place before. The file that the root named is not among them: it stood at the place itself. -/
theorem filesIn_format (place : Place)
    (leads : (format tree root capacity).1.find root = .ok (place, .directory)) :
    ((format tree root capacity).1.filesIn place).Perm (tree.filesIn place) := by
  have gains := gains_format tree root capacity
  apply (List.perm_ext_iff_of_nodup (FileTree.filesIn_distinct _ place)
    (FileTree.filesIn_distinct _ place)).mpr
  rintro ⟨name, contents⟩
  rw [FileTree.mem_filesIn, FileTree.mem_filesIn]
  refine exists_congr fun serial => ?_
  rw [gains.file_iff]
  rcases clear_of_missing tree root missing with unchanged | ⟨gone, _, _, found, unnamed⟩
  · rw [unchanged]
  · obtain ⟨located, _, _⟩ := (FileTree.find_eq_file _ _ _ _ _).mp found
    have cleared := FileTree.locate_of_keeps tree _ unnamed.keepsDirectories unnamed.current root
      gone located
    have still := FileTree.locate_of_keeps _ _ gains.keepsDirectories gains.current root gone
      cleared
    obtain ⟨ended, _⟩ := (FileTree.find_eq_directory _ _ _).mp leads
    obtain rfl := Except.ok.inj (still.symm.trans ended)
    rw [unnamed.elsewhere (gone ++ [name]) (by simp)]

end Missing

end Volume

/-- What opening a volume may do to the host: nothing where the root is a directory, nothing where
it may not format, and otherwise nothing to any file but the one that the root finds. -/
structure Volume.IsGuarded (tree : FileTree) (root : Path) (capacity : Nat) (mayFormat : Bool)
    (reached : FileTree) (volume : Option Volume) (formatted : Prop) : Prop where
  mounted : tree.isDirectory root = true →
    reached = tree ∧ volume = some ⟨root, capacity⟩ ∧ ¬ formatted
  refused : tree.isDirectory root = false → mayFormat = false →
    reached = tree ∧ volume = none ∧ ¬ formatted
  kept : ∀ place serial contents, tree.node? place = some (.file serial contents) →
    tree.find root ≠ .ok (place, .file serial contents) →
      reached.node? place = some (.file serial contents)
  /-- A new volume holds what stood directly in its place. -/
  holds : formatted → volume = some ⟨root, capacity⟩ ∧
    ∃ place, Volume.RootAt reached ⟨root, capacity⟩ place ∧
      Volume.usedBytes reached ⟨root, capacity⟩ = .ok (tree.occupied place % Volume.wordLimit) ∧
      Volume.list reached ⟨root, capacity⟩ = .ok
        (((tree.fileNames place).mergeSort FileTree.listedBefore).filterMap Utf8.text?)
  /-- It holds nothing at all where its root never goes up. -/
  empty : formatted → Path.above ∉ root.names →
    reached.listDirectory root = .ok [] ∧
      Volume.list reached ⟨root, capacity⟩ = .ok [] ∧
      Volume.usedBytes reached ⟨root, capacity⟩ = .ok 0

namespace Volume

variable (tree : FileTree) (root : Path) (capacity : Nat)

theorem isGuarded_of_isDirectory (mayFormat : Bool) (there : tree.isDirectory root = true) :
    IsGuarded tree root capacity mayFormat tree (some ⟨root, capacity⟩) False where
  mounted _ := ⟨rfl, rfl, id⟩
  refused missing := by
    rw [there] at missing
    cases missing
  kept _ _ _ stands _ := stands
  holds never := never.elim
  empty never := never.elim

theorem isGuarded_of_missing (missing : tree.isDirectory root = false) :
    IsGuarded tree root capacity false tree none False where
  mounted there := by
    rw [missing] at there
    cases there
  refused _ _ := ⟨rfl, rfl, id⟩
  kept _ _ _ stands _ := stands
  holds never := never.elim
  empty never := never.elim

/-- What an empty directory makes of the volume in it. -/
theorem nothing_of_children_nil (volume : Volume) (place : Place)
    (found : volume.RootAt tree place) (vacant : tree.children place = []) :
    tree.listDirectory volume.root = .ok [] ∧ volume.list tree = .ok [] ∧
      volume.usedBytes tree = .ok 0 := by
  have files : tree.filesIn place = [] := by
    rw [FileTree.filesIn, vacant]
    rfl
  refine ⟨(tree.listDirectory_eq_ok _ _).mpr ⟨place, found, vacant⟩, ?_, ?_⟩
  · simp [list_eq tree volume place found, FileTree.fileNames, files]
  · rw [usedBytes_eq tree volume place found, FileTree.occupied, files]
    rfl

/-- Formatting is guarded: it takes away no file but the one at the root, and what the new volume
holds was there before. -/
theorem isGuarded_format (missing : tree.isDirectory root = false) :
    IsGuarded tree root capacity true (format tree root capacity).1
      (format tree root capacity).2.toOption
      (∃ volume, (format tree root capacity).2 = .ok volume) where
  mounted there := by
    rw [missing] at there
    cases there
  refused _ never := by cases never
  kept := file_of_format tree root capacity missing
  holds := by
    rintro ⟨volume, done⟩
    obtain ⟨_, there, rfl⟩ := format_ok tree root capacity volume done
    obtain ⟨place, found⟩ := (FileTree.isDirectory_iff _ _).mp there
    have same := filesIn_format tree root capacity missing place found
    refine ⟨by rw [done]; rfl, place, found, ?_, ?_⟩
    · rw [usedBytes_eq _ ⟨root, capacity⟩ place found]
      exact congrArg (fun total => Except.ok (total % wordLimit)) (FileTree.totalLength_of_perm same)
    · have sorted := FileTree.listed_of_perm (same.map Prod.fst)
      rw [list_eq _ ⟨root, capacity⟩ place found, FileTree.fileNames, sorted]
      rfl
  empty := by
    rintro ⟨volume, done⟩ straight
    obtain ⟨made, there, rfl⟩ := format_ok tree root capacity volume done
    obtain ⟨place, found⟩ := (FileTree.isDirectory_iff _ _).mp there
    apply nothing_of_children_nil _ ⟨root, capacity⟩ place found
    rw [made] at found ⊢
    exact FileTree.children_of_makeDirectoryAll root straight _ place
      (isDirectory_clear tree root missing) found

end Volume

namespace FileStore

/-- What is reported about the space in use is not that a volume was formatted. -/
theorem usageEvent_ne_formatted (tree : FileTree) (volume : Volume) (root : Path) :
    usageEvent tree volume ≠ .formatted root := by
  rw [usageEvent]
  split <;> simp

/-- Opening destroys no file system. For every tree, root, capacity and leave to format, the volume
that is opened is guarded, and so is the one of a file store that is made with such a configuration,
which reports that it was formatted exactly then. A root that is no directory and must not be
formatted is refused for that.

Proof: there are three courses, of which two leave the tree. In the third one file at most goes
and directories come, none of them off the way to the root unless the root goes up. -/
theorem opening_is_guarded (tree : FileTree) (config : Config) :
    let attempt :=
      Volume.mountOrFormat tree config.volumeRoot config.volumeCapacity config.mayFormat
    let made := ofConfig tree config
    Volume.IsGuarded tree config.volumeRoot config.volumeCapacity config.mayFormat attempt.1
        (attempt.2.toOption.map Prod.fst) (∃ volume, attempt.2 = .ok (volume, true)) ∧
      (tree.isDirectory config.volumeRoot = false → config.mayFormat = false →
        attempt.2 = .error (.notMounted (.noFileSystem config.volumeRoot.display))) ∧
      Volume.IsGuarded tree config.volumeRoot config.volumeCapacity config.mayFormat made.1
        made.2.1.volume (.formatted config.volumeRoot ∈ made.2.2) := by
  intro attempt made
  obtain ⟨root, capacity, mayFormat, _, _⟩ := config
  obtain ⟨there, mounted⟩ | ⟨missing, forbidden, refused⟩ | ⟨missing, allowed, formatted⟩ :=
    Volume.mountOrFormat_cases tree root capacity mayFormat
  · have guarded := Volume.isGuarded_of_isDirectory tree root capacity mayFormat there
    have silent := (usageEvent_ne_formatted tree ⟨root, capacity⟩ root).symm
    refine ⟨?_, fun missing => ?_, ?_⟩
    · simpa [attempt, mounted, Except.toOption] using guarded
    · rw [there] at missing
      cases missing
    · simpa [made, ofConfig, mounted, silent] using guarded
  · subst forbidden
    have guarded := Volume.isGuarded_of_missing tree root capacity missing
    refine ⟨?_, fun _ _ => by simp [attempt, refused], ?_⟩
    · simpa [attempt, refused, Except.toOption] using guarded
    · simpa [made, ofConfig, refused] using guarded
  · subst allowed
    have guarded := Volume.isGuarded_format tree root capacity missing
    cases done : (Volume.format tree root capacity).2 with
    | error cause =>
      rw [done] at formatted guarded
      refine ⟨?_, fun _ never => Bool.noConfusion never, ?_⟩
      · simpa [attempt, formatted, Except.map, Except.toOption] using guarded
      · simpa [made, ofConfig, formatted, Except.map, Except.toOption] using guarded
    | ok volume =>
      obtain ⟨_, _, rfl⟩ := Volume.format_ok tree root capacity volume done
      rw [done] at formatted guarded
      refine ⟨?_, fun _ never => Bool.noConfusion never, ?_⟩
      · simpa [attempt, formatted, Except.map, Except.toOption] using guarded
      · simpa [made, ofConfig, formatted, Except.map, Except.toOption] using guarded

/-- A stray file at the root gives way to an empty directory where the store may format, and is
refused where it may not. The file beside it is kept either way. -/
theorem opening_is_guarded_with_stray_file :
    let home := Utf8.bytes "home"
    let notes : Place := [home, Utf8.bytes "notes.txt"]
    let tree := ((FileTree.fresh home).putFile notes (Utf8.bytes "abc")).putFile
      [home, Utf8.bytes "spiffs"] (Utf8.bytes "stray")
    let config : Config := { Config.standard with volumeCapacity := 64 }
    let made := ofConfig tree config
    made.1.listDirectory config.volumeRoot = .ok [] ∧
      Volume.usedBytes made.1 ⟨config.volumeRoot, 64⟩ = .ok 0 ∧
      made.1.node? notes = some (.file 0 (Utf8.bytes "abc")) ∧
      Volume.mountOrFormat tree config.volumeRoot 64 false =
        (tree, .error (.notMounted (.noFileSystem "spiffs"))) := by
  intro home notes tree config made
  have formatted : Event.formatted config.volumeRoot ∈ made.2.2 := by decide +kernel
  have straight : Path.above ∉ config.volumeRoot.names := by decide +kernel
  have stands : tree.node? notes = some (.file 0 (Utf8.bytes "abc")) := by decide +kernel
  have spared : tree.find config.volumeRoot ≠ .ok (notes, .file 0 (Utf8.bytes "abc")) := by
    decide +kernel
  have missing : tree.isDirectory config.volumeRoot = false := by decide +kernel
  have shown : config.volumeRoot.display = "spiffs" := by decide +kernel
  obtain ⟨_, _, guarded⟩ := opening_is_guarded tree config
  obtain ⟨refusal, fault, _⟩ := opening_is_guarded tree { config with mayFormat := false }
  -- The result is named before it is compared, so that nothing evaluates it again.
  have opened : ofConfig tree config = made := rfl
  rw [opened] at guarded
  clear_value made tree
  obtain ⟨empty, _, unused⟩ := guarded.empty formatted straight
  have kept := guarded.kept notes 0 _ stands spared
  have unchanged := (refusal.refused missing rfl).1
  have refused := fault missing rfl
  rw [← shown]
  exact ⟨empty, unused, kept, Prod.ext unchanged refused⟩

/-- The root `missing/..` leads nowhere at first. Making what is missing on its way lets it lead to
the current directory, and the volume is reported as formatted with the file that stood there. -/
theorem formatted_volume_holds_old_file :
    let home := Utf8.bytes "home"
    let tree := (FileTree.fresh home).putFile [home, Utf8.bytes "notes.txt"] (Utf8.bytes "abc")
    let root := Path.ofText "missing/.."
    let attempt := Volume.mountOrFormat tree root 1024 true
    attempt.2 = .ok (⟨root, 1024⟩, true) ∧ attempt.1.listDirectory root ≠ .ok [] ∧
      Volume.list attempt.1 ⟨root, 1024⟩ ≠ .ok [] ∧
      Volume.usedBytes attempt.1 ⟨root, 1024⟩ = .ok 3 := by
  intro home tree root attempt
  have listed : Volume.list attempt.1 ⟨root, 1024⟩ = .ok ["notes.txt"] := by
    have leads : Volume.RootAt attempt.1 ⟨root, 1024⟩ [home] := by decide +kernel
    have names : attempt.1.fileNames [home] = [Utf8.bytes "notes.txt"] := by decide +kernel
    have text : Utf8.text? (Utf8.bytes "notes.txt") = some "notes.txt" := by decide +kernel
    rw [Volume.list_eq attempt.1 ⟨root, 1024⟩ [home] leads, names, List.mergeSort_singleton]
    simp [text]
  refine ⟨by decide +kernel, by decide +kernel, ?_, by decide +kernel⟩
  rw [listed]
  simp

end FileStore

end DeviceParameters
