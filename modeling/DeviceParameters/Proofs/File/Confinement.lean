import DeviceParameters.Proofs.File.Capacity

/-!
# No key leads out of the root

Whatever characters a key is made of, setting it changes at most the entry directly in the root
that is named by the key and the extension, and a set that is refused changes nothing at all. What
a key reads as is decided by what that entry shows: two trees in which it is missing, a directory
or a file with the same bytes give the same answer, whatever else stands in either of them and
wherever the root is found.

A key with a separator has no entry, since no name has a separator; then the statements say that
nothing is changed and that nothing on the host is looked at.
-/

namespace DeviceParameters

namespace FileTree

/-- The second tree is the first but for the places that are excepted. -/
structure AgreesExcept (before after : FileTree) (excepted : Place → Prop) : Prop where
  current : after.current = before.current
  elsewhere : ∀ place, ¬ excepted place → after.node? place = before.node? place

namespace AgreesExcept

variable {before between after : FileTree} {first second : Place → Prop}

theorem refl (tree : FileTree) (excepted : Place → Prop) : AgreesExcept tree tree excepted :=
  ⟨rfl, fun _ _ => rfl⟩

theorem trans (front : AgreesExcept before between first)
    (back : AgreesExcept between after second) :
    AgreesExcept before after fun place => first place ∨ second place := by
  refine ⟨back.current.trans front.current, fun place apart => ?_⟩
  obtain ⟨notFirst, notSecond⟩ := not_or.mp apart
  rw [back.elsewhere place notSecond, front.elsewhere place notFirst]

theorem weaken (agrees : AgreesExcept before after first)
    (more : ∀ place, first place → second place) : AgreesExcept before after second :=
  ⟨agrees.current, fun place apart =>
    agrees.elsewhere place fun excepted => apart (more place excepted)⟩

end AgreesExcept

/-- What a place shows to a reader: nothing, a directory, or the contents of a file. -/
def shownAt (tree : FileTree) (place : Place) : Option (Option Bytes) :=
  (tree.node? place).map Node.contents?

end FileTree

/-- What a read comes to, by what its entry shows. -/
theorem Volume.read_eq_shown (tree : FileTree) (volume : Volume) (place : Place) (name : String)
    (root : volume.RootAt tree place) (entry : Path.IsEntryName (Utf8.bytes name)) :
    volume.read tree name =
      if volume.IsTooLong name then .error (.io .nameTooLong)
      else match tree.shownAt (place ++ [Utf8.bytes name]) with
        | none => .ok none
        | some none => .error (.io .isDirectory)
        | some (some contents) => .ok (some contents) := by
  rw [read_eq tree volume place name root entry, FileTree.shownAt]
  cases tree.node? (place ++ [Utf8.bytes name]) with
  | none => rfl
  | some node =>
    cases node with
    | directory => rfl
    | file serial contents => rfl

namespace FileStore

variable (tree : FileTree) (volume : Volume) (place : Place) (key value : String)

/-- A set is refused with nothing changed, or has changed the entry of its key alone. -/
theorem agreesExcept_set (root : volume.RootAt tree place) :
    tree.AgreesExcept (set tree ⟨some volume⟩ key value).state
      (· = place ++ [FileName.entryOf key]) := by
  obtain ⟨_, _, unchanged⟩ | ⟨name, named, _, written⟩ :=
    set_refused_or_written tree volume key value
  · rw [unchanged]
    exact .refl tree _
  · obtain ⟨_, replaced⟩ := Volume.room_of_write tree volume place name _ _ root
      (FileName.isEntryName_of_ofKey key name named) written
    rw [FileName.bytes_of_ofKey key name named] at replaced
    exact ⟨replaced.current, replaced.elsewhere⟩

/-- A set that is refused has changed nothing, not even the serial numbers. -/
theorem state_set_of_refused (error : ParameterError)
    (refused : (set tree ⟨some volume⟩ key value).result = .error error) :
    (set tree ⟨some volume⟩ key value).state = tree := by
  obtain ⟨_, _, unchanged⟩ | ⟨_, _, stored, _⟩ := set_refused_or_written tree volume key value
  · exact unchanged
  · rw [stored] at refused
    cases refused

/-- Reading a key is decided by what its entry shows. -/
theorem get_of_shownAt (other : FileTree) (otherPlace : Place) (root : volume.RootAt tree place)
    (otherRoot : volume.RootAt other otherPlace)
    (same : other.shownAt (otherPlace ++ [FileName.entryOf key]) =
      tree.shownAt (place ++ [FileName.entryOf key])) :
    get other ⟨some volume⟩ key = get tree ⟨some volume⟩ key := by
  apply get_of_read_eq
  intro name named
  have bytes : FileName.entryOf key = Utf8.bytes name :=
    (FileName.bytes_of_ofKey key name named).symm
  rw [bytes] at same
  have entry := FileName.isEntryName_of_ofKey key name named
  rw [Volume.read_eq_shown other volume otherPlace name otherRoot entry,
    Volume.read_eq_shown tree volume place name root entry, same]

end FileStore

namespace ParameterStore

/-- A run of sets changes the entries of its keys alone, and keeps the root. -/
theorem agreesExcept_setAll (volume : Volume) (place : Place) (requests : List Request)
    (tree : FileTree) (root : volume.RootAt tree place) :
    let after := (setAll (tree, .files ⟨some volume⟩) requests).1
    volume.RootAt after place ∧ tree.AgreesExcept after fun other =>
      ∃ request ∈ requests, other = place ++ [FileName.entryOf request.key] := by
  induction requests generalizing tree with
  | nil => exact ⟨root, .refl tree _⟩
  | cons request rest inductionHypothesis =>
    have first := FileStore.agreesExcept_set tree volume place request.key request.value root
    obtain ⟨stays, later⟩ := inductionHypothesis _
      (FileStore.rootAt_of_set tree volume request.key request.value place root)
    refine ⟨stays, (first.trans later).weaken ?_⟩
    rintro other (same | ⟨asked, member, same⟩)
    · exact ⟨request, List.mem_cons_self, same⟩
    · exact ⟨asked, List.mem_cons_of_mem _ member, same⟩

/-- No key leads out of the root of a mounted store. For every key and value, a set leaves all of
the tree but the entry of the key directly in the root, and all of it if the set is refused; a run
of sets leaves all but the entries of its keys. What a key reads as depends on nothing but what its
entry shows: it is the same in any two trees that have the root somewhere and show the same there.
The trees are those of a POSIX host of directories and regular files: a link that stands in the root
would lead out of it, and there is none.

Proof: a set is refused before anything is changed, or replaces the one place to which the path of
an accepted key leads, which is its entry; reading looks at that place too. -/
theorem keys_stay_in_root (tree : FileTree) (volume : Volume) (place : Place)
    (root : volume.RootAt tree place) :
    (∀ key value : String,
      let reply := set tree (.files ⟨some volume⟩) key value
      tree.AgreesExcept reply.state.1 (· = place ++ [FileName.entryOf key]) ∧
        ∀ error, reply.result = .error error → reply.state.1 = tree) ∧
    (∀ requests : List Request,
      let after := (setAll (tree, .files ⟨some volume⟩) requests).1
      tree.AgreesExcept after fun other =>
        ∃ request ∈ requests, other = place ++ [FileName.entryOf request.key]) ∧
    ∀ (key : String) (other : FileTree) (otherPlace : Place), volume.RootAt other otherPlace →
      other.shownAt (otherPlace ++ [FileName.entryOf key]) =
        tree.shownAt (place ++ [FileName.entryOf key]) →
      get other (.files ⟨some volume⟩) key = get tree (.files ⟨some volume⟩) key := by
  refine ⟨fun key value => ⟨?_, ?_⟩, fun requests => ?_,
    fun key other otherPlace otherRoot same => ?_⟩
  · exact FileStore.agreesExcept_set tree volume place key value root
  · exact FileStore.state_set_of_refused tree volume key value
  · exact (agreesExcept_setAll volume place requests tree root).2
  · exact FileStore.get_of_shownAt tree volume place key other otherPlace root otherRoot same

/-- Beside the root stands a file with the name that a climbing key would reach. Setting that key
leaves it, and so does setting an accepted one; in a tree without that file, whose root has the
same entry, the key reads the same. -/
theorem keys_stay_in_root_beside_file :
    let directory := Utf8.bytes "flash"
    let outside : Place := [Utf8.bytes "ssid.par"]
    let tree := (FileTree.fresh directory).putFile outside (Utf8.bytes "secret")
    let volume : Volume := ⟨.ofText "/flash", 64⟩
    let store : ParameterStore := .files ⟨some volume⟩
    volume.RootAt tree [directory] ∧
      (set tree store "../ssid" "x").state.1 = tree ∧
      (set tree store "ssid" "x").state.1.shownAt outside = some (some (Utf8.bytes "secret")) ∧
      get tree store "ssid" = get (.fresh directory) store "ssid" := by
  intro directory outside tree volume store
  have root : volume.RootAt tree [directory] := by decide +kernel
  have alone : volume.RootAt (.fresh directory) [directory] := by decide +kernel
  obtain ⟨single, _, reads⟩ := keys_stay_in_root tree volume [directory] root
  have apart : outside ≠ [directory] ++ [FileName.entryOf "ssid"] := by decide +kernel
  have secret : tree.shownAt outside = some (some (Utf8.bytes "secret")) := by decide +kernel
  have vacant : (FileTree.fresh directory).shownAt ([directory] ++ [FileName.entryOf "ssid"]) =
      tree.shownAt ([directory] ++ [FileName.entryOf "ssid"]) := by decide +kernel
  refine ⟨root, ?_, ?_, (reads "ssid" (.fresh directory) [directory] alone vacant).symm⟩
  · exact (single "../ssid" "x").2 (.invalidKey "../ssid" .separator) (by decide +kernel)
  · rw [← secret, FileTree.shownAt, FileTree.shownAt,
      (single "ssid" "x").1.elsewhere outside apart]

end ParameterStore

end DeviceParameters
