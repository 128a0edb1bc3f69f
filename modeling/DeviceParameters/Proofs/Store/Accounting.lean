import DeviceParameters.CommandLine.Program
import DeviceParameters.Proofs.File.Filling
import DeviceParameters.Proofs.Storage.Images

/-!
# What a usage report accounts for

A report on a medium only looks at it, and refuses what the opening of a store would make: a root
that is no directory, also where it may be formatted, and an image that is missing. What it reports
of an image is its present length.

On a volume that was empty at first the space in use is what the keys read as. Whatever requests
are made of it, the files in its root are those of requests that were granted, one for each key, and
each of them reads as its value. A set puts its request in the stead of the earlier one for the same
key, and one that is refused leaves all of them.
-/

namespace DeviceParameters

namespace Volume

/-- The root of a volume holds the files of some requests and nothing else, and every one of these
can be read by its key. -/
structure HoldsReadable (tree : FileTree) (volume : Volume) (place : Place)
    (held : List Request) : Prop where
  holds : volume.HoldsExactly tree place held
  accepted : ∀ request ∈ held, ∃ name, FileName.ofKey request.key = .ok name
  reached : ∀ request ∈ held, ¬ volume.CannotReach request.key

namespace HoldsReadable

variable {tree : FileTree} {volume : Volume} {place : Place} {held : List Request}
  (readable : HoldsReadable tree volume place held)

include readable

/-- A set that is refused leaves what is held, and one that is granted puts its request in the stead
of those for the same key. -/
theorem set (key value : String) :
    ∃ next, HoldsReadable (FileStore.set tree ⟨some volume⟩ key value).state volume place next := by
  obtain ⟨_, _, unchanged⟩ | ⟨name, named, _, written⟩ :=
    FileStore.set_refused_or_written tree volume key value
  · exact ⟨held, unchanged.symm ▸ readable⟩
  · have entry := FileName.isEntryName_of_ofKey key name named
    obtain ⟨_, replaced⟩ :=
      room_of_write tree volume place name _ _ readable.holds.root entry written
    have short : ¬ volume.CannotReach key := by
      rw [cannotReach_iff volume key name named]
      intro long
      rw [write_of_tooLong tree volume place name _ readable.holds.root entry long] at written
      cases written
    rw [FileName.bytes_of_ofKey key name named] at replaced
    refine ⟨_, readable.holds.of_replaces ⟨key, value⟩ replaced, ?_, ?_⟩
    · intro request member
      rcases List.mem_append.mp member with old | new
      · exact readable.accepted request (List.mem_filter.mp old).1
      · exact List.mem_singleton.mp new ▸ ⟨name, named⟩
    · intro request member
      rcases List.mem_append.mp member with old | new
      · exact readable.reached request (List.mem_filter.mp old).1
      · exact List.mem_singleton.mp new ▸ short

/-- The keys that are reported read as values that together take up the space in use. -/
theorem accounted :
    ∃ listed : List Request,
      FileStore.keys tree ⟨some volume⟩ = .ok (listed.map Request.key) ∧
      (∀ request ∈ listed,
        (FileStore.get tree ⟨some volume⟩ request.key).result = .ok request.value) ∧
      tree.occupied place = Request.totalSize listed := by
  obtain ⟨listed, same, ascending⟩ := readable.holds.arranged
  have holds := readable.holds.of_perm same
  have accepted (request : Request) (member : request ∈ listed) :=
    readable.accepted request (same.mem_iff.mpr member)
  refine ⟨listed, holds.keys accepted ascending, fun request member => ?_, ?_⟩
  · obtain ⟨name, named⟩ := accepted request member
    exact holds.get request name named (readable.reached request (same.mem_iff.mpr member)) member
  · exact holds.occupied

end HoldsReadable

end Volume

namespace Usage

variable (tree : FileTree) (config : Config)

/-- A report on a volume is made where its root is a directory, and is refused elsewhere. -/
theorem gather_flash :
    gather tree .flash config =
      if tree.isDirectory config.volumeRoot then
        (Volume.usedBytes tree ⟨config.volumeRoot, config.volumeCapacity⟩).map fun used =>
          ⟨Platform.flash.backend, config.volumeRoot.display, config.volumeCapacity, used⟩
      else .error (.notMounted (.noFileSystem config.volumeRoot.display)) := by
  rw [gather, Volume.mount]
  split
  · rfl
  · rfl

/-- A report on an image asks what its path names: a file is reported with its length, and anything
else is refused. -/
theorem gather_radio :
    gather tree .radio config = match tree.stat config.imagePath with
      | .error cause => .error (.io cause)
      | .ok .directory => .error (.io .isDirectory)
      | .ok (.file _ contents) => .ok
        ⟨Platform.radio.backend, config.imagePath.display, contents.length, Slot.tableSize⟩ := by
  rw [FileTree.stat]
  cases found : tree.find config.imagePath with
  | error cause =>
    rw [gather, ImageNvm.openExisting, FileTree.openExisting, found]
    rfl
  | ok entry =>
    obtain ⟨place, node⟩ := entry
    cases node with
    | directory =>
      rw [gather, ImageNvm.openExisting, FileTree.openExisting, found]
      rfl
    | file serial contents =>
      rw [gather, ImageNvm.openExisting_of_find tree config.imagePath place serial contents found]
      rfl

/-- A report leaves the host as it is, in success and in failure, in every build, and it accounts for
what was stored. It is refused where the root of the volume is no directory, whether or not the volume
may be formatted, and where the image is missing or a directory. A report on an image gives its
present length. A report on a volume that was empty before any run of sets, of which some may have
been refused, gives the capacity, which is a word, and the bytes of the values that its keys read as.

That the tree stays as it is rests on the calls that a report makes of the host: whether the root is a
directory, what it lists, and the opening of an image that exists. None of them answers with a tree.

Proof: a set keeps the files in the root to those of granted requests, each to be read by its key,
and what is in use within the capacity, and so does a run. What is in use is the sum over these files
in any order, so also in that of the keys, and a word can hold it. -/
theorem reports_account_for_what_is_stored :
    (∀ (build : Build) (invocation : CommandLine.Invocation) (form : CommandLine.Form),
      invocation.command = .info form →
        (invocation.run build tree).1 = tree ∧
        ((invocation.run build tree).2.code = 0 ↔
          ∃ platform usage, invocation.platform? build = some platform ∧
            gather tree platform invocation.config = .ok usage)) ∧
    (tree.isDirectory config.volumeRoot = false →
      gather tree .flash config = .error (.notMounted (.noFileSystem config.volumeRoot.display))) ∧
    (∀ cause, tree.stat config.imagePath = .error cause →
      gather tree .radio config = .error (.io cause)) ∧
    (tree.stat config.imagePath = .ok .directory →
      gather tree .radio config = .error (.io .isDirectory)) ∧
    (∀ usage, gather tree .radio config = .ok usage ↔
      ∃ serial contents, tree.stat config.imagePath = .ok (.file serial contents) ∧
        usage = ⟨Platform.radio.backend, config.imagePath.display, contents.length,
          Slot.tableSize⟩) ∧
    ∀ requests : List Request, tree.listDirectory config.volumeRoot = .ok [] →
      config.volumeCapacity < Volume.wordLimit →
      let store : ParameterStore := .files ⟨some ⟨config.volumeRoot, config.volumeCapacity⟩⟩
      let after := ParameterStore.setAll (tree, store) requests
      ∃ listed : List Request, after.2.keys after.1 = .ok (listed.map Request.key) ∧
        (∀ request ∈ listed, (after.2.get after.1 request.key).result = .ok request.value) ∧
        gather after.1 .flash config = .ok ⟨Platform.flash.backend, config.volumeRoot.display,
          config.volumeCapacity, Request.totalSize listed⟩ := by
  refine ⟨?_, ?_, ?_, ?_, ?_, ?_⟩
  · intro build invocation form asked
    rw [CommandLine.Invocation.run, CommandLine.Invocation.perform, asked]
    cases invocation.platform? build with
    | none => simp [CommandLine.missingMedium, CommandLine.Exit.failure, CommandLine.Exit.reported]
    | some platform =>
      dsimp only [CommandLine.runInfo]
      cases gathered : gather tree platform invocation.config with
      | error cause => simp [CommandLine.Exit.failure, CommandLine.Exit.reported, gathered]
      | ok usage => simp [CommandLine.Exit.success, CommandLine.Exit.reported, gathered]
  · intro missing
    rw [gather_flash, if_neg (by simp [missing])]
  · intro cause missing
    rw [gather_radio, missing]
  · intro directory
    rw [gather_radio, directory]
  · intro usage
    rw [gather_radio]
    cases named : tree.stat config.imagePath with
    | error cause => simp
    | ok node =>
      cases node with
      | directory => simp
      | file serial contents => simp [eq_comm]
  · intro requests vacant word store after
    obtain ⟨place, root, empty⟩ := (tree.listDirectory_eq_ok _ _).mp vacant
    let volume : Volume := ⟨config.volumeRoot, config.volumeCapacity⟩
    have start : volume.HoldsReadable tree place [] :=
      ⟨.of_vacant root empty, fun _ none => (List.not_mem_nil none).elim,
        fun _ none => (List.not_mem_nil none).elim⟩
    have nothing : tree.occupied place = 0 := start.holds.occupied
    obtain ⟨reached, ends, ⟨held, readable⟩, within⟩ := ParameterStore.setAll_files_keeps volume
      (fun now => (∃ held, volume.HoldsReadable now place held) ∧
        now.occupied place ≤ volume.capacity)
      (fun now key value ⟨⟨_, readable⟩, within⟩ =>
        ⟨readable.set key value, (FileStore.occupied_set_le now volume place key value _
          readable.holds.root within (Nat.le_refl _) word).2⟩)
      requests tree ⟨⟨[], start⟩, nothing ▸ Nat.zero_le _⟩
    obtain ⟨listed, reported, reads, used⟩ := readable.accounted
    have counted := Volume.usedBytes_of_lt reached volume place readable.holds.root
      (Nat.lt_of_le_of_lt within word)
    have mounted : reached.isDirectory config.volumeRoot = true :=
      (FileTree.isDirectory_iff _ _).mpr ⟨place, readable.holds.root⟩
    rw [show after = (reached, .files ⟨some volume⟩) from ends]
    refine ⟨listed, reported, reads, ?_⟩
    rw [gather_flash, if_pos mounted, counted, used]
    rfl

/-- Of five requests one is for a key that was set before, with a shorter value, one finds no room
and one has a key that is not accepted. The report counts two values, which fill the capacity. The
same configuration, which may format, is refused where nothing stands. -/
theorem reports_account_for_what_is_stored_after_refusals :
    let directory := Utf8.bytes "flash"
    let config : Config :=
      { Config.standard with volumeRoot := .ofText "/flash", volumeCapacity := 6 }
    let store : ParameterStore := .files ⟨some ⟨config.volumeRoot, config.volumeCapacity⟩⟩
    let requests : List Request :=
      [⟨"a", "12345"⟩, ⟨"a", "12"⟩, ⟨"b", "1234"⟩, ⟨"c", "1"⟩, ⟨"x/y", "1"⟩]
    let after := ParameterStore.setAll (.fresh directory, store) requests
    config.mayFormat = true ∧
      gather .empty .flash config =
        .error (.notMounted (.noFileSystem config.volumeRoot.display)) ∧
      after.2.keys after.1 = .ok ["a", "b"] ∧
      gather after.1 .flash config = .ok ⟨"flash-fs", config.volumeRoot.display, 6, 6⟩ := by
  intro directory config store requests after
  obtain ⟨_, refused, _⟩ := reports_account_for_what_is_stored .empty config
  obtain ⟨_, _, _, _, _, accounted⟩ := reports_account_for_what_is_stored (.fresh directory) config
  obtain ⟨listed, reported, reads, gathered⟩ :=
    accounted requests (by decide +kernel) (by decide +kernel)
  have keys : FileStore.keys after.1 ⟨some ⟨config.volumeRoot, config.volumeCapacity⟩⟩ =
      .ok ["a", "b"] :=
    FileStore.keys_of_arranged after.1 _ [directory] (by decide +kernel)
      (["a.par", "b.par"].map Utf8.bytes) _ (by decide +kernel) (by decide +kernel)
      (by decide +kernel)
  have shorter : (after.2.get after.1 "a").result = .ok "12" := by decide +kernel
  have other : (after.2.get after.1 "b").result = .ok "1234" := by decide +kernel
  have known : after.2.keys after.1 = .ok ["a", "b"] := by
    rw [show after.2 = store by decide +kernel]
    exact keys
  obtain ⟨one, rest, rfl, first, others⟩ :=
    List.map_eq_cons_iff.mp (Except.ok.inj (reported.symm.trans known))
  obtain ⟨two, nothing, rfl, second, done⟩ := List.map_eq_cons_iff.mp others
  obtain rfl := List.map_eq_nil_iff.mp done
  have oneRead := reads one List.mem_cons_self
  have twoRead := reads two (List.mem_cons_of_mem _ List.mem_cons_self)
  rw [first] at oneRead
  rw [second] at twoRead
  have size : Request.totalSize [one, two] = 6 := by
    rw [Request.totalSize_cons, Request.totalSize_cons,
      Except.ok.inj (oneRead.symm.trans shorter), Except.ok.inj (twoRead.symm.trans other)]
    decide +kernel
  rw [size] at gathered
  exact ⟨rfl, refused (by decide +kernel), known, gathered⟩

end Usage

end DeviceParameters
