import DeviceParameters.Proofs.Storage.History
import DeviceParameters.Proofs.Storage.Openings

/-!
# Images only grow

An image is opened again and again by one path, with any sizes, and written in between through the
devices that the openings gave; none of them needs to be the last. `Develops` says what has become
of the tree: directories are kept, the file to which the path leads is longer or as long and has the
bytes that it had, but for the writes, and every other file is as it was.

The devices of a session are all on one file, since the path goes on leading to it. The last of them
is as large as the image; an earlier one can be smaller, when a later opening has asked for more.
-/

namespace DeviceParameters.ImageNvm

open FileTree

/-- The second tree is what has become of the first by openings of an image and by writes to it.
Where nothing has led to the image yet, nothing is written. -/
structure Develops (path : Path) (before after : FileTree) (writes : List Patch) : Prop where
  current : after.current = before.current
  directories : KeepsDirectories before after
  image : ∀ place serial old, before.node? place = some (.file serial old) →
    after.locate path = .ok place →
    ∃ now, after.node? place = some (.file serial now) ∧ Bytes.Patched old now writes
  files : ∀ place serial old, before.node? place = some (.file serial old) →
    after.locate path ≠ .ok place → after.node? place = some (.file serial old)
  made : ∀ place, before.node? place = none →
    after.node? place = none ∨ after.node? place = some .directory ∨
      ∃ serial now, after.find path = .ok (place, .file serial now) ∧ Bytes.Patched [] now writes
  led : writes = [] ∨ ∃ place serial now, after.find path = .ok (place, .file serial now)

namespace Develops

variable {path : Path} {before between after : FileTree} {front back writes : List Patch}

/-- An image that was found is found as the same file, with the writes in it. -/
theorem find (develops : Develops path before after writes) (place : Place) (serial : Nat)
    (old : Bytes) (found : before.find path = .ok (place, .file serial old)) :
    ∃ now, after.find path = .ok (place, .file serial now) ∧ Bytes.Patched old now writes := by
  obtain ⟨located, plain, stands⟩ := (find_eq_file _ _ _ _ _).mp found
  have again := locate_of_keeps before after develops.directories develops.current path place located
  obtain ⟨now, there, patched⟩ := develops.image place serial old stands again
  exact ⟨now, (find_eq_file _ _ _ _ _).mpr ⟨again, plain, there⟩, patched⟩

theorem refl (path : Path) (tree : FileTree) : Develops path tree tree [] :=
  ⟨rfl, fun _ stands => stands, fun _ _ old stands _ => ⟨old, stands, .refl old⟩,
    fun _ _ _ stands _ => stands, fun _ vacant => Or.inl vacant, Or.inl rfl⟩

/-- Where the path leads in the end, but found no file in between, nothing was written until then. -/
theorem writes_eq_nil (first : Develops path before between front)
    (second : Develops path between after back) (place : Place)
    (located : after.locate path = .ok place)
    (absent : ∀ serial now, between.find path ≠ .ok (place, .file serial now)) : front = [] := by
  apply first.led.resolve_right
  rintro ⟨other, serial, now, found⟩
  obtain ⟨_, later, _⟩ := second.find other serial now found
  obtain ⟨again, _⟩ := (find_eq_file _ _ _ _ _).mp later
  obtain rfl := Except.ok.inj (again.symm.trans located)
  exact absent serial now found

/-- What develops twice has all the writes in order. -/
theorem trans (first : Develops path before between front)
    (second : Develops path between after back) : Develops path before after (front ++ back) := by
  have stays (place : Place) (located : between.locate path = .ok place) :=
    locate_of_keeps between after second.directories second.current path place located
  refine ⟨second.current.trans first.current,
    fun place stands => second.directories place (first.directories place stands),
    fun place serial old stands located => ?_, fun place serial old stands apart => ?_,
    fun place vacant => ?_, ?_⟩
  -- The image: if the path did not lead to it in between, nothing was written until then.
  · by_cases early : between.locate path = .ok place
    · obtain ⟨mid, there, patched⟩ := first.image place serial old stands early
      obtain ⟨now, last, later⟩ := second.image place serial mid there located
      exact ⟨now, last, patched.trans later⟩
    · obtain ⟨now, last, later⟩ :=
        second.image place serial old (first.files place serial old stands early) located
      obtain rfl := writes_eq_nil first second place located fun _ _ found =>
        early ((find_eq_file _ _ _ _ _).mp found).1
      exact ⟨now, last, later⟩
  · exact second.files place serial old
      (first.files place serial old stands fun early => apart (stays place early)) apart
  -- A new image has all the writes, whichever part has made it.
  · rcases first.made place vacant with still | housed | ⟨serial, mid, found, patched⟩
    · refine (second.made place still).imp_right fun made => made.imp_right ?_
      rintro ⟨serial, now, found, later⟩
      obtain rfl := writes_eq_nil first second place ((find_eq_file _ _ _ _ _).mp found).1
        fun number bytes early => by
          obtain ⟨_, _, stands⟩ := (find_eq_file _ _ _ _ _).mp early
          rw [still] at stands
          cases stands
      exact ⟨serial, now, found, later⟩
    · exact Or.inr (Or.inl (second.directories place housed))
    · obtain ⟨now, last, later⟩ := second.find place serial mid found
      exact Or.inr (Or.inr ⟨serial, now, last, patched.trans later⟩)
  · rcases second.led with rfl | found
    · rw [List.append_nil]
      refine first.led.imp_right ?_
      rintro ⟨place, serial, mid, found⟩
      obtain ⟨now, last, _⟩ := second.find place serial mid found
      exact ⟨place, serial, now, last⟩
    · exact Or.inr found

/-- Making directories is such a development. -/
theorem of_gainsDirectories (gains : GainsDirectories before after fun _ => True) :
    Develops path before after [] := by
  refine ⟨gains.current, gains.keepsDirectories,
    fun place serial old stands _ => ⟨old, gains.kept place _ stands, .refl old⟩,
    fun place serial old stands _ => gains.kept place _ stands, fun place vacant => ?_, Or.inl rfl⟩
  exact (gains.made place vacant).imp_right Or.inl

/-- So is gaining the file of the image, or having writes put into it. -/
theorem of_gainsFile (place : Place) (serial : Nat) (contents : Bytes)
    (found : after.find path = .ok (place, .file serial contents))
    (gains : GainsFile before after place serial contents)
    (patched : Bytes.Patched (before.bytesAt place) contents writes) :
    Develops path before after writes := by
  obtain ⟨located, _, there⟩ := (find_eq_file _ _ _ _ _).mp found
  refine ⟨gains.current, gains.keepsDirectories, fun other number old stands again => ?_,
    fun other number old stands apart => ?_, fun other vacant => ?_,
    Or.inr ⟨place, serial, contents, found⟩⟩
  · obtain rfl := Except.ok.inj (located.symm.trans again)
    obtain ⟨bytes, file⟩ := gains.old _ stands
    obtain ⟨rfl, -⟩ := Node.file.inj file
    rw [bytesAt_of_file before place _ _ stands] at patched
    exact ⟨contents, there, patched⟩
  · exact gains.kept other _ (fun here => apart (here ▸ located)) stands
  · by_cases here : other = place
    · subst here
      rw [bytesAt_of_vacant before other vacant] at patched
      exact Or.inr (Or.inr ⟨serial, contents, found, patched⟩)
    · exact (gains.made other here vacant).imp_right Or.inl

end Develops

/-- An opening writes nothing, whether it gives a device or fails. -/
theorem develops_openSized (path : Path) (tree : FileTree) (size : Nat) :
    Develops path tree (openSized tree path size).1 [] := by
  obtain ⟨_, gains⟩ | ⟨handle, contents, found, gains, ⟨_, rfl⟩ | ⟨_, rfl⟩⟩ :=
    openSized_cases tree _ path size _ rfl
  · exact .of_gainsDirectories gains
  · exact .of_gainsFile _ _ _ found gains (.refl _)
  · exact .of_gainsFile _ _ _ found gains (.resize _ _ (Nat.le_max_left _ _))

/-- A replacement in an image that is found puts the data into its file. -/
theorem gainsFile_replaced (tree : FileTree) (path : Path) (nvm : ImageNvm) (offset : Nat)
    (data old : Bytes)
    (found : tree.find path = .ok (nvm.handle.place, .file nvm.handle.serial old)) :
    let after := ((Device.ofImage nvm).replaced tree offset data).1
    after.find path = .ok (nvm.handle.place, .file nvm.handle.serial (old.overwrite offset data)) ∧
      GainsFile tree after nvm.handle.place nvm.handle.serial (old.overwrite offset data) := by
  obtain ⟨_, _, stands⟩ := (find_eq_file _ _ _ _ _).mp found
  have itself : GainsFile tree tree nvm.handle.place nvm.handle.serial old :=
    ⟨rfl, stands, fun node same => ⟨old, Option.some.inj (same.symm.trans stands)⟩,
      fun _ _ => Or.inl rfl⟩
  by_cases nothing : data = []
  · simpa [Device.replaced, Device.ofImage, nothing, Bytes.overwrite_nil] using ⟨found, itself⟩
  · simp only [Device.replaced, Device.ofImage, if_neg nothing,
      contents_of_find tree path nvm.handle old found]
    exact ⟨find_setContents tree path nvm.handle old _ found, itself.setContents _⟩

/-- An opening that failed leaves an image standing. -/
theorem Stands.of_unopened {before after : FileTree} {nvm : ImageNvm} (stands : Stands before nvm)
    (unopened : Unopened before after nvm.path) : Stands after nvm := by
  obtain ⟨located, plain, file⟩ := (find_eq_file _ _ _ _ _).mp stands.found
  have again := locate_of_keeps before after (fun place => unopened.others place .directory)
    unopened.current nvm.path _ located
  exact stands_of_find after _ nvm
    ((find_eq_file _ _ _ _ _).mpr ⟨again, plain, unopened.others _ _ file⟩) stands.whole

/-- A tree and the devices that openings of one image have given in it, the oldest first. -/
structure Session where
  tree : FileTree
  devices : List ImageNvm

namespace Session

/-- What happens in a session. -/
inductive Use where
  /-- Open the image with a size. -/
  | opening (size : Nat)
  /-- Write to one of the devices. -/
  | writing (device offset : Nat) (data : Bytes)
  deriving DecidableEq

variable (path : Path)

/-- The session after one use. -/
def advance (session : Session) : Use → Session
  | .opening size =>
    let outcome := openSized session.tree path size
    ⟨outcome.1, session.devices ++ outcome.2.toOption.toList⟩
  | .writing device offset data =>
    match session.devices[device]? with
    | none => session
    | some nvm =>
      ⟨(Device.take (session.tree, .ofImage nvm) (.write offset data)).1, session.devices⟩

/-- The session after uses in order. -/
def run (session : Session) (uses : List Use) : Session := uses.foldl (advance path) session

/-- The patch that a use makes, if it is a write that succeeds. -/
def patchBy (session : Session) : Use → List Patch
  | .opening _ => []
  | .writing device offset data =>
    match session.devices[device]? with
    | none => []
    | some nvm => Device.patchBy (session.tree, .ofImage nvm) (.access (.write offset data))

/-- The patches that the successful writes of a session make, in order. -/
def patches : Session → List Use → List Patch
  | _, [] => []
  | session, use :: rest => session.patchBy use ++ patches (advance path session use) rest

/-- Every device is on the file that the path finds, which has all of its bytes, and the last one has
all the bytes of the file. -/
structure Sound (session : Session) : Prop where
  attached : ∀ nvm ∈ session.devices, nvm.path = path ∧
    ∃ contents, session.tree.find path = .ok (nvm.handle.place, .file nvm.handle.serial contents) ∧
      nvm.size ≤ contents.length
  latest : ∀ nvm, session.devices.getLast? = some nvm → Stands session.tree nvm

/-- A write to one of the devices puts its data into the image or does nothing, and the image is as
long as before. -/
theorem develops_take (tree : FileTree) (nvm : ImageNvm) (offset : Nat) (data old : Bytes)
    (found : tree.find path = .ok (nvm.handle.place, .file nvm.handle.serial old))
    (roomy : nvm.size ≤ old.length) :
    let state : Device.State := (tree, .ofImage nvm)
    let after := (Device.take state (.write offset data)).1
    Develops path tree after (Device.patchBy state (.access (.write offset data))) ∧
      ∃ now, after.find path = .ok (nvm.handle.place, .file nvm.handle.serial now) ∧
        now.length = old.length := by
  intro state after
  have succeeds := Device.isOk_writeAt tree (.ofImage nvm) offset data
  have taken : after = (Device.take state (.write offset data)).1 := rfl
  rw [taken, Device.take_write, Device.patchBy]
  by_cases succeeded : ((Device.ofImage nvm).writeAt tree offset data).isOk = true
  · have accepted := succeeds.mp succeeded
    have inside : offset + data.length ≤ old.length := Nat.le_trans accepted.2 roomy
    obtain ⟨last, gains⟩ := gainsFile_replaced tree path nvm offset data old found
    obtain ⟨_, _, stands⟩ := (find_eq_file _ _ _ _ _).mp found
    rw [if_pos accepted, if_pos succeeded]
    refine ⟨.of_gainsFile _ _ _ last gains ?_, _, last, Bytes.length_overwrite _ _ _ inside⟩
    rw [bytesAt_of_file tree _ _ old stands]
    exact .overwrite old offset data inside
  · rw [if_neg fun accepted => succeeded (succeeds.mpr accepted), if_neg succeeded]
    exact ⟨.refl path tree, old, found, rfl⟩

namespace Sound

variable {path} {session : Session} (sound : Sound path session)

include sound

/-- The devices are on the image of a tree that has developed. -/
theorem attached_of_develops (after : FileTree) (writes : List Patch)
    (develops : Develops path session.tree after writes) (nvm : ImageNvm)
    (member : nvm ∈ session.devices) :
    nvm.path = path ∧
      ∃ contents, after.find path = .ok (nvm.handle.place, .file nvm.handle.serial contents) ∧
        nvm.size ≤ contents.length := by
  obtain ⟨named, old, found, roomy⟩ := sound.attached nvm member
  obtain ⟨now, last, patched⟩ := develops.find _ _ _ found
  exact ⟨named, now, last, Nat.le_trans roomy patched.grown⟩

/-- An opening keeps the session sound. -/
theorem opening (size : Nat) : Sound path (advance path session (.opening size)) := by
  have develops := develops_openSized path session.tree size
  have former := sound.attached_of_develops _ _ develops
  cases opened : openSized session.tree path size with
  | mk reached result =>
  rw [opened] at former
  rw [advance, opened]
  cases result with
  | error cause =>
    have unopened := unopened_of_openSized session.tree reached path size cause opened
    have same : session.devices ++ (Except.error cause : Except StorageError ImageNvm).toOption.toList =
      session.devices := List.append_nil _
    simp only [same]
    refine ⟨former, fun nvm last => ?_⟩
    obtain ⟨named, _⟩ := sound.attached nvm (List.mem_of_getLast? last)
    exact (sound.latest nvm last).of_unopened (named ▸ unopened)
  | ok nvm =>
    obtain ⟨stands, named, _⟩ := stands_of_openSized session.tree path reached size nvm opened
    have more : session.devices ++ (Except.ok nvm : Except StorageError ImageNvm).toOption.toList =
      session.devices ++ [nvm] := rfl
    simp only [more]
    refine ⟨fun other member => ?_, fun other last => ?_⟩
    · rcases List.mem_append.mp member with earlier | new
      · exact former other earlier
      · obtain rfl := List.mem_singleton.mp new
        exact ⟨named, _, named ▸ stands.found, Nat.le_of_eq stands.whole.symm⟩
    · rw [List.getLast?_concat] at last
      obtain rfl := Option.some.inj last
      exact stands

/-- A write keeps the session sound, and develops its tree by the patch if it succeeds. -/
theorem writing (device offset : Nat) (data : Bytes) :
    Develops path session.tree (advance path session (.writing device offset data)).tree
        (session.patchBy (.writing device offset data)) ∧
      Sound path (advance path session (.writing device offset data)) := by
  rw [advance, patchBy]
  cases chosen : session.devices[device]? with
  | none => exact ⟨.refl path session.tree, sound⟩
  | some nvm =>
    obtain ⟨_, old, found, roomy⟩ := sound.attached nvm (List.mem_of_getElem? chosen)
    obtain ⟨develops, now, last, length⟩ :=
      develops_take path session.tree nvm offset data old found roomy
    refine ⟨develops, sound.attached_of_develops _ _ develops, fun newest final => ?_⟩
    -- The last device is on the same file as the one that was written.
    obtain ⟨named, _⟩ := sound.attached newest (List.mem_of_getLast? final)
    have stands := sound.latest newest final
    have before := stands.found
    rw [named, found] at before
    obtain ⟨place, file⟩ := Prod.mk.inj (Except.ok.inj before)
    obtain ⟨serial, contents⟩ := Node.file.inj file
    apply stands_of_find _ now newest
    · rw [named, ← place, ← serial]
      exact last
    · rw [length, contents, stands.whole]

/-- One use keeps the session sound and develops its tree by what it writes. -/
theorem advance (use : Use) :
    Develops path session.tree (Session.advance path session use).tree (session.patchBy use) ∧
      Sound path (Session.advance path session use) := by
  cases use with
  | opening size => exact ⟨develops_openSized path session.tree size, sound.opening size⟩
  | writing device offset data => exact sound.writing device offset data

omit sound in
/-- So does a run. The session is general in the induction, since every use goes on from what the
one before has left. -/
theorem run (uses : List Use) (session : Session) (sound : Sound path session) :
    Develops path session.tree (Session.run path session uses).tree (patches path session uses) ∧
      Sound path (Session.run path session uses) := by
  induction uses generalizing session with
  | nil => exact ⟨.refl path session.tree, sound⟩
  | cons use rest inductionHypothesis =>
    obtain ⟨first, between⟩ := sound.advance use
    obtain ⟨later, ended⟩ := inductionHypothesis _ between
    exact ⟨first.trans later, ended⟩

end Sound

end Session

/-- Opening an image never loses bytes. An opening that gives a device leaves the old bytes of the
image with zeros behind them, and the device has as many as there are; one that fails leaves
everything that was there. It does not fail where the path leads to a file or to nothing and the
image need not be made longer. Over every run of openings of one path with any sizes and of writes to
any of the devices that they gave, from any point of the run to any later one, the image is the same
file and gets no shorter, its bytes change only where they were written, and no other file changes.
The writes are those within their devices.
At every point, opening with no more bytes than the last device has does nothing and gives that
device again.

Proof: an opening gains directories and at most the file of the image, with its old bytes; a write
replaces a range in the file to which the path leads. Either develops the tree by what it writes,
and developments compose, since the path goes on leading to the image once it does. -/
theorem opening_never_loses_bytes (path : Path) :
    (∀ (before : FileTree) (size : Nat),
      let outcome := openSized before path size
      (∀ nvm, outcome.2 = .ok nvm → Opened before outcome.1 path size nvm) ∧
      (∀ cause, outcome.2 = .error cause → Unopened before outcome.1 path) ∧
      ∀ place, before.locate path = .ok place → path.endsInSeparator = false →
        before.node? place ≠ some .directory →
        size ≤ (before.bytesAt place).length → ∃ nvm, outcome.2 = .ok nvm) ∧
    ∀ (tree : FileTree) (earlier later : List Session.Use),
      let middle := Session.run path ⟨tree, []⟩ earlier
      let after := Session.run path middle later
      Develops path middle.tree after.tree (Session.patches path middle later) ∧
      (∀ nvm ∈ after.devices, ∀ (offset : Nat) (data : Bytes),
        ((Device.ofImage nvm).writeAt after.tree offset data).isOk = true ↔
          offset + data.length ≤ nvm.size) ∧
      ∀ nvm, after.devices.getLast? = some nvm → ∀ size, size ≤ nvm.size →
        openSized after.tree path size = (after.tree, .ok nvm) := by
  refine ⟨fun before size => ⟨fun nvm opened => ?_, fun cause refused => ?_,
    openSized_ok_of_locate before path size⟩, fun tree earlier later => ?_⟩
  · exact opened_of_openSized before _ path size nvm (Prod.ext rfl opened)
  · exact unopened_of_openSized before _ path size cause (Prod.ext rfl refused)
  · intro middle after
    have fresh : Session.Sound path ⟨tree, []⟩ :=
      ⟨fun _ never => absurd never List.not_mem_nil, fun _ last => by cases last⟩
    obtain ⟨_, between⟩ := fresh.run earlier
    obtain ⟨develops, ended⟩ := between.run later
    refine ⟨develops, fun nvm _ offset data => ?_, fun nvm last size roomy => ?_⟩
    · exact (Device.isOk_writeAt after.tree (.ofImage nvm) offset data).trans (and_iff_right rfl)
    obtain ⟨named, _⟩ := ended.attached nvm (List.mem_of_getLast? last)
    rw [← named]
    exact (ended.latest nvm last).openSized size roomy

/-- An image of two bytes is opened with four and then with six, and written through both devices; a
write behind the end of the first is refused though the image has the room. The bytes that nothing
was written over are the old ones or zeros. A length that the host does not take fails the opening
of another image, and the first one is left as it was. -/
theorem opening_never_loses_bytes_after_growing :
    let place : Place := [Utf8.bytes "d", Utf8.bytes "image"]
    let tree := (FileTree.fresh (Utf8.bytes "d")).putFile place [1, 2]
    let path : Path := .ofText "/d/image"
    let middle := Session.run path ⟨tree, []⟩ [.opening 4]
    let later : List Session.Use := [.writing 0 1 [9, 9], .opening 6, .writing 0 3 [7, 7],
      .writing 1 4 [8, 8], .opening 3]
    let after := Session.run path middle later
    (openSized tree path 4).1.readFile path = .ok [1, 2, 0, 0] ∧
      (openSized tree (.ofText "/new/image") 9223372036854775808).1.bytesAt place = [1, 2] ∧
      (∃ now, after.tree.node? place = some (.file 0 now) ∧ 6 ≤ now.length ∧ now[0]? = some 1 ∧
        now[1]? = some 9 ∧ now[3]? = some 0 ∧ now[4]? = some 8) ∧
      openSized after.tree path 5 = (after.tree, .ok ⟨path, ⟨place, 0⟩, 6⟩) := by
  intro place tree path middle later after
  have device : (openSized tree path 4).2 = .ok ⟨path, ⟨place, 0⟩, 4⟩ := by decide +kernel
  have old : tree.bytesAt place = [1, 2] := by decide +kernel
  have file : tree.node? place = some (.file 0 [1, 2]) := by decide +kernel
  have refused : (openSized tree (.ofText "/new/image") 9223372036854775808).2 =
      .error (.io .lengthTooLarge) := by decide +kernel
  have grown : middle.tree.node? place = some (.file 0 [1, 2, 0, 0]) := by decide +kernel
  have located : after.tree.locate path = .ok place := by decide +kernel
  have writes : Session.patches path middle later = [⟨1, [9, 9]⟩, ⟨4, [8, 8]⟩] := by decide +kernel
  have last : after.devices.getLast? = some ⟨path, ⟨place, 0⟩, 6⟩ := by decide +kernel
  obtain ⟨single, runs⟩ := opening_never_loses_bytes path
  have opened := (single tree 4).1 _ device
  have unopened := ((opening_never_loses_bytes (.ofText "/new/image")).1 tree _).2.1 _ refused
  obtain ⟨develops, _, again⟩ := runs tree [.opening 4] later
  have reached : Session.run path middle later = after := rfl
  have started : Session.run path ⟨tree, []⟩ [.opening 4] = middle := rfl
  rw [started, reached] at develops again
  rw [writes] at develops
  clear_value after middle
  obtain ⟨now, there, patched⟩ := develops.image place 0 _ grown located
  have long : 6 ≤ now.length := patched.inside ⟨4, [8, 8]⟩ (by decide)
  refine ⟨?_, ?_, ⟨now, there, long, ?_, ?_, ?_, ?_⟩, again _ last 5 (by decide)⟩
  · have image := opened.image
    rw [old] at image
    exact image
  · exact FileTree.bytesAt_of_file _ _ _ _ (unopened.others place _ file)
  · exact patched.bytes 0 (by omega)
  · exact patched.bytes 1 (by omega)
  · exact patched.bytes 3 (by omega)
  · exact patched.bytes 4 (by omega)

end DeviceParameters.ImageNvm
