import Mathlib.Data.List.TakeWhile
import DeviceParameters.Proofs.File.Refinement
import DeviceParameters.Proofs.Host.Entries

/-!
# The capacity of a volume

The space in use on a volume is the sum of the lengths of the files in its root, whoever put them
there. A set is admitted when the value fits into the capacity less the space in use, with the
space of the file that it replaces taken as free; after it exactly that much more is in use. So a
volume that was within its capacity stays so, and one that was not does not grow beyond what it
had: it can still be written where the new value is no longer than what there is room for, and
with an empty value always.

The admission is exact for a key whose file is missing or a file. A root may be written so long
that the path of the file is refused by the host; then nothing of that key can be set, whatever
room there is.
-/

namespace DeviceParameters

namespace Volume

variable (tree : FileTree) (volume : Volume) (place : Place) (name : String)

instance : Decidable (volume.RootAt tree place) :=
  inferInstanceAs (Decidable (tree.find volume.root = .ok (place, .directory)))

theorem files_eq (root : volume.RootAt tree place) :
    volume.files tree = .ok (tree.filesIn place) := by
  have listing := (tree.listDirectory_eq_ok volume.root _).mpr ⟨place, root, rfl⟩
  rw [files, listing]
  rfl

/-- Counting file after file in a word comes to the sum of the lengths, brought into a word once.
The start of the count is general in the induction. -/
theorem foldl_wordSum (files : List (Name × Bytes)) (start : Nat) :
    files.foldl (fun used file => wordSum used file.2.length) (start % wordLimit) =
      (start + FileTree.totalLength files) % wordLimit := by
  induction files generalizing start with
  | nil => rfl
  | cons file rest inductionHypothesis =>
    have first : wordSum (start % wordLimit) file.2.length = (start + file.2.length) % wordLimit :=
      Nat.mod_add_mod _ _ _
    rw [List.foldl_cons, first, inductionHypothesis, Nat.add_assoc]
    rfl

/-- The space in use is what the files of the root take up, as far as a word can tell. -/
theorem usedBytes_eq (root : volume.RootAt tree place) :
    volume.usedBytes tree = .ok (tree.occupied place % wordLimit) := by
  have counted := foldl_wordSum (tree.filesIn place) 0
  rw [Nat.zero_mod, Nat.zero_add] at counted
  rw [usedBytes, files_eq tree volume place root]
  exact congrArg Except.ok counted

/-- What a word can hold is counted exactly. -/
theorem usedBytes_of_lt (root : volume.RootAt tree place) (small : tree.occupied place < wordLimit) :
    volume.usedBytes tree = .ok (tree.occupied place) := by
  rw [usedBytes_eq tree volume place root, Nat.mod_eq_of_lt small]

/-- The files that are listed are those whose names are text. -/
theorem list_eq (root : volume.RootAt tree place) :
    volume.list tree = .ok
      (((tree.fileNames place).mergeSort FileTree.listedBefore).filterMap Utf8.text?) := by
  rw [list, files_eq tree volume place root]
  rfl

/-- The room for new contents of an entry of the root: what is not counted as in use, and what its
file would set free. -/
def roomFor : Nat :=
  volume.capacity -
    (tree.occupied place % wordLimit - tree.fileLength (place ++ [Utf8.bytes name]))

/-- There is no less room than what is not in use, and what the file of the entry would set free. -/
theorem le_roomFor :
    volume.capacity - (tree.occupied place - tree.fileLength (place ++ [Utf8.bytes name])) ≤
      volume.roomFor tree place name :=
  Nat.sub_le_sub_left (Nat.sub_le_sub_right (Nat.mod_le _ _) _) _

/-- Where a word can hold what is in use, there is no more room than that. -/
theorem roomFor_of_lt (small : tree.occupied place < wordLimit) :
    volume.roomFor tree place name =
      volume.capacity - (tree.occupied place - tree.fileLength (place ++ [Utf8.bytes name])) := by
  rw [roomFor, Nat.mod_eq_of_lt small]

/-- Writing an entry whose path is too long is refused for that. -/
theorem write_of_tooLong (contents : Bytes) (root : volume.RootAt tree place)
    (entry : Path.IsEntryName (Utf8.bytes name)) (long : volume.IsTooLong name) :
    volume.write tree name contents = .error (.io .nameTooLong) := by
  have located := locate_of_tooLong tree volume place name root entry long
  have lost : replacedLength tree (volume.pathFor name) = .error (.io .nameTooLong) := by
    rw [replacedLength, FileTree.stat, FileTree.find_of_locate_error tree _ _ located]
    rfl
  rw [write, lost]
  rfl

/-- What writing by a path would replace is the file to which it leads, if that is one. -/
theorem replacedLength_of_locate (path : Path) (located : tree.locate path = .ok place)
    (plain : path.endsInSeparator = false) (free : tree.node? place ≠ some .directory) :
    replacedLength tree path = .ok (tree.fileLength place) := by
  rw [replacedLength, FileTree.stat, FileTree.find_of_locate tree path place located, plain,
    FileTree.fileLength]
  cases stands : tree.node? place with
  | none => rfl
  | some node =>
    cases node with
    | directory => exact absurd stands free
    | file serial old => rfl

/-- What writing would replace is the file in its place, if that is one. -/
theorem replacedLength_eq (root : volume.RootAt tree place)
    (entry : Path.IsEntryName (Utf8.bytes name)) (short : ¬ volume.IsTooLong name)
    (free : tree.node? (place ++ [Utf8.bytes name]) ≠ some .directory) :
    replacedLength tree (volume.pathFor name) =
      .ok (tree.fileLength (place ++ [Utf8.bytes name])) :=
  replacedLength_of_locate tree _ (volume.pathFor name)
    (locate_of_short tree volume place name root entry short)
    (endsInSeparator_pathFor tree volume place name root entry) free

/-- Writing an entry in whose place no directory stands first asks for room, and then is left to
the host. -/
theorem write_of_free (contents : Bytes) (root : volume.RootAt tree place)
    (entry : Path.IsEntryName (Utf8.bytes name)) (short : ¬ volume.IsTooLong name)
    (free : tree.node? (place ++ [Utf8.bytes name]) ≠ some .directory) :
    volume.write tree name contents =
      if volume.roomFor tree place name < contents.length then
        .error (.noSpace contents.length (volume.roomFor tree place name))
      else match tree.writeFile (volume.pathFor name) contents with
        | .error cause => .error (.io cause)
        | .ok written => .ok written := by
  rw [write, replacedLength_eq tree volume place name root entry short free,
    usedBytes_eq tree volume place root]
  rfl

/-- An entry with room for its contents is written. -/
theorem write_ok_of_room (contents : Bytes) (root : volume.RootAt tree place)
    (entry : Path.IsEntryName (Utf8.bytes name)) (short : ¬ volume.IsTooLong name)
    (free : tree.node? (place ++ [Utf8.bytes name]) ≠ some .directory)
    (room : contents.length ≤ volume.roomFor tree place name) :
    ∃ after, volume.write tree name contents = .ok after := by
  obtain ⟨after, written⟩ := FileTree.writeFile_join_ok tree place volume.root (Utf8.bytes name)
    contents root entry short free
  have stored : tree.writeFile (volume.pathFor name) contents = .ok after := written
  refine ⟨after, ?_⟩
  rw [write_of_free tree volume place name contents root entry short free,
    if_neg (Nat.not_lt_of_le room), stored]

/-- A write that succeeds had room, and has replaced the entry of the name.

Proof: the path is not too long and no directory stands in the place, since either would have
refused the write; so it is one that asks for room. -/
theorem room_of_write (after : FileTree) (contents : Bytes) (root : volume.RootAt tree place)
    (entry : Path.IsEntryName (Utf8.bytes name))
    (written : volume.write tree name contents = .ok after) :
    contents.length ≤ volume.roomFor tree place name ∧
      FileTree.Replaces tree after (place ++ [Utf8.bytes name]) contents := by
  obtain ⟨_, standing, located, _, replaced⟩ :=
    replaces_of_write tree volume name after contents written
  by_cases long : volume.IsTooLong name
  · rw [locate_of_tooLong tree volume place name root entry long] at located
    cases located
  rw [locate_of_short tree volume place name root entry long] at located
  obtain rfl := Except.ok.inj located
  refine ⟨?_, replaced⟩
  rw [write_of_free tree volume place name contents root entry long replaced.free] at written
  split at written
  · cases written
  · rename_i room
    exact Nat.le_of_not_lt room

end Volume

namespace FileStore

variable (tree : FileTree) (volume : Volume) (place : Place) (key value : String)

/-- A set of an accepted key is the write of its file. -/
theorem set_of_ofKey (name : String) (named : FileName.ofKey key = .ok name) :
    set tree ⟨some volume⟩ key value =
      match volume.write tree name (Utf8.bytes value) with
      | .error cause => ⟨.error (.storage cause), tree, [.fileWriteFailed key cause]⟩
      | .ok written => ⟨.ok .stored, written, []⟩ := by
  cases written : volume.write tree name (Utf8.bytes value) with
  | error cause => simp [set, named, written]
  | ok after => simp [set, named, written]

/-- What setting an accepted key comes to, and what is in use then, where the file of the key is
missing or a file. It is refused for a path that is too long, refused for want of room, or stored
with the space of the old file given back. -/
theorem set_by_room (name : String) (root : volume.RootAt tree place)
    (named : FileName.ofKey key = .ok name)
    (free : tree.node? (place ++ [Utf8.bytes name]) ≠ some .directory) :
    let room := volume.roomFor tree place name
    let reply := set tree ⟨some volume⟩ key value
    if volume.IsTooLong name then
      reply.result = .error (.storage (.io .nameTooLong)) ∧ reply.state = tree
    else if room < Utf8.size value then
      reply.result = .error (.storage (.noSpace (Utf8.size value) room)) ∧ reply.state = tree
    else
      reply.result = .ok .stored ∧ volume.RootAt reply.state place ∧
        reply.state.occupied place =
          tree.occupied place - tree.fileLength (place ++ [Utf8.bytes name]) + Utf8.size value := by
  intro room reply
  have entry := FileName.isEntryName_of_ofKey key name named
  have asked : reply = _ := set_of_ofKey tree volume key value name named
  split
  · rename_i long
    rw [asked, Volume.write_of_tooLong tree volume place name _ root entry long]
    exact ⟨rfl, rfl⟩
  rename_i short
  split
  · rename_i crowded
    have refused :=
      Volume.write_of_free tree volume place name (Utf8.bytes value) root entry short free
    rw [if_pos (show room < (Utf8.bytes value).length from crowded)] at refused
    rw [asked, refused]
    exact ⟨rfl, rfl⟩
  · rename_i roomy
    obtain ⟨after, written⟩ := Volume.write_ok_of_room tree volume place name (Utf8.bytes value)
      root entry short free (Nat.le_of_not_lt roomy)
    obtain ⟨_, replaced⟩ := Volume.room_of_write tree volume place name after _ root entry written
    rw [asked, written]
    exact ⟨rfl, Volume.rootAt_of_replaces tree volume place after _ _ root replaced,
      replaced.occupied⟩

/-- A set leaves no more in use than the capacity or than before, and no more than the capacity
if it stored anything. A count that had wrapped round would let it store more. -/
theorem occupied_set (root : volume.RootAt tree place)
    (small : tree.occupied place < Volume.wordLimit) :
    let reply := set tree ⟨some volume⟩ key value
    reply.state.occupied place ≤ max volume.capacity (tree.occupied place) ∧
      (reply.result.isOk = true → 0 < Utf8.size value →
        reply.state.occupied place ≤ volume.capacity) := by
  intro reply
  obtain ⟨error, refused, unchanged⟩ | ⟨name, named, _, written⟩ :=
    set_refused_or_written tree volume key value
  · constructor
    · rw [show reply.state = tree from unchanged]
      exact Nat.le_max_right _ _
    · intro granted
      rw [show reply.result = .error error from refused] at granted
      cases granted
  · obtain ⟨room, replaced⟩ := Volume.room_of_write tree volume place name reply.state _ root
      (FileName.isEntryName_of_ofKey key name named) written
    have used := replaced.occupied
    have size : (Utf8.bytes value).length = Utf8.size value := rfl
    rw [Volume.roomFor_of_lt tree volume place name small] at room
    omega

/-- A bound on what is in use that is no less than the capacity, and that a word can hold, is kept by
a set. -/
theorem occupied_set_le (bound : Nat) (root : volume.RootAt tree place)
    (within : tree.occupied place ≤ bound) (least : volume.capacity ≤ bound)
    (word : bound < Volume.wordLimit) :
    let after := (set tree ⟨some volume⟩ key value).state
    volume.RootAt after place ∧ after.occupied place ≤ bound := by
  intro after
  have small : tree.occupied place < Volume.wordLimit := Nat.lt_of_le_of_lt within word
  obtain ⟨next, _⟩ := occupied_set tree volume place key value root small
  constructor
  · exact rootAt_of_set tree volume key value place root
  · exact Nat.le_trans next (Nat.max_le.mpr ⟨least, within⟩)

/-- Where a word can hold the capacity and what is in use, the room is told by these numbers, and so
is what is in use afterwards. -/
theorem set_by_counted_room (name : String) (root : volume.RootAt tree place)
    (word : volume.capacity < Volume.wordLimit) (small : tree.occupied place < Volume.wordLimit)
    (named : FileName.ofKey key = .ok name)
    (free : tree.node? (place ++ [Utf8.bytes name]) ≠ some .directory) :
    let used := tree.occupied place
    let existing := tree.fileLength (place ++ [Utf8.bytes name])
    let available := volume.capacity - (used - existing)
    let reply := set tree ⟨some volume⟩ key value
    if volume.IsTooLong name then
      reply.result = .error (.storage (.io .nameTooLong)) ∧ reply.state = tree
    else if available < Utf8.size value then
      reply.result = .error (.storage (.noSpace (Utf8.size value) available)) ∧ reply.state = tree
    else
      reply.result = .ok .stored ∧
        volume.usedBytes reply.state = .ok (used - existing + Utf8.size value) := by
  intro used existing available reply
  have decided := set_by_room tree volume place key value name root named free
  dsimp only at decided
  rw [Volume.roomFor_of_lt tree volume place name small] at decided
  by_cases long : volume.IsTooLong name
  · rw [if_pos long] at decided ⊢
    exact decided
  rw [if_neg long] at decided ⊢
  by_cases crowded : available < Utf8.size value
  · rw [if_pos crowded]
    rw [if_pos (show _ < _ from crowded)] at decided
    exact decided
  · rw [if_neg crowded]
    rw [if_neg (show ¬ _ < _ from crowded)] at decided
    obtain ⟨stored, there, left⟩ := decided
    have fits : reply.state.occupied place < Volume.wordLimit := by
      rw [left]
      omega
    refine ⟨stored, ?_⟩
    rw [Volume.usedBytes_of_lt reply.state volume place there fits, left]

end FileStore

namespace ParameterStore

/-- What every set on a mounted store keeps of the tree, a run of sets keeps. -/
theorem setAll_files_keeps (volume : Volume) (kept : FileTree → Prop)
    (step : ∀ tree key value, kept tree → kept (FileStore.set tree ⟨some volume⟩ key value).state)
    (requests : List Request) (tree : FileTree) (start : kept tree) :
    ∃ after, setAll (tree, .files ⟨some volume⟩) requests = (after, .files ⟨some volume⟩) ∧
      kept after := by
  induction requests generalizing tree with
  | nil => exact ⟨tree, rfl, start⟩
  | cons request rest inductionHypothesis =>
    exact inductionHypothesis _ (step tree request.key request.value start)

/-- At every point of a run of sets on a mounted store, no more is in use than the capacity or
than at the start, whichever is larger; a set that then stores something leaves no more than the
capacity. The next set of an accepted key, whose file is missing or a file, is decided by the room
alone: it asks for the length of its value, and has what is neither in use nor set free by the
file that it replaces. Only a path that is too long refuses it otherwise. The capacity is a word,
and at the start a word can hold what is in use.

Proof: one set keeps the bound, and so does a run. The bound is a word, so the count never wraps
round; the rest is one more set. -/
theorem files_stay_within_capacity (tree : FileTree) (volume : Volume) (place : Place)
    (root : volume.RootAt tree place) (word : volume.capacity < Volume.wordLimit)
    (small : tree.occupied place < Volume.wordLimit) (requests : List Request) :
    let after := setAll (tree, .files ⟨some volume⟩) requests
    ∃ initial used, volume.usedBytes tree = .ok initial ∧ volume.usedBytes after.1 = .ok used ∧
      initial = tree.occupied place ∧ used = after.1.occupied place ∧
      used ≤ max volume.capacity initial ∧
      (initial ≤ volume.capacity → used ≤ volume.capacity) ∧
      (∀ key value : String,
        let reply := after.2.set after.1 key value
        reply.result.isOk = true → value ≠ "" →
          ∃ left, volume.usedBytes reply.state.1 = .ok left ∧ left ≤ volume.capacity) ∧
      ∀ key name value : String, FileName.ofKey key = .ok name →
        after.1.node? (place ++ [Utf8.bytes name]) ≠ some .directory →
        let existing := after.1.fileLength (place ++ [Utf8.bytes name])
        let available := volume.capacity - (used - existing)
        let reply := after.2.set after.1 key value
        if volume.IsTooLong name then
          reply.result = .error (.storage (.io .nameTooLong)) ∧ reply.state.1 = after.1
        else if available < Utf8.size value then
          reply.result = .error (.storage (.noSpace (Utf8.size value) available)) ∧
            reply.state.1 = after.1
        else
          reply.result = .ok .stored ∧
            volume.usedBytes reply.state.1 = .ok (used - existing + Utf8.size value) := by
  intro after
  -- The invariant is the bound together with the root, which every set looks up again.
  let bound := max volume.capacity (tree.occupied place)
  have fits : bound < Volume.wordLimit := Nat.max_lt.mpr ⟨word, small⟩
  obtain ⟨reached, ends, still, bounded⟩ := setAll_files_keeps volume
    (fun now => volume.RootAt now place ∧ now.occupied place ≤ bound)
    (fun now key value ⟨stands, within⟩ =>
      FileStore.occupied_set_le now volume place key value bound stands within
        (Nat.le_max_left _ _) fits)
    requests tree ⟨root, Nat.le_max_right _ _⟩
  have state : after = (reached, .files ⟨some volume⟩) := ends
  have held : reached.occupied place < Volume.wordLimit := Nat.lt_of_le_of_lt bounded fits
  rw [state]
  refine ⟨tree.occupied place, reached.occupied place,
    Volume.usedBytes_of_lt tree volume place root small,
    Volume.usedBytes_of_lt reached volume place still held, rfl, rfl, bounded, ?_, ?_, ?_⟩
  · intro start
    exact Nat.le_trans bounded (Nat.max_le.mpr ⟨Nat.le_refl _, start⟩)
  · intro key value reply granted something
    have size : 0 < Utf8.size value := by
      apply List.length_pos_iff.mpr
      intro empty
      exact something (Utf8.bytes_injective value "" empty)
    have next := FileStore.rootAt_of_set reached volume key value place still
    have within := (FileStore.occupied_set reached volume place key value still held).2 granted size
    exact ⟨_, Volume.usedBytes_of_lt _ volume place next (Nat.lt_of_le_of_lt within word), within⟩
  · intro key name value named free existing available reply
    exact FileStore.set_by_counted_room reached volume place key value name still word held named
      free

/-- A file that is no parameter leaves two bytes of twelve. The one byte of a key counts as free
when the key is set again, so two bytes are stored and three are not. -/
theorem files_stay_within_capacity_beside_other_file :
    let directory := Utf8.bytes "flash"
    let tree := (FileTree.fresh directory).putFile [directory, Utf8.bytes "notes.txt"]
      (Utf8.bytes "0123456789")
    let volume : Volume := ⟨.ofText "/flash", 12⟩
    let after := setAll (tree, .files ⟨some volume⟩) [⟨"ssid", "1"⟩]
    volume.RootAt tree [directory] ∧
      (after.2.set after.1 "ssid" "123").result = .error (.storage (.noSpace 3 2)) ∧
      volume.usedBytes (after.2.set after.1 "ssid" "12").state.1 = .ok 12 := by
  intro directory tree volume after
  have root : volume.RootAt tree [directory] := by decide +kernel
  have inUse : volume.usedBytes after.1 = .ok 11 := by decide +kernel
  have named : FileName.ofKey "ssid" = .ok "ssid.par" := by decide +kernel
  have free : after.1.node? ([directory] ++ [Utf8.bytes "ssid.par"]) ≠ some .directory := by
    decide +kernel
  have short : ¬ volume.IsTooLong "ssid.par" := by decide +kernel
  have existing : after.1.fileLength ([directory] ++ [Utf8.bytes "ssid.par"]) = 1 := by
    decide +kernel
  have three : Utf8.size "123" = 3 := by decide +kernel
  have two : Utf8.size "12" = 2 := by decide +kernel
  have result := files_stay_within_capacity tree volume [directory] root (by decide +kernel)
    (by decide +kernel) [⟨"ssid", "1"⟩]
  -- The state is named before it is compared, so that nothing evaluates it again.
  have ended : setAll (tree, .files ⟨some volume⟩) [⟨"ssid", "1"⟩] = after := rfl
  simp only [ended] at result
  clear_value after
  obtain ⟨initial, used, _, known, _, _, _, _, _, decided⟩ := result
  obtain rfl : 11 = used := Except.ok.inj (inUse.symm.trans known)
  have larger := decided "ssid" "ssid.par" "123" named free
  have fitting := decided "ssid" "ssid.par" "12" named free
  rw [if_neg short, existing, three, if_pos (by decide)] at larger
  rw [if_neg short, existing, two, if_neg (by decide)] at fitting
  exact ⟨root, larger.1, fitting.2⟩

/-- A root with four thousand separators behind its name is still the directory, and a set of
three bytes on its empty volume is refused, though there is room for them. -/
theorem roomy_set_refused_under_long_root :
    let directory := Utf8.bytes "flash"
    let tree := FileTree.fresh directory
    let volume : Volume := ⟨⟨Utf8.bytes "/flash" ++ List.replicate 4084 Path.separator⟩, 140⟩
    let reply := FileStore.set tree ⟨some volume⟩ "ssid" "net"
    volume.RootAt tree [directory] ∧ tree.occupied [directory] < Volume.wordLimit ∧
      volume.usedBytes tree = .ok 0 ∧ FileName.ofKey "ssid" = .ok "ssid.par" ∧
      tree.node? [directory, Utf8.bytes "ssid.par"] = none ∧ Utf8.size "net" ≤ 140 - (0 - 0) ∧
      reply.result ≠ .ok .stored := by
  decide +kernel

end ParameterStore

end DeviceParameters
