import DeviceParameters.Proofs.Storage.Images

/-!
# Images that the host resizes

While an image is open the host can cut its file or extend it, as often as it likes. The size of the
device stays what it was, so the device and its file can differ in length, either way. A read needs
its range in both and then gives the bytes of the file; what lies in the device and no longer in the
file is refused by the host, and nothing is made up for it. A write needs its range in the device
alone: it reaches beyond the end of a file that was cut, and the gap in front of it reads as zeros.

`Turn.apply` tells the bytes of the file from what has happened to it, without a file tree. After any
run of turns the path of the image finds a file with just these bytes.
-/

namespace DeviceParameters.ImageNvm

open FileTree

/-- The path of an image finds its file, with the given contents; nothing is asked of their length. -/
def BackedBy (tree : FileTree) (nvm : ImageNvm) (contents : Bytes) : Prop :=
  tree.find nvm.path = .ok (nvm.handle.place, .file nvm.handle.serial contents)

/-- What happens to an open image. -/
inductive Turn where
  /-- The host sets the length of the file. -/
  | resize (length : Nat)
  | read (offset length : Nat)
  | write (offset : Nat) (data : Bytes)
  deriving DecidableEq

/-- The bytes of the file after one turn, by the size of the device. -/
def Turn.apply (size : Nat) (contents : Bytes) : Turn → Bytes
  | .resize length => contents.resize length
  | .read _ _ => contents
  | .write offset data =>
    if InBounds offset data.length size then contents.overwrite offset data else contents

/-- The tree after one turn. What is refused leaves it. -/
def after (nvm : ImageNvm) (tree : FileTree) : Turn → FileTree
  | .resize length => (tree.resizeFile nvm.path length).toOption.getD tree
  | .read _ _ => tree
  | .write offset data => (nvm.writeAt tree offset data).toOption.getD tree

/-- The tree after turns in order. -/
def afterAll (nvm : ImageNvm) (tree : FileTree) (turns : List Turn) : FileTree :=
  turns.foldl nvm.after tree

/-- An image that was opened, with a size or as it is, is backed by its file. -/
theorem backedBy_of_opened (before tree : FileTree) (path : Path) (nvm : ImageNvm)
    (opened : (∃ size, openSized before path size = (tree, .ok nvm)) ∨
      openExisting tree path = .ok nvm) :
    nvm.path = path ∧ BackedBy tree nvm (tree.contents nvm.handle) := by
  rcases opened with ⟨size, sized⟩ | existing
  · obtain ⟨stands, named, _⟩ := stands_of_openSized before path tree size nvm sized
    exact ⟨named, stands.found⟩
  · rw [openExisting] at existing
    split at existing
    · cases existing
    · rename_i handle opened
      obtain rfl := Except.ok.inj existing
      obtain ⟨⟨place, node⟩, found, taken⟩ := (bind_eq_ok _ _ _).mp opened
      cases node with
      | directory => cases taken
      | file serial contents =>
        obtain rfl := Except.ok.inj taken
        have held := contents_of_find tree path ⟨place, serial⟩ contents found
        refine ⟨rfl, ?_⟩
        rw [BackedBy, held]
        exact found

namespace BackedBy

variable {tree : FileTree} {nvm : ImageNvm} {contents : Bytes} (backed : BackedBy tree nvm contents)

include backed

/-- The bytes behind the handle are those of the file. -/
theorem contents_eq : tree.contents nvm.handle = contents :=
  contents_of_find tree nvm.path nvm.handle contents backed

/-- The host reads these bytes by the path. -/
theorem readFile : tree.readFile nvm.path = .ok contents :=
  (readFile_eq_ok _ _ _).mpr ⟨_, _, backed⟩

/-- Putting other bytes behind the handle changes the file to these. -/
theorem setContents (next : Bytes) : BackedBy (tree.setContents nvm.handle next) nvm next :=
  find_setContents tree nvm.path nvm.handle contents next backed

/-- A read of something is decided by the size of the device first and by the end of the file next,
and gives the bytes of the file. -/
theorem readAt (offset length : Nat) (something : 0 < length) :
    nvm.readAt tree offset length =
      if nvm.size < offset + length then .error (.readPastEnd offset length nvm.size)
      else if contents.length < offset + length then .error (.io .shortRead)
      else .ok (contents.slice offset length) := by
  rw [ImageNvm.readAt, backed.contents_eq]
  by_cases beyond : nvm.size < offset + length
  · have outside : ¬ InBounds offset length nvm.size := Nat.not_le_of_lt beyond
    rw [if_neg outside, if_pos beyond]
  · have inside : InBounds offset length nvm.size := Nat.le_of_not_lt beyond
    rw [if_pos inside, if_neg beyond, if_neg (Nat.ne_of_gt something)]
    by_cases cut : contents.length < offset + length
    · have missing : ¬ InBounds offset length contents.length := Nat.not_le_of_lt cut
      rw [if_neg missing, if_pos cut]
    · have present : InBounds offset length contents.length := Nat.le_of_not_lt cut
      rw [if_pos present, if_neg cut]

/-- A write within the device puts its data into the file, wherever the file ends. -/
theorem writeAt (offset : Nat) (data : Bytes) (inside : InBounds offset data.length nvm.size) :
    ∃ written, nvm.writeAt tree offset data = .ok written ∧
      BackedBy written nvm (contents.overwrite offset data) := by
  rw [ImageNvm.writeAt, if_pos inside]
  by_cases nothing : data = []
  · refine ⟨tree, if_pos nothing, ?_⟩
    rw [nothing, Bytes.overwrite_nil]
    exact backed
  · rw [if_neg nothing, backed.contents_eq]
    exact ⟨_, rfl, backed.setContents _⟩

/-- The host can give the file any length. -/
theorem resizeFile (length : Nat) :
    ∃ resized, tree.resizeFile nvm.path length = .ok resized ∧
      BackedBy resized nvm (contents.resize length) := by
  have handled := FileTree.openExisting_of_find tree nvm.path _ _ _ backed
  rw [FileTree.resizeFile, handled]
  refine ⟨_, rfl, ?_⟩
  rw [backed.contents_eq]
  exact backed.setContents _

/-- One turn leaves the image backed by the bytes that the turn tells. -/
theorem after (turn : Turn) : BackedBy (nvm.after tree turn) nvm (turn.apply nvm.size contents) := by
  cases turn with
  | resize length =>
    obtain ⟨resized, done, next⟩ := backed.resizeFile length
    rw [ImageNvm.after, done]
    exact next
  | read offset length => exact backed
  | write offset data =>
    rw [ImageNvm.after, Turn.apply]
    split
    · rename_i inside
      obtain ⟨written, done, next⟩ := backed.writeAt offset data inside
      rw [done]
      exact next
    · rename_i outside
      rw [ImageNvm.writeAt, if_neg outside]
      exact backed

/-- So does a run. The tree and the bytes are general in the induction, since every turn goes on from
what the one before has left. -/
theorem afterAll (turns : List Turn) :
    BackedBy (nvm.afterAll tree turns) nvm (turns.foldl (Turn.apply nvm.size) contents) := by
  induction turns generalizing tree contents with
  | nil => exact backed
  | cons turn rest inductionHypothesis => exact inductionHypothesis (backed.after turn)

end BackedBy

/-- Resizing the file of an image never makes the device give short or invented bytes. An image is
opened, with any size or as it is, and then read, written and resized by the host, any number of
times in any order. At every point the file has the bytes that these turns tell. A read of something
fails for the bounds of the device exactly if its range passes the size from the opening, and
otherwise fails on the host exactly if its range passes the present end of the file; if it does
neither, it gives the bytes of the file in its range, as many as were asked for. A write of something
fails exactly if its range passes the size from the opening. Otherwise the file is then as long as
before or reaches to the end of the data, and each of its bytes is that of the data in the range, a
zero in a gap between the old end and the data, and anywhere else what it was.

Proof: every turn leaves the path finding the same file, with the bytes that the turn tells. -/
theorem resizing_invents_no_bytes (before tree : FileTree) (path : Path) (nvm : ImageNvm)
    (opened : (∃ size, openSized before path size = (tree, .ok nvm)) ∨
      openExisting tree path = .ok nvm) (turns : List Turn) :
    let now := nvm.afterAll tree turns
    let held := turns.foldl (Turn.apply nvm.size) (tree.contents nvm.handle)
    now.readFile path = .ok held ∧
    (∀ offset length : Nat, 0 < length →
      let result := nvm.readAt now offset length
      if nvm.size < offset + length then result = .error (.readPastEnd offset length nvm.size)
      else if held.length < offset + length then result = .error (.io .shortRead)
      else ∃ bytes, result = .ok bytes ∧ bytes.length = length ∧
        ∀ index, index < length → bytes[index]? = held[offset + index]?) ∧
    ∀ (offset : Nat) (data : Bytes), data ≠ [] →
      let result := nvm.writeAt now offset data
      if nvm.size < offset + data.length then
        result = .error (.writePastEnd offset data.length nvm.size)
      else ∃ written next, result = .ok written ∧ written.readFile path = .ok next ∧
        next.length = max held.length (offset + data.length) ∧
        ∀ index : Nat, next[index]? =
          if offset ≤ index ∧ index < offset + data.length then data[index - offset]?
          else if held.length ≤ index ∧ index < offset then some 0
          else held[index]? := by
  intro now held
  obtain ⟨rfl, start⟩ := backedBy_of_opened before tree path nvm opened
  have backed : BackedBy now nvm held := start.afterAll turns
  refine ⟨backed.readFile, fun offset length something => ?_, fun offset data something => ?_⟩
  · intro result
    have answered : result = _ := backed.readAt offset length something
    rw [answered]
    split
    · rfl
    split
    · rfl
    · rename_i present
      refine ⟨held.slice offset length, rfl, ?_, fun index within => ?_⟩
      · rw [Bytes.slice, List.length_take, List.length_drop]
        omega
      · rw [Bytes.getElem?_slice, if_pos within]
  · intro result
    split
    · rename_i beyond
      have outside : ¬ InBounds offset data.length nvm.size := Nat.not_le_of_lt beyond
      exact if_neg outside
    · rename_i inside
      obtain ⟨written, done, next⟩ := backed.writeAt offset data (Nat.le_of_not_lt inside)
      exact ⟨written, _, done, next.readFile, Bytes.length_overwrite_eq_max held offset data something,
        fun index => Bytes.getElem?_overwrite_eq held offset data index something⟩

/-- An image of six bytes is cut to two. A read across the cut fails and gives nothing; a write behind
it makes the file five bytes long, with zeros between. When the file is then made longer than the
device ever was, the byte behind the end of the device still cannot be read. -/
theorem resizing_invents_no_bytes_behind_a_cut :
    let place : Place := [Utf8.bytes "d", Utf8.bytes "image"]
    let tree := (FileTree.fresh (Utf8.bytes "d")).putFile place [1, 2, 3, 4, 5, 6]
    let path : Path := .ofText "/d/image"
    let nvm : ImageNvm := ⟨path, ⟨place, 0⟩, 6⟩
    let cut := nvm.afterAll tree [.resize 2]
    let long := nvm.afterAll tree [.resize 2, .write 4 [9], .resize 8]
    nvm.readAt cut 1 3 = .error (.io .shortRead) ∧
      (∃ written next, nvm.writeAt cut 4 [9] = .ok written ∧ written.readFile path = .ok next ∧
        next.length = 5 ∧ next[1]? = some 2 ∧ next[2]? = some 0 ∧ next[4]? = some 9) ∧
      (∃ bytes, nvm.readAt long 1 4 = .ok bytes ∧ bytes.length = 4 ∧ bytes[1]? = some 0 ∧
        bytes[3]? = some 9) ∧
      nvm.readAt long 6 1 = .error (.readPastEnd 6 1 6) := by
  intro place tree path nvm cut long
  have opened : openExisting tree path = .ok nvm := by rfl
  have whole : tree.contents nvm.handle = [1, 2, 3, 4, 5, 6] := by decide +kernel
  obtain ⟨_, shortened, written⟩ :=
    resizing_invents_no_bytes tree tree path nvm (.inr opened) [.resize 2]
  obtain ⟨_, extended, _⟩ := resizing_invents_no_bytes tree tree path nvm (.inr opened)
    [.resize 2, .write 4 [9], .resize 8]
  rw [whole] at shortened written extended
  refine ⟨shortened 1 3 (by decide), ?_, ?_, extended 6 1 (by decide)⟩
  · obtain ⟨reached, next, done, read, length, bytes⟩ := written 4 [9] (by decide)
    exact ⟨reached, next, done, read, length, bytes 1, bytes 2, bytes 4⟩
  · obtain ⟨bytes, read, length, held⟩ := extended 1 4 (by decide)
    exact ⟨bytes, read, length, held 1 (by decide), held 3 (by decide)⟩

end DeviceParameters.ImageNvm
