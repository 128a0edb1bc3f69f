import Mathlib.Data.List.Basic
import DeviceParameters.Proofs.File.Keys

/-!
# Filling an empty volume

A volume whose root was empty holds what was set on it and nothing else: one file for each request,
if no key was requested twice. The space in use is then that of the values, so requests whose values
fit together are all stored, in any order. The keys are reported in the order of the requests, if
these come in the order of the file names.

A key whose path is too long is refused, and leaves the volume as it was for those that follow. A
request for a key that was set before takes the stead of the earlier one.
-/

namespace DeviceParameters

namespace Request

/-- The file that a request asks for. -/
def file (request : Request) : Name × Bytes :=
  (FileName.entryOf request.key, Utf8.bytes request.value)

/-- The bytes in the values of requests together. -/
def totalSize (requests : List Request) : Nat :=
  requests.foldr (fun request size => Utf8.size request.value + size) 0

theorem totalSize_cons (request : Request) (rest : List Request) :
    totalSize (request :: rest) = Utf8.size request.value + totalSize rest := rfl

theorem totalSize_append (front back : List Request) :
    totalSize (front ++ back) = totalSize front + totalSize back := by
  induction front with
  | nil => exact (Nat.zero_add _).symm
  | cons request rest inductionHypothesis =>
    rw [List.cons_append, totalSize_cons, inductionHypothesis, totalSize_cons, Nat.add_assoc]

/-- Some of the requests have no more bytes than all of them. -/
theorem totalSize_le_of_sublist {fewer requests : List Request} (part : fewer.Sublist requests) :
    totalSize fewer ≤ totalSize requests := by
  induction part with
  | slnil => exact Nat.le_refl _
  | cons request _ inductionHypothesis =>
    exact Nat.le_trans inductionHypothesis (Nat.le_add_left _ _)
  | cons_cons request _ inductionHypothesis => exact Nat.add_le_add_left inductionHypothesis _

theorem totalLength_file (requests : List Request) :
    FileTree.totalLength (requests.map file) = totalSize requests := by
  induction requests with
  | nil => rfl
  | cons request rest inductionHypothesis =>
    exact congrArg (Utf8.size request.value + ·) inductionHypothesis

end Request

namespace Volume

/-- The path of the file of a key is too long to be walked. -/
def CannotReach (volume : Volume) (key : String) : Prop :=
  volume.IsTooLong (String.ofList (key.toList ++ FileName.ending))

instance (volume : Volume) (key : String) : Decidable (volume.CannotReach key) :=
  inferInstanceAs (Decidable (volume.IsTooLong _))

theorem cannotReach_iff (volume : Volume) (key name : String)
    (named : FileName.ofKey key = .ok name) :
    volume.CannotReach key ↔ volume.IsTooLong name := by
  rw [((FileName.ofKey_eq_ok _ _).mp named).2, CannotReach]

/-- The root of a volume holds the files of some requests and nothing else. -/
structure HoldsExactly (tree : FileTree) (volume : Volume) (place : Place)
    (held : List Request) : Prop where
  root : volume.RootAt tree place
  free : ∀ name, tree.node? (place ++ [name]) ≠ some .directory
  files : (tree.filesIn place).Perm (held.map Request.file)

namespace HoldsExactly

variable {tree after : FileTree} {volume : Volume} {place : Place} {held : List Request}

/-- An empty root holds the files of no requests. -/
theorem of_vacant (root : volume.RootAt tree place) (vacant : tree.children place = []) :
    HoldsExactly tree volume place [] where
  root := root
  free name := by simp [(tree.children_eq_nil_iff place).mp vacant name]
  files := by
    rw [FileTree.filesIn, vacant]
    exact .refl _

variable (holds : HoldsExactly tree volume place held)

include holds

/-- In which order the requests are told says nothing about the files. -/
theorem of_perm {arranged : List Request} (same : held.Perm arranged) :
    HoldsExactly tree volume place arranged where
  root := holds.root
  free := holds.free
  files := holds.files.trans (same.map _)

/-- The space in use is that of the values. -/
theorem occupied : tree.occupied place = Request.totalSize held :=
  (FileTree.totalLength_of_perm holds.files).trans (Request.totalLength_file held)

/-- The names in use are those of the keys. -/
theorem fileNames :
    (tree.fileNames place).Perm (held.map fun request => FileName.entryOf request.key) := by
  have names := holds.files.map Prod.fst
  rw [List.map_map] at names
  exact names

/-- A key that was not requested has no file. -/
theorem not_isFile (key : String) (new : key ∉ held.map Request.key) :
    ¬ tree.IsFile (place ++ [FileName.entryOf key]) := by
  rw [← tree.mem_fileNames, holds.fileNames.mem_iff, List.mem_map]
  rintro ⟨request, member, same⟩
  obtain rfl := FileName.entryOf_injective _ _ same
  exact new (List.mem_map.mpr ⟨request, member, rfl⟩)

/-- The requests whose files are held can be told in the order of the file names. -/
theorem arranged : ∃ arranged, held.Perm arranged ∧ arranged.Pairwise fun left right =>
    FileName.entryOf left.key < FileName.entryOf right.key := by
  have shuffled := List.mergeSort_perm held fun left right =>
    FileTree.listedBefore (FileName.entryOf left.key) (FileName.entryOf right.key)
  refine ⟨_, shuffled.symm, ?_⟩
  have distinct := ((holds.of_perm shuffled.symm).fileNames.nodup_iff).mp
    (tree.fileNames_distinct place)
  have ascending := FileTree.listed_ascending_by (fun request => FileName.entryOf request.key) held
  apply (ascending.and (List.pairwise_map.mp distinct)).imp
  rintro left right ⟨before, different⟩
  exact (List.le_iff_lt_or_eq.mp before).resolve_right different

/-- Writing the file of a key puts the request in the stead of those for the same key. -/
theorem of_replaces (request : Request)
    (replaced : FileTree.Replaces tree after (place ++ [FileName.entryOf request.key])
      (Utf8.bytes request.value)) :
    HoldsExactly after volume place
      (held.filter (fun old => old.key ≠ request.key) ++ [request]) where
  root := rootAt_of_replaces tree volume place after _ _ holds.root replaced
  free name := by
    by_cases same : name = FileName.entryOf request.key
    · obtain ⟨serial, stands⟩ := replaced.there
      rw [same, stands]
      simp
    · rw [replaced.elsewhere _ (by simpa using same)]
      exact holds.free name
  files := by
    have apart : (fun old : Request => decide (old.key ≠ request.key)) =
        (fun file : Name × Bytes => decide (file.1 ≠ FileName.entryOf request.key)) ∘
          Request.file := by
      funext old
      exact decide_eq_decide.mpr (not_congr
        ⟨congrArg FileName.entryOf, FileName.entryOf_injective old.key request.key⟩)
    have others : (tree.filesBeside place (FileName.entryOf request.key)).Perm
        ((held.filter fun old => old.key ≠ request.key).map Request.file) := by
      rw [apart, ← List.filter_map]
      exact holds.files.filter _
    rw [List.map_append]
    exact replaced.filesIn.trans
      ((others.cons request.file).trans (List.perm_append_singleton _ _).symm)

/-- Writing the file of a new key adds that request to those whose files are held. -/
theorem of_replaces_of_new (request : Request) (new : request.key ∉ held.map Request.key)
    (replaced : FileTree.Replaces tree after (place ++ [FileName.entryOf request.key])
      (Utf8.bytes request.value)) : HoldsExactly after volume place (held ++ [request]) := by
  have others : held.filter (fun old => old.key ≠ request.key) = held := by
    apply List.filter_eq_self.mpr
    intro old member
    exact decide_eq_true fun same => new (same ▸ List.mem_map.mpr ⟨old, member, rfl⟩)
  rw [← others]
  exact holds.of_replaces request replaced

/-- One more request with an accepted key that is new, and with room for its value: it is stored and
held, or refused with nothing changed because the path of its file is too long. -/
theorem set (request : Request) (name : String) (named : FileName.ofKey request.key = .ok name)
    (new : request.key ∉ held.map Request.key)
    (roomy : Request.totalSize held + Utf8.size request.value ≤ volume.capacity) :
    let reply := FileStore.set tree ⟨some volume⟩ request.key request.value
    reply.result = (if volume.CannotReach request.key then .error (.storage (.io .nameTooLong))
      else .ok .stored) ∧
      HoldsExactly reply.state volume place
        (held ++ [request].filter fun asked => ¬ volume.CannotReach asked.key) := by
  intro reply
  have bytes : Utf8.bytes name = FileName.entryOf request.key :=
    FileName.bytes_of_ofKey request.key name named
  have room : ¬ volume.roomFor tree place name < Utf8.size request.value := by
    have unused := tree.fileLength_of_not_isFile _ (holds.not_isFile request.key new)
    have least := le_roomFor tree volume place name
    rw [bytes, unused, holds.occupied] at least
    omega
  have decided := FileStore.set_by_room tree volume place request.key request.value name holds.root
    named (holds.free _)
  dsimp only at decided
  rw [if_neg room] at decided
  have reaches := cannotReach_iff volume request.key name named
  by_cases beyond : volume.CannotReach request.key
  · rw [if_pos (reaches.mp beyond)] at decided
    rw [if_pos beyond]
    refine ⟨decided.1, ?_⟩
    rw [show reply.state = tree from decided.2]
    simpa [beyond] using holds
  · rw [if_neg (mt reaches.mpr beyond)] at decided
    rw [if_neg beyond]
    refine ⟨decided.1, ?_⟩
    obtain ⟨_, refused, _⟩ | ⟨written, writtenNamed, _, done⟩ :=
      FileStore.set_refused_or_written tree volume request.key request.value
    · rw [decided.1] at refused
      cases refused
    · obtain rfl : name = written := Except.ok.inj (named.symm.trans writtenNamed)
      obtain ⟨_, replaced⟩ := room_of_write tree volume place name _ _ holds.root
        (FileName.isEntryName_of_ofKey _ name named) done
      rw [bytes] at replaced
      simpa [beyond] using holds.of_replaces_of_new request new replaced

/-- What is held under a key that can be reached is what the key reads as. -/
theorem get (request : Request) (name : String) (named : FileName.ofKey request.key = .ok name)
    (reached : ¬ volume.CannotReach request.key) (member : request ∈ held) :
    (FileStore.get tree ⟨some volume⟩ request.key).result = .ok request.value := by
  have short := mt (cannotReach_iff volume request.key name named).mpr reached
  have there : request.file ∈ tree.filesIn place :=
    holds.files.mem_iff.mpr (List.mem_map.mpr ⟨request, member, rfl⟩)
  obtain ⟨serial, stands⟩ := (tree.mem_filesIn place _ _).mp there
  have bytes := FileName.bytes_of_ofKey request.key name named
  have spelled : Utf8.text (Utf8.bytes request.value) = .ok request.value :=
    (Utf8.text_eq_ok_iff _ _).mpr rfl
  have read := read_eq tree volume place name holds.root
    (FileName.isEntryName_of_ofKey _ name named)
  rw [if_neg short, bytes, show Utf8.bytes request.key ++ FileName.endingBytes =
    FileName.entryOf request.key from rfl, stands] at read
  simp only [FileStore.get, named, read, spelled]

/-- The keys are reported in the order in which they are held, where that is the order of the file
names. -/
theorem keys (accepted : ∀ request ∈ held, ∃ name, FileName.ofKey request.key = .ok name)
    (ascending : held.Pairwise fun left right =>
      FileName.entryOf left.key < FileName.entryOf right.key) :
    FileStore.keys tree ⟨some volume⟩ = .ok (held.map Request.key) := by
  apply FileStore.keys_of_arranged tree volume place holds.root _ _ holds.fileNames
  · exact List.pairwise_map.mpr (ascending.imp List.le_of_lt)
  · rw [List.filterMap_map]
    have read : ∀ request ∈ held,
        (FileName.keyOf ∘ fun request : Request => FileName.entryOf request.key) request =
          some request.key := by
      intro request member
      obtain ⟨name, named⟩ := accepted request member
      exact FileName.keyOf_entryOf request.key name named
    rw [List.filterMap_congr read, List.filterMap_eq_map']

end HoldsExactly

end Volume

namespace ParameterStore

/-- Requests with accepted keys, each for a key of its own that is new, and with room for all their
values: those that can be reached are stored, and are held together with what was held before. The
requests held before are general in the induction. -/
theorem files_run_of_new (volume : Volume) (place : Place) (requests held : List Request)
    (tree : FileTree) (holds : volume.HoldsExactly tree place held)
    (accepted : ∀ request ∈ requests, ∃ name, FileName.ofKey request.key = .ok name)
    (distinct : ((held ++ requests).map Request.key).Nodup)
    (roomy : Request.totalSize (held ++ requests) ≤ volume.capacity) :
    ∃ after, setAll (tree, .files ⟨some volume⟩) requests = (after, .files ⟨some volume⟩) ∧
      volume.HoldsExactly after place
        (held ++ requests.filter fun request => ¬ volume.CannotReach request.key) ∧
      ∀ call ∈ calls (tree, .files ⟨some volume⟩) requests, call.result =
        if volume.CannotReach call.request.key then .error (.storage (.io .nameTooLong))
        else .ok .stored := by
  induction requests generalizing tree held with
  | nil =>
    refine ⟨tree, rfl, ?_, fun _ made => (List.not_mem_nil made).elim⟩
    simpa using holds
  | cons request rest inductionHypothesis =>
    obtain ⟨name, named⟩ := accepted request List.mem_cons_self
    have new : request.key ∉ held.map Request.key := by
      rw [List.map_append, List.map_cons] at distinct
      intro member
      exact (List.nodup_append.mp distinct).2.2 _ member _ List.mem_cons_self rfl
    have room : Request.totalSize held + Utf8.size request.value ≤ volume.capacity := by
      rw [Request.totalSize_append, Request.totalSize_cons] at roomy
      omega
    obtain ⟨result, next⟩ := holds.set request name named new room
    -- What is held now and what is still to be set was among what had to be told apart and to fit.
    have fewer : ((held ++ [request].filter fun asked => ¬ volume.CannotReach asked.key) ++
        rest).Sublist (held ++ request :: rest) := by
      rw [List.append_assoc]
      exact ((List.filter_sublist (l := [request])).append_right rest).append_left held
    obtain ⟨after, ends, kept, made⟩ := inductionHypothesis _ _ next
      (fun other member => accepted other (List.mem_cons_of_mem _ member))
      (distinct.sublist (fewer.map _)) (Nat.le_trans (Request.totalSize_le_of_sublist fewer) roomy)
    refine ⟨after, ends, ?_, fun call asked => ?_⟩
    · rw [List.append_assoc, ← List.filter_append] at kept
      exact kept
    · rcases List.mem_cons.mp asked with rfl | later
      · exact result
      · exact made call later

end ParameterStore

end DeviceParameters
