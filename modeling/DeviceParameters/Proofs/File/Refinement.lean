import DeviceParameters.Proofs.File.Places
import DeviceParameters.Proofs.Store.Runs

/-!
# A file store is a map

Seen through its calls, a mounted file store maps each key to the value of the last set that
succeeded, byte for byte, whatever sets failed in between and for whatever cause. A key for
which no set succeeded reads exactly as at the start. A set that succeeds has always stored the
whole value.

The root may hold anything, files and directories, and the capacity may be any. Nobody else
changes the tree during the run, and writing a file that was opened does not fail.
-/

namespace DeviceParameters

namespace FileStore

variable (tree : FileTree) (volume : Volume) (key value : String)

/-- A set on a mounted store is refused with nothing changed, or it has written the whole value
into the file of the key. -/
theorem set_refused_or_written :
    let reply := set tree ⟨some volume⟩ key value
    (∃ error, reply.result = .error error ∧ reply.state = tree) ∨
      ∃ name, FileName.ofKey key = .ok name ∧ reply.result = .ok .stored ∧
        volume.write tree name (Utf8.bytes value) = .ok reply.state := by
  intro reply
  cases named : FileName.ofKey key with
  | error error => exact Or.inl ⟨error, by simp [reply, set, named], by simp [reply, set, named]⟩
  | ok name =>
    cases written : volume.write tree name (Utf8.bytes value) with
    | error cause =>
      exact Or.inl ⟨.storage cause, by simp [reply, set, named, written],
        by simp [reply, set, named, written]⟩
    | ok after =>
      exact Or.inr ⟨name, rfl, by simp [reply, set, named, written],
        by simp [reply, set, named, written]⟩

/-- A set that succeeds has stored the whole value, and the key then reads as that value. -/
theorem get_of_set_ok (store : FileStore) (outcome : SetOutcome)
    (accepted : (store.set tree key value).result = .ok outcome) :
    outcome = .stored ∧ (store.get (store.set tree key value).state key).result = .ok value := by
  obtain ⟨mounted⟩ := store
  cases mounted with
  | none =>
    cases named : FileName.ofKey key with
    | error error => simp [set, named] at accepted
    | ok name => simp [set, named] at accepted
  | some volume =>
    obtain ⟨error, refused, _⟩ | ⟨name, named, stored, written⟩ :=
      set_refused_or_written tree volume key value
    · simp [refused] at accepted
    · have spelled : Utf8.text (Utf8.bytes value) = .ok value := (Utf8.text_eq_ok_iff _ _).mpr rfl
      have found := Volume.read_of_write tree volume name _ _ written
      refine ⟨Except.ok.inj (accepted.symm.trans stored), ?_⟩
      simp [get, named, found, spelled]

/-- What a key reads as is decided by the file of the key. -/
theorem get_of_read_eq (before after : FileTree)
    (same : ∀ name, FileName.ofKey key = .ok name → volume.read after name = volume.read before name) :
    get after ⟨some volume⟩ key = get before ⟨some volume⟩ key := by
  cases named : FileName.ofKey key with
  | error error => simp [get, named]
  | ok name => simp [get, named, same name named]

/-- A set of one key leaves what every other key reads as. -/
theorem get_of_set_of_ne (place : Place) (root : volume.RootAt tree place) (other : String)
    (different : other ≠ key) :
    get (set tree ⟨some volume⟩ key value).state ⟨some volume⟩ other =
      get tree ⟨some volume⟩ other := by
  obtain ⟨_, _, unchanged⟩ | ⟨name, named, _, written⟩ :=
    set_refused_or_written tree volume key value
  · rw [unchanged]
  obtain ⟨_, entry, located, _, replaced⟩ := Volume.replaces_of_write tree volume name _ _ written
  have leads := Volume.locate_pathFor tree volume place name root
    (FileName.isEntryName_of_ofKey key name named)
  have standing : entry = place ++ [Utf8.bytes name] := by
    rw [leads] at located
    split at located
    · simp at located
    · exact (Except.ok.inj located).symm
  apply get_of_read_eq
  intro otherName otherNamed
  have plain := FileName.isEntryName_of_ofKey other otherName otherNamed
  have apart : place ++ [Utf8.bytes otherName] ≠ entry := by
    rw [standing]
    intro same
    have sameBytes : Utf8.bytes otherName = Utf8.bytes name := by simpa using same
    have sameName : otherName = name := Utf8.bytes_injective _ _ sameBytes
    exact different (FileName.ofKey_injective other key name (sameName ▸ otherNamed) named)
  rw [Volume.read_eq _ volume place otherName
      (Volume.rootAt_of_replaces tree volume place _ entry _ root replaced) plain,
    Volume.read_eq tree volume place otherName root plain, replaced.elsewhere _ apart]

/-- A set leaves the root where it is. -/
theorem rootAt_of_set (place : Place) (root : volume.RootAt tree place) :
    volume.RootAt (set tree ⟨some volume⟩ key value).state place := by
  obtain ⟨_, _, unchanged⟩ | ⟨name, _, _, written⟩ := set_refused_or_written tree volume key value
  · rw [unchanged]
    exact root
  · obtain ⟨_, entry, _, _, replaced⟩ := Volume.replaces_of_write tree volume name _ _ written
    exact Volume.rootAt_of_replaces tree volume place _ entry _ root replaced

/-- One request, seen at any key: the key reads as the new value if the request was granted for
it, and as before if not. -/
theorem result_get_of_set (place : Place) (root : volume.RootAt tree place) (other : String) :
    (get (set tree ⟨some volume⟩ key value).state ⟨some volume⟩ other).result =
      if key = other ∧ (set tree ⟨some volume⟩ key value).result.isOk = true then .ok value
      else (get tree ⟨some volume⟩ other).result := by
  by_cases same : key = other
  · subst same
    obtain ⟨error, refused, unchanged⟩ | ⟨_, _, stored, _⟩ :=
      set_refused_or_written tree volume key value
    · rw [unchanged, if_neg (by simp [refused, Except.isOk, Except.toBool])]
    · rw [if_pos ⟨rfl, by simp [stored, Except.isOk, Except.toBool]⟩]
      exact (get_of_set_ok tree key value ⟨some volume⟩ .stored stored).2
  · rw [if_neg (fun both => same both.1),
      get_of_set_of_ne tree volume key value place root other (Ne.symm same)]

end FileStore

namespace ParameterStore

/-- A run on a mounted store keeps the root, and any key reads as the last value granted to it,
or as before the run where none was. The tree is general in the induction; the root is the
invariant. -/
theorem files_run (volume : Volume) (place : Place) (key : String) (requests : List Request)
    (tree : FileTree) (root : volume.RootAt tree place) :
    ∃ after, setAll (tree, .files ⟨some volume⟩) requests = (after, .files ⟨some volume⟩) ∧
      volume.RootAt after place ∧
      (FileStore.get after ⟨some volume⟩ key).result =
        match Request.lastValue key (Call.granted (calls (tree, .files ⟨some volume⟩) requests)) with
        | some value => .ok value
        | none => (FileStore.get tree ⟨some volume⟩ key).result := by
  induction requests generalizing tree with
  | nil => exact ⟨tree, rfl, root, rfl⟩
  | cons request rest inductionHypothesis =>
    obtain ⟨asked, value⟩ := request
    obtain ⟨after, ends, stays, reads⟩ := inductionHypothesis
      (FileStore.set tree ⟨some volume⟩ asked value).state
      (FileStore.rootAt_of_set tree volume asked value place root)
    refine ⟨after, ends, stays, ?_⟩
    rw [reads, FileStore.result_get_of_set tree volume asked value place root key]
    by_cases granted : (FileStore.set tree ⟨some volume⟩ asked value).result.isOk = true
    · have first : Call.granted (calls (tree, .files ⟨some volume⟩) (⟨asked, value⟩ :: rest)) =
          ⟨asked, value⟩ :: Call.granted (calls
            ((FileStore.set tree ⟨some volume⟩ asked value).state, .files ⟨some volume⟩) rest) := by
        simp [Call.granted, calls, set, granted]
      rw [first, Request.lastValue]
      cases Request.lastValue key (Call.granted (calls
          ((FileStore.set tree ⟨some volume⟩ asked value).state, .files ⟨some volume⟩) rest)) with
      | some later => rfl
      | none =>
        by_cases same : asked = key
        · subst same
          simp [granted]
        · simp [same]
    · have first : Call.granted (calls (tree, .files ⟨some volume⟩) (⟨asked, value⟩ :: rest)) =
          Call.granted (calls
            ((FileStore.set tree ⟨some volume⟩ asked value).state, .files ⟨some volume⟩) rest) := by
        simp [Call.granted, calls, set, granted]
      rw [first, if_neg (fun both => granted both.2)]

/-- A request that a file store grants has stored its whole value. -/
theorem stored_of_files_call (store : FileStore) (requests : List Request) (tree : FileTree)
    (call : Call) (made : call ∈ calls (tree, .files store) requests) (outcome : SetOutcome)
    (granted : call.result = .ok outcome) : outcome = .stored := by
  induction requests generalizing tree with
  | nil => simp [calls] at made
  | cons request rest inductionHypothesis =>
    rcases List.mem_cons.mp made with first | later
    · subst first
      exact (FileStore.get_of_set_ok tree request.key request.value store outcome granted).1
    · exact inductionHypothesis (store.set tree request.key request.value).state later

/-- After any requests to a mounted file store, of which some may have failed, every key reads
as exactly the value of the last request for it that was granted, and as at the start if there
is none. Every request that was granted is reported as stored whole. The host is one of directories
and regular files, without links and permissions. -/
theorem files_map_keys_to_last_granted_values (tree : FileTree) (volume : Volume)
    (mounted : tree.isDirectory volume.root = true) (requests : List Request) (key : String) :
    let before : State := (tree, .files ⟨some volume⟩)
    let after := setAll before requests
    let read (state : State) := (state.2.get state.1 key).result
    (read after =
      match Request.lastValue key (Call.granted (calls before requests)) with
      | some value => .ok value
      | none => read before) ∧
    ∀ call ∈ calls before requests, ∀ outcome, call.result = .ok outcome → outcome = .stored := by
  intro before after read
  obtain ⟨place, root⟩ := (FileTree.isDirectory_iff _ _).mp mounted
  obtain ⟨reached, ends, _, reads⟩ := files_run volume place key requests tree root
  constructor
  · have same : after = (reached, .files ⟨some volume⟩) := ends
    rw [same]
    exact reads
  · intro call made outcome granted
    exact stored_of_files_call ⟨some volume⟩ requests tree call made outcome granted

/-- A volume of eight bytes: a value that does not fit and a key that is refused leave the one
that was stored, zero byte and all. -/
theorem files_map_keys_to_last_granted_values_when_full :
    let tree : FileTree := .fresh (Utf8.bytes "flash")
    let volume : Volume := ⟨.ofText "/flash", 8⟩
    let requests : List Request :=
      [⟨"ssid", "a longer"⟩, ⟨"ssid", "net\x00é"⟩, ⟨"ssid", "too long for it"⟩, ⟨"a/b", "x"⟩]
    let after := setAll (tree, .files ⟨some volume⟩) requests
    tree.isDirectory volume.root = true ∧ (after.2.get after.1 "ssid").result = .ok "net\x00é" := by
  intro tree volume requests after
  have mounted : tree.isDirectory volume.root = true := by decide +kernel
  have last : Request.lastValue "ssid"
      (Call.granted (calls (tree, .files ⟨some volume⟩) requests)) = some "net\x00é" := by
    decide +kernel
  have result := files_map_keys_to_last_granted_values tree volume mounted requests "ssid"
  simp only [last] at result
  exact ⟨mounted, result.1⟩

end ParameterStore

end DeviceParameters
