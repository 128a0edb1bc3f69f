import DeviceParameters.Proofs.File.Keys
import DeviceParameters.Proofs.Slot.Runs
import DeviceParameters.Report.Listing

/-!
# What is listed

A listing pairs every key that a store reports with the value that the key reads as, in the order
of the report, and is given exactly where all of them can be read. Otherwise it ends with the error
of the report, or with that of the first key that fails.

A key without a value is provided for and never met. Slots refuse a key that is not in their table
and know no other absence. Files are reported where they stand in the root, and a read looks for
them in the same place: it may fail, since the path can be too long or the bytes no text, but the
file is there.
-/

namespace DeviceParameters

/-- A request as the entry of a listing. -/
def Request.listed (request : Request) : Listed := ⟨request.key, some request.value⟩

/-- A listing tells the requests. -/
theorem Request.listed_injective : Function.Injective Request.listed := by
  rintro ⟨leftKey, leftValue⟩ ⟨rightKey, rightValue⟩ same
  simpa [listed] using same

/-- No slot store finds a key absent. -/
theorem SlotStore.get_ne_keyNotFound (tree : FileTree) (store : SlotStore) (key other : String) :
    (store.get tree key).result ≠ .error (.keyNotFound other) := by
  rcases known_or_unknown key with ⟨slot, rfl⟩ | unknown
  · rw [result_get_name, readSlot]
    intro absent
    split at absent
    · cases absent
    split at absent
    · cases absent
    split at absent
    · cases absent
    · cases absent
  · rw [get, ofKey_unknown key unknown]
    intro absent
    cases absent

namespace FileStore

/-- Keys are reported only where a volume is mounted whose root is a directory. -/
theorem rootAt_of_keys (tree : FileTree) (store : FileStore) (reported : List String)
    (known : store.keys tree = .ok reported) :
    ∃ volume place, store = ⟨some volume⟩ ∧ volume.RootAt tree place := by
  obtain ⟨mounted⟩ := store
  cases mounted with
  | none => cases known
  | some volume =>
    rw [keys] at known
    cases listing : volume.list tree with
    | error cause =>
      simp only [listing] at known
      cases known
    | ok names =>
      obtain ⟨files, there, _⟩ := (bind_eq_ok _ _ _).mp listing
      obtain ⟨place, root⟩ := Volume.rootAt_of_files tree volume files there
      exact ⟨volume, place, rfl, root⟩

/-- No key that a file store reports is absent when it is read. -/
theorem get_ne_keyNotFound (tree : FileTree) (store : FileStore) (reported : List String)
    (known : store.keys tree = .ok reported) (key other : String) (member : key ∈ reported) :
    (store.get tree key).result ≠ .error (.keyNotFound other) := by
  obtain ⟨volume, place, rfl, root⟩ := rootAt_of_keys tree store reported known
  obtain rfl : listedKeys tree place = reported :=
    Except.ok.inj ((keys_eq tree volume place root).symm.trans known)
  obtain ⟨name, named, file⟩ := (mem_listedKeys tree place key).mp member
  intro absent
  by_cases long : volume.IsTooLong name
  · rw [result_get_of_tooLong tree volume place key name root named long] at absent
    cases absent
  · have found := (found_get_iff tree volume place key name root named long).mpr file
    rw [absent] at found
    exact found

end FileStore

namespace ParameterStore

variable (tree : FileTree) (store : ParameterStore)

/-- No key that a store reports is absent when it is read. -/
theorem get_ne_keyNotFound (reported : List String) (known : store.keys tree = .ok reported)
    (key other : String) (member : key ∈ reported) :
    (store.get tree key).result ≠ .error (.keyNotFound other) := by
  cases store with
  | slots inner => exact inner.get_ne_keyNotFound tree key other
  | files inner => exact inner.get_ne_keyNotFound tree reported known key other member

/-- A key that is not absent is listed with what it reads as, before the others. -/
theorem result_readAll_cons (key : String) (rest : List String)
    (present : ∀ other, (store.get tree key).result ≠ .error (.keyNotFound other)) :
    (store.readAll tree (key :: rest)).result =
      (store.get tree key).result.bind fun value =>
        (store.readAll tree rest).result.map (⟨key, some value⟩ :: ·) := by
  rw [readAll]
  cases read : (store.get tree key).result with
  | ok value => rfl
  | error error =>
    cases error with
    | keyNotFound other => exact absurd read (present other)
    | _ => rfl

/-- Keys that can be read are listed with what is read. -/
theorem readAll_of_get (held : List Request)
    (reads : ∀ request ∈ held, (store.get tree request.key).result = .ok request.value) :
    (store.readAll tree (held.map Request.key)).result = .ok (held.map Request.listed) := by
  induction held with
  | nil => rfl
  | cons request rest inductionHypothesis =>
    have later := inductionHypothesis fun other member =>
      reads other (List.mem_cons_of_mem _ member)
    have first := reads request List.mem_cons_self
    rw [List.map_cons, result_readAll_cons tree store _ _ (by simp [first]), first, later]
    rfl

/-- Where no key is absent, a listing is of what the keys read as, and each of them has a value. -/
theorem get_of_readAll (keys : List String) (entries : List Listed)
    (present : ∀ key ∈ keys, ∀ other, (store.get tree key).result ≠ .error (.keyNotFound other))
    (listed : (store.readAll tree keys).result = .ok entries) :
    ∃ held : List Request, keys = held.map Request.key ∧ entries = held.map Request.listed ∧
      ∀ request ∈ held, (store.get tree request.key).result = .ok request.value := by
  induction keys generalizing entries with
  | nil =>
    obtain rfl : [] = entries := Except.ok.inj listed
    exact ⟨[], rfl, rfl, fun _ member => by cases member⟩
  | cons key rest inductionHypothesis =>
    rw [result_readAll_cons tree store key rest (present key List.mem_cons_self)] at listed
    cases read : (store.get tree key).result with
    | error error =>
      rw [read] at listed
      cases listed
    | ok value =>
      cases later : (store.readAll tree rest).result with
      | error error =>
        rw [read, later] at listed
        cases listed
      | ok others =>
        rw [read, later] at listed
        obtain rfl := Except.ok.inj listed
        obtain ⟨held, rfl, rfl, reads⟩ := inductionHypothesis others
          (fun other member => present other (List.mem_cons_of_mem _ member)) later
        refine ⟨⟨key, value⟩ :: held, rfl, rfl, fun request member => ?_⟩
        rcases List.mem_cons.mp member with rfl | inside
        · exact read
        · exact reads request inside

/-- Where no key is absent, a listing fails with the error of the first key that cannot be read. -/
theorem readAll_eq_error_iff (keys : List String) (error : ParameterError)
    (present : ∀ key ∈ keys, ∀ other, (store.get tree key).result ≠ .error (.keyNotFound other)) :
    (store.readAll tree keys).result = .error error ↔
      ∃ front key rest, keys = front ++ key :: rest ∧
        (∀ earlier ∈ front, ∃ value, (store.get tree earlier).result = .ok value) ∧
        (store.get tree key).result = .error error := by
  induction keys with
  | nil => simp [readAll]
  | cons first later inductionHypothesis =>
    have following := inductionHypothesis fun other member =>
      present other (List.mem_cons_of_mem _ member)
    rw [result_readAll_cons tree store first later (present first List.mem_cons_self)]
    constructor
    · intro failed
      cases read : (store.get tree first).result with
      | error cause =>
        rw [read] at failed
        obtain rfl := Except.error.inj failed
        exact ⟨[], first, later, rfl, fun _ member => absurd member List.not_mem_nil, read⟩
      | ok value =>
        rw [read] at failed
        have failsLater : (store.readAll tree later).result = .error error := by
          cases rest : (store.readAll tree later).result with
          | ok others =>
            rw [rest] at failed
            cases failed
          | error cause =>
            rw [rest] at failed
            exact congrArg Except.error (Except.error.inj failed)
        obtain ⟨front, key, rest, rfl, readable, fails⟩ := following.mp failsLater
        refine ⟨first :: front, key, rest, rfl, fun earlier member => ?_, fails⟩
        rcases List.mem_cons.mp member with rfl | inside
        · exact ⟨value, read⟩
        · exact readable earlier inside
    · rintro ⟨front, key, rest, split, readable, fails⟩
      cases front with
      | nil =>
        obtain ⟨rfl, rfl⟩ := List.cons.inj split
        rw [fails]
        rfl
      | cons head front =>
        obtain ⟨rfl, rfl⟩ := List.cons.inj split
        obtain ⟨value, read⟩ := readable first List.mem_cons_self
        have failsLater := following.mpr ⟨front, key, rest, rfl,
          fun earlier member => readable earlier (List.mem_cons_of_mem _ member), fails⟩
        rw [read, failsLater]
        rfl

/-- A listing is given exactly where the keys are reported and every one of them reads, and pairs
them with what they read as, in the order of the report. No reported key is absent, so none is
listed without a value. Where no listing is given, the error is that of the report or of the first
reported key that fails.

Proof: a reported key that is not absent is either read, and then its value goes before the rest of
the listing, or it fails, and then the listing ends. So both sides follow the keys, one at a time. -/
theorem listing_pairs_keys_with_values :
    (∀ reported, store.keys tree = .ok reported → ∀ key ∈ reported, ∀ other,
      (store.get tree key).result ≠ .error (.keyNotFound other)) ∧
    (∀ entries, (store.collect tree).result = .ok entries ↔
      ∃ held : List Request, store.keys tree = .ok (held.map Request.key) ∧
        entries = held.map Request.listed ∧
        ∀ request ∈ held, (store.get tree request.key).result = .ok request.value) ∧
    ((∃ entries, (store.collect tree).result = .ok entries) ↔
      ∃ reported, store.keys tree = .ok reported ∧
        ∀ key ∈ reported, ∃ value, (store.get tree key).result = .ok value) ∧
    ∀ error, (store.collect tree).result = .error error ↔
      store.keys tree = .error error ∨
      ∃ front key rest, store.keys tree = .ok (front ++ key :: rest) ∧
        (∀ earlier ∈ front, ∃ value, (store.get tree earlier).result = .ok value) ∧
        (store.get tree key).result = .error error := by
  cases known : store.keys tree with
  | error cause => simp [collect, known]
  | ok reported =>
    have present : ∀ key ∈ reported, ∀ other,
        (store.get tree key).result ≠ .error (.keyNotFound other) :=
      fun key member other => store.get_ne_keyNotFound tree reported known key other member
    have failing (error : ParameterError) :=
      readAll_eq_error_iff tree store reported error present
    simp only [collect, known, Except.ok.injEq, reduceCtorEq, false_or, exists_eq_left']
    refine ⟨?_, fun entries => ⟨?_, ?_⟩, ⟨?_, ?_⟩, failing⟩
    · rintro _ rfl
      exact present
    · exact get_of_readAll tree store reported entries present
    · rintro ⟨held, rfl, rfl, reads⟩
      exact readAll_of_get tree store held reads
    · rintro ⟨entries, listed⟩ key member
      obtain ⟨held, rfl, rfl, reads⟩ := get_of_readAll tree store reported entries present listed
      obtain ⟨request, inside, rfl⟩ := List.mem_map.mp member
      exact ⟨request.value, reads request inside⟩
    · intro readable
      cases listed : (store.readAll tree reported).result with
      | ok entries => exact ⟨entries, rfl⟩
      | error error =>
        obtain ⟨front, key, rest, rfl, _, fails⟩ := (failing error).mp listed
        obtain ⟨value, read⟩ := readable key (by simp)
        rw [fails] at read
        cases read

/-- Slots of which the second holds a byte that is no text, with another such slot behind it, and a
volume with a directory and a file of no accepted key beside its only parameter. -/
theorem listing_pairs_keys_with_values_up_to_invalid_one :
    let contents : Bytes := List.replicate 32 0 ++ [1, 0, 0, 0, 255] ++ List.replicate 27 0 ++
      [1, 0, 0, 0, 254] ++ List.replicate 91 0
    let slots : ParameterStore := .slots ⟨.ofMemory (.ofContents contents)⟩
    let directory := Utf8.bytes "flash"
    let tree := (((FileTree.fresh directory).putDirectory [directory, Utf8.bytes "b.par"]).putFile
      [directory, Utf8.bytes "notes"] [7]).putFile [directory, Utf8.bytes "a.par"] [49]
    let files : ParameterStore := .files ⟨some ⟨.ofText "/flash", 4096⟩⟩
    (slots.get .empty "ssid").result = .error (.invalidValue "ssid" (.encoding (.malformed 0 1))) ∧
      (slots.collect .empty).result =
        .error (.invalidValue "adname" (.encoding (.malformed 0 1))) ∧
      (files.collect tree).result = .ok [⟨"a", some "1"⟩] := by
  intro contents slots directory tree files
  refine ⟨by decide +kernel, ?_, ?_⟩
  · obtain ⟨_, _, _, fails⟩ := listing_pairs_keys_with_values .empty slots
    refine (fails _).mpr (.inr ⟨["idstring"], "adname", ["ssid", "password", "ipaddress"],
      by decide +kernel, fun key first => ⟨"", ?_⟩, by decide +kernel⟩)
    obtain rfl := List.mem_singleton.mp first
    decide +kernel
  · obtain ⟨_, succeeds, _⟩ := listing_pairs_keys_with_values tree files
    have reported : FileStore.keys tree ⟨some ⟨.ofText "/flash", 4096⟩⟩ = .ok ["a"] :=
      FileStore.keys_of_arranged tree _ [directory] (by decide +kernel)
        (["a.par", "notes"].map Utf8.bytes) _ (by decide +kernel) (by decide +kernel)
        (by decide +kernel)
    refine (succeeds _).mpr ⟨[⟨"a", "1"⟩], reported, rfl, fun request only => ?_⟩
    obtain rfl := List.mem_singleton.mp only
    decide +kernel

end ParameterStore

end DeviceParameters
