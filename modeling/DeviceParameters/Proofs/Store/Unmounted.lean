import DeviceParameters.Opening
import DeviceParameters.Proofs.Store.Turns

/-!
# A store without its volume

A file store is made also where its volume could not be mounted, and then it stays without one. No
call tries again, not even after the host has made the root, and so no call finds anything on the
host or changes anything there. What a call is refused for is told by its key first: a key that has
no file name is invalid, mounted or not. Only then the volume is missed.
-/

namespace DeviceParameters

namespace FileName

/-- A key that is refused is refused as invalid. -/
theorem invalidKey_of_ofKey (key : String) (error : ParameterError)
    (rejected : ofKey key = .error error) : ∃ fault, error = .invalidKey key fault := by
  rw [ofKey] at rejected
  split at rejected
  · rename_i fault _
    exact ⟨fault, (Except.error.inj rejected).symm⟩
  · cases rejected

end FileName

namespace FileStore

/-- Where mounting has failed, the store is made without a volume. -/
theorem ofConfig_of_failed (tree : FileTree) (config : Config) (error : StorageError)
    (failed : (Volume.mountOrFormat tree config.volumeRoot config.volumeCapacity
      config.mayFormat).2 = .error error) :
    (ofConfig tree config).2.1 = ⟨none⟩ := by
  rw [ofConfig]
  split
  · rename_i mounted
    rw [mounted] at failed
    cases failed
  · rfl

end FileStore

namespace ParameterStore

/-- Why a call is refused for want of a volume: for its key, if that has no file name, and otherwise
because none is mounted. -/
def unmountedCause (operation : Operation) : ParameterError :=
  match operation.key?.map FileName.ofKey with
  | some (.error error) => error
  | some (.ok _) | none => .unmounted

/-- Without a volume every call is refused and leaves everything as it is. -/
theorem perform_unmounted (tree : FileTree) (operation : Operation) :
    perform (tree, .files ⟨none⟩) operation =
      (operation.refused (unmountedCause operation), (tree, .files ⟨none⟩)) := by
  cases operation with
  | set request =>
    cases named : FileName.ofKey request.key <;>
      simp [perform, set, FileStore.set, Operation.refused, unmountedCause, Operation.key?, named]
  | get key =>
    cases named : FileName.ofKey key <;>
      simp [perform, get, FileStore.get, Operation.refused, unmountedCause, Operation.key?, named]
  | keys => rfl
  | setKey request =>
    cases named : FileName.ofKey request.key <;>
      simp [perform, setKey, set, FileStore.set, Operation.refused, named, Except.isOk, Except.toBool]
  | getKey key before =>
    cases named : FileName.ofKey key <;>
      simp [perform, getKey, get, FileStore.get, Operation.refused, named]

/-- A store without a volume is idle, whatever is called. -/
theorem idle_unmounted :
    Idle (fun state => state.2 = .files ⟨none⟩) (fun _ => true) fun operation =>
      operation.refused (unmountedCause operation) where
  kept := by
    rintro ⟨tree, store⟩ turn rfl
    cases turn with
    | call operation => exact congrArg (fun outcome => outcome.2.2) (perform_unmounted tree operation)
    | host change => rfl
    | device change => rfl
  performed := by
    rintro ⟨tree, store⟩ operation rfl _
    exact perform_unmounted tree operation

/-- A store whose mount failed never has a volume afterwards. Whatever was called before, and
whatever the host has done to its files, the next call leaves the tree and the store as they are
and is refused: for an invalid key, if the key has no file name, and otherwise because nothing is
mounted. The plain calls say that they failed, and a variable is cleared. -/
theorem failed_mount_stays_failed (tree : FileTree) (config : Config) (error : StorageError)
    (failed : (Volume.mountOrFormat tree config.volumeRoot config.volumeCapacity
      config.mayFormat).2 = .error error) (turns : List Turn) :
    let made := FileStore.ofConfig tree config
    let after := afterTurns (made.1, .files made.2.1) turns
    (∃ store : FileStore, after.2 = .files store ∧ store.isMounted = false) ∧
    ∀ operation,
      (perform after operation).2 = after ∧
      (∀ key error, operation.key? = some key → FileName.ofKey key = .error error →
        (∃ fault, error = .invalidKey key fault) ∧
          (perform after operation).1 = operation.refused error) ∧
      ((∀ key, operation.key? = some key → ∃ name, FileName.ofKey key = .ok name) →
        (perform after operation).1 = operation.refused .unmounted) := by
  intro made after
  have start : made.2.1 = ⟨none⟩ := FileStore.ofConfig_of_failed tree config error failed
  have remains : after.2 = .files ⟨none⟩ :=
    idle_unmounted.holds_afterTurns _ (congrArg ParameterStore.files start) turns
  refine ⟨⟨⟨none⟩, remains, rfl⟩, fun operation => ?_⟩
  have refused := idle_unmounted.performed after operation remains rfl
  rw [refused]
  refine ⟨rfl, ?_, ?_⟩
  · intro key error asked rejected
    refine ⟨FileName.invalidKey_of_ofKey key error rejected, ?_⟩
    simp [unmountedCause, asked, rejected]
  · intro accepted
    cases asked : operation.key? with
    | none => simp [unmountedCause, asked]
    | some key =>
      obtain ⟨name, named⟩ := accepted key asked
      simp [unmountedCause, asked, named]

/-- A root that may not be formatted comes into existence later, after a set that failed: nothing is
mounted there, and a key with a separator is still refused for that. -/
theorem failed_mount_stays_failed_beside_new_root :
    let tree := FileTree.fresh (Utf8.bytes "work")
    let config : Config := { Config.standard with mayFormat := false }
    let made := FileStore.ofConfig tree config
    let turns : List Turn := [.call (.set ⟨"ssid", "net"⟩),
      .host fun tree => tree.putDirectory [Utf8.bytes "work", Utf8.bytes "spiffs"]]
    let after := afterTurns (made.1, .files made.2.1) turns
    after.1.isDirectory config.volumeRoot = true ∧
      (perform after (.setKey ⟨"ssid", "net"⟩)).2 = after ∧
      (perform after (.getKey "ssid" "old")).1 = .getKey false "" ∧
      (perform after (.get "a/b")).1 = .get (.error (.invalidKey "a/b" .separator)) := by
  intro tree config made turns after
  have failed : (Volume.mountOrFormat tree config.volumeRoot config.volumeCapacity
      config.mayFormat).2 = .error (.notMounted (.noFileSystem config.volumeRoot.display)) := rfl
  have accepted : FileName.ofKey "ssid" = .ok "ssid.par" := rfl
  have rejected : FileName.ofKey "a/b" = .error (.invalidKey "a/b" .separator) := rfl
  have there : after.1.isDirectory config.volumeRoot = true := by decide +kernel
  obtain ⟨_, calls⟩ := failed_mount_stays_failed tree config _ failed turns
  refine ⟨there, (calls _).1, ?_, ?_⟩
  · apply (calls (.getKey "ssid" "old")).2.2
    intro key asked
    obtain rfl := Option.some.inj asked
    exact ⟨_, accepted⟩
  · exact ((calls (.get "a/b")).2.1 _ _ rfl rejected).2

end ParameterStore

end DeviceParameters
