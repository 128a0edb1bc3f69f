import DeviceParameters.File.Store
import DeviceParameters.Slot.Store

/-!
# Parameter stores

A parameter store is a slot store or a file store behind one set of calls. The calls with
typed errors say why they failed; the plain calls only say whether they succeeded, and leave
the reason to the events.
-/

namespace DeviceParameters

/-- A store of named parameters. -/
inductive ParameterStore where
  | slots (store : SlotStore)
  | files (store : FileStore)
  deriving DecidableEq

namespace ParameterStore

/-- The state that a call on a store leaves behind. -/
abbrev State := FileTree × ParameterStore

/-- The name of the kind of store. -/
def backend : ParameterStore → String
  | .slots _ => SlotStore.backend
  | .files _ => FileStore.backend

/-- Set a parameter, or say why not. -/
def set (tree : FileTree) (store : ParameterStore) (key value : String) :
    Reply State SetOutcome :=
  match store with
  | .slots inner =>
    let reply := inner.set tree key value
    ⟨reply.result, (reply.state.1, .slots reply.state.2), reply.events⟩
  | .files inner =>
    let reply := inner.set tree key value
    ⟨reply.result, (reply.state, .files inner), reply.events⟩

/-- Read a parameter, or say why not. -/
def get (tree : FileTree) (store : ParameterStore) (key : String) : Answer String :=
  match store with
  | .slots inner => inner.get tree key
  | .files inner => inner.get tree key

/-- The keys that the store reports. -/
def keys (tree : FileTree) (store : ParameterStore) : Except ParameterError (List String) :=
  match store with
  | .slots _ => .ok SlotStore.keys
  | .files inner => inner.keys tree

/-- Set a parameter and say whether it was stored. -/
def setKey (tree : FileTree) (store : ParameterStore) (key value : String) :
    Bool × State × List Event :=
  let reply := store.set tree key value
  (reply.result.isOk, reply.state, reply.events)

/-- Read a parameter into a variable: whether it was found, and what the variable holds then.
The variable is cleared where nothing was found, whatever it held before. -/
def getKey (tree : FileTree) (store : ParameterStore) (key : String) (_before : String) :
    (Bool × String) × List Event :=
  let answer := store.get tree key
  match answer.result with
  | .ok value => ((true, value), answer.events)
  | .error _ => ((false, ""), answer.events)

/-- The store with its structure. -/
def detailed (store : ParameterStore) : String :=
  s!"ParamStore \x7b backend: {Quoted.quote store.backend} \x7d"

end ParameterStore

end DeviceParameters
