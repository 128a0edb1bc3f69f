import DeviceParameters.Store

/-!
# Listings

Every key that a store reports, with its value. The keys are read one after the other, and
the first that fails ends the listing with its error; a key that turns out to be absent is
listed without a value. The events of all reads are kept in order.
-/

namespace DeviceParameters

/-- A key and its value, if it has one. -/
structure Listed where
  key : String
  value : Option String
  deriving DecidableEq, Repr

namespace Listed

/-- A listed key as a record. -/
def toRecord (listed : Listed) : Json.Record :=
  [("key", .text listed.key),
    ("value", match listed.value with | some value => .text value | none => .absent)]

end Listed

namespace ParameterStore

/-- Read keys in order. -/
def readAll (tree : FileTree) (store : ParameterStore) : List String → Answer (List Listed)
  | [] => ⟨.ok [], []⟩
  | key :: rest =>
    let answer := store.get tree key
    let continueWith (value : Option String) : Answer (List Listed) :=
      let later := store.readAll tree rest
      ⟨later.result.map (⟨key, value⟩ :: ·), answer.events ++ later.events⟩
    match answer.result with
    | .ok value => continueWith (some value)
    | .error (.keyNotFound _) => continueWith none
    | .error error => ⟨.error error, answer.events⟩

/-- Every key with its value. -/
def collect (tree : FileTree) (store : ParameterStore) : Answer (List Listed) :=
  match store.keys tree with
  | .error error => ⟨.error error, []⟩
  | .ok keys => store.readAll tree keys

end ParameterStore

end DeviceParameters
