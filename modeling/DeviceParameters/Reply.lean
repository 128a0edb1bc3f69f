import DeviceParameters.Event

/-!
# Replies

The result of a call on a store together with what it reported. A call that only looks gives
an answer; a call that may change something gives a reply, which also holds the state that
it left behind, whether it succeeded or not.
-/

namespace DeviceParameters

/-- How much of a value was stored. -/
inductive SetOutcome where
  /-- The whole value was stored. -/
  | stored
  /-- Only the first `storedLength` bytes of the value were stored. -/
  | truncated (valueLength storedLength : Nat)
  deriving DecidableEq, Repr

/-- Whether a part of the value is missing. -/
def SetOutcome.isTruncated : SetOutcome → Bool
  | .stored => false
  | .truncated _ _ => true

/-- What a call that changes nothing comes to. -/
structure Answer (α : Type) where
  result : Except ParameterError α
  events : List Event

/-- What a call that may change a state comes to. -/
structure Reply (σ α : Type) where
  result : Except ParameterError α
  state : σ
  events : List Event

end DeviceParameters
