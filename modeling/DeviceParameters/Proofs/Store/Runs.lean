import DeviceParameters.Store

/-!
# Runs of requests

A run makes requests one after the other, each on the state that the one before left behind,
whether that one succeeded or not. `setAll` is the state at the end, and `calls` is what every
request came to. What a run should have done to a key is told by `lastValue`: the value in the
last request for it, among those that count.
-/

namespace DeviceParameters

/-- A parameter to be set. -/
structure Request where
  key : String
  value : String
  deriving DecidableEq, Repr

namespace Request

/-- The value that requests give to a key last, if any does. -/
def lastValue (key : String) : List Request → Option String
  | [] => none
  | request :: rest =>
    (lastValue key rest).or (if request.key = key then some request.value else none)

/-- Later requests count before earlier ones. -/
theorem lastValue_append (key : String) (front back : List Request) :
    lastValue key (front ++ back) = (lastValue key back).or (lastValue key front) := by
  induction front with
  | nil => simp [lastValue]
  | cons request rest inductionHypothesis =>
    rw [List.cons_append, lastValue, inductionHypothesis, lastValue, Option.or_assoc]

/-- Requests for other keys give nothing to this one. -/
theorem lastValue_of_not_mem (key : String) (requests : List Request)
    (absent : key ∉ requests.map Request.key) : lastValue key requests = none := by
  induction requests with
  | nil => rfl
  | cons request rest inductionHypothesis =>
    obtain ⟨different, others⟩ := not_or.mp fun either => absent (List.mem_cons.mpr either)
    rw [lastValue, inductionHypothesis others, if_neg (Ne.symm different)]
    rfl

/-- A request for another key gives nothing to this one. -/
theorem lastValue_singleton_of_ne (key : String) (request : Request) (other : request.key ≠ key) :
    lastValue key [request] = none :=
  lastValue_of_not_mem key [request] (by simpa using other.symm)

/-- Where every key is requested once, each request is the last one for its key. -/
theorem lastValue_of_mem (requests : List Request) (request : Request)
    (distinct : (requests.map Request.key).Nodup) (member : request ∈ requests) :
    lastValue request.key requests = some request.value := by
  induction requests with
  | nil => cases member
  | cons first rest inductionHypothesis =>
    obtain ⟨apart, others⟩ := List.nodup_cons.mp distinct
    rw [lastValue]
    rcases List.mem_cons.mp member with rfl | later
    · rw [lastValue_of_not_mem _ rest apart, if_pos rfl]
      rfl
    · rw [inductionHypothesis others later]
      rfl

/-- A request for a key gives its value to that key. -/
theorem lastValue_singleton_self (request : Request) :
    lastValue request.key [request] = some request.value := by
  simp [lastValue]

end Request

/-- A request that was made, and what it came to. -/
structure Call where
  request : Request
  result : Except ParameterError SetOutcome

namespace Call

/-- The requests that were granted, in order. -/
def granted (calls : List Call) : List Request :=
  (calls.filter fun call => call.result.isOk).map Call.request

end Call

namespace ParameterStore

/-- The state after requests were made in order. -/
def setAll : State → List Request → State
  | state, [] => state
  | state, request :: rest =>
    setAll (state.2.set state.1 request.key request.value).state rest

/-- What every request of a run comes to. -/
def calls : State → List Request → List Call
  | _, [] => []
  | state, request :: rest =>
    let reply := state.2.set state.1 request.key request.value
    ⟨request, reply.result⟩ :: calls reply.state rest

end ParameterStore

end DeviceParameters
