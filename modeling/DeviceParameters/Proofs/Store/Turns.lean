import DeviceParameters.Proofs.Store.Runs

/-!
# Turns around a store

What happens to an open store, one turn after the other: calls in all their forms, and between them
whatever the host does to its files and whatever is done to the device, such as arming a fault. The
store takes no notice of either until it is called. `history` is what every call of a run was told.

A call that leaves the state as it is can be left out of a run: it ends in the same state without
it, and the other calls are told the same. `Idle` is what has to be known of single calls for that.
-/

namespace DeviceParameters.ParameterStore

/-- A call on a store, in one of its forms. -/
inductive Operation where
  | set (request : Request)
  | get (key : String)
  | keys
  | setKey (request : Request)
  /-- Read into a variable, which holds a text before. -/
  | getKey (key before : String)
  deriving DecidableEq

/-- What a call tells its caller. -/
inductive Told where
  | set (result : Except ParameterError SetOutcome)
  | get (result : Except ParameterError String)
  | keys (result : Except ParameterError (List String))
  | setKey (stored : Bool)
  /-- Whether something was found, and what the variable holds then. -/
  | getKey (found : Bool) (after : String)

namespace Operation

/-- The key that a call is made for, if it is made for one. -/
def key? : Operation → Option String
  | .set request | .setKey request => some request.key
  | .get key | .getKey key _ => some key
  | .keys => none

/-- What a call tells that is refused: the cause, or only that it failed; a variable is cleared. -/
def refused (cause : ParameterError) : Operation → Told
  | .set _ => .set (.error cause)
  | .get _ => .get (.error cause)
  | .keys => .keys (.error cause)
  | .setKey _ => .setKey false
  | .getKey _ _ => .getKey false ""

end Operation

/-- What a call tells, and the state that it leaves. -/
def perform (state : State) : Operation → Told × State
  | .set request =>
    let reply := state.2.set state.1 request.key request.value
    (.set reply.result, reply.state)
  | .get key => (.get (state.2.get state.1 key).result, state)
  | .keys => (.keys (state.2.keys state.1), state)
  | .setKey request =>
    let reply := state.2.setKey state.1 request.key request.value
    (.setKey reply.1, reply.2.1)
  | .getKey key before =>
    let answer := state.2.getKey state.1 key before
    (.getKey answer.1.1 answer.1.2, state)

/-- What happens to an open store. -/
inductive Turn where
  | call (operation : Operation)
  /-- The host changes its files, in any way. -/
  | host (change : FileTree → FileTree)
  /-- The device is changed, in any way; only a slot store has one. -/
  | device (change : Device → Device)

/-- The call that is made in a turn, if it is one. -/
def Turn.operation? : Turn → Option Operation
  | .call operation => some operation
  | .host _ | .device _ => none

/-- A store after its device was changed. -/
def onDevice (change : Device → Device) : ParameterStore → ParameterStore
  | .slots inner => .slots ⟨change inner.device⟩
  | .files inner => .files inner

/-- The state after one turn. -/
def afterTurn (state : State) : Turn → State
  | .call operation => (perform state operation).2
  | .host change => (change state.1, state.2)
  | .device change => (state.1, state.2.onDevice change)

/-- The state after turns in order. -/
def afterTurns (state : State) (turns : List Turn) : State := turns.foldl afterTurn state

/-- What is told in a turn. -/
def toldIn (state : State) : Turn → List (Operation × Told)
  | .call operation => [(operation, (perform state operation).1)]
  | .host _ | .device _ => []

/-- The calls of a run in order, each with what it was told. -/
def history : State → List Turn → List (Operation × Told)
  | _, [] => []
  | state, turn :: rest => toldIn state turn ++ history (afterTurn state turn) rest

/-- What is told in a turn is left out as a whole, with a silent call, or kept. -/
theorem filter_toldIn (silent : Operation → Bool) (state : State) (turn : Turn) :
    (toldIn state turn).filter (fun entry => !silent entry.1) =
      if turn.operation?.any silent then [] else toldIn state turn := by
  cases turn with
  | call operation =>
    cases mute : silent operation with
    | true => simp [toldIn, Turn.operation?, mute]
    | false => simp [toldIn, Turn.operation?, mute]
  | host change => rfl
  | device change => rfl

/-- Wherever `holds` does, which no turn ends, a call that is `silent` leaves the state as it is,
and is told the same in all such states. -/
structure Idle (holds : State → Prop) (silent : Operation → Bool) (told : Operation → Told) :
    Prop where
  kept : ∀ state turn, holds state → holds (afterTurn state turn)
  performed : ∀ state operation, holds state → silent operation = true →
    perform state operation = (told operation, state)

namespace Idle

variable {holds : State → Prop} {silent : Operation → Bool} {told : Operation → Told}
  (idle : Idle holds silent told) (state : State) (start : holds state)

include idle start

theorem holds_afterTurns (turns : List Turn) : holds (afterTurns state turns) := by
  induction turns generalizing state with
  | nil => exact start
  | cons turn rest inductionHypothesis =>
    exact inductionHypothesis (afterTurn state turn) (idle.kept state turn start)

/-- What the silent calls of a run are told is decided by the calls alone. -/
theorem history_of_silent (turns : List Turn) :
    (history state turns).filter (fun entry => silent entry.1) =
      ((turns.filterMap Turn.operation?).filter silent).map
        fun operation => (operation, told operation) := by
  induction turns generalizing state with
  | nil => rfl
  | cons turn rest inductionHypothesis =>
    rw [history, List.filter_append,
      inductionHypothesis (afterTurn state turn) (idle.kept state turn start)]
    cases turn with
    | call operation =>
      cases mute : silent operation with
      | true =>
        have said := congrArg Prod.fst (idle.performed state operation start mute)
        simp [toldIn, Turn.operation?, mute, said]
      | false => simp [toldIn, Turn.operation?, mute]
    | host change => rfl
    | device change => rfl

omit start in
/-- A turn with a silent call changes nothing. -/
theorem afterTurn_of_silent (turn : Turn) (start : holds state)
    (mute : turn.operation?.any silent = true) : afterTurn state turn = state := by
  cases turn with
  | call operation => exact congrArg Prod.snd (idle.performed state operation start mute)
  | host change => cases mute
  | device change => cases mute

/-- Without its silent calls a run ends in the same state, and the other calls are told the same.
The state is general in the induction: a silent call leaves it, and any other turn is made on the
same state in both runs. -/
theorem leave_out (turns : List Turn) :
    let others := turns.filter fun turn => !turn.operation?.any silent
    afterTurns state others = afterTurns state turns ∧
      history state others = (history state turns).filter fun entry => !silent entry.1 := by
  induction turns generalizing state with
  | nil => exact ⟨rfl, rfl⟩
  | cons turn rest inductionHypothesis =>
    obtain ⟨ends, others⟩ :=
      inductionHypothesis (afterTurn state turn) (idle.kept state turn start)
    have said := filter_toldIn silent state turn
    dsimp only
    cases mute : turn.operation?.any silent with
    | true =>
      have stays := idle.afterTurn_of_silent state turn start mute
      have same : afterTurns state (turn :: rest) = afterTurns state rest := by
        rw [afterTurns, List.foldl_cons, stays, ← afterTurns]
      rw [stays] at ends others
      rw [List.filter_cons_of_neg (by simp [mute]), history, List.filter_append, said, mute, stays]
      exact ⟨ends.trans same.symm, others⟩
    | false =>
      rw [List.filter_cons_of_pos (by simp [mute]), history, history, List.filter_append, said, mute,
        others]
      exact ⟨ends, rfl⟩

end Idle

end DeviceParameters.ParameterStore
