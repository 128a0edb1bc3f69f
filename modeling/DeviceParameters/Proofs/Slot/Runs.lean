import DeviceParameters.Proofs.Slot.Calls
import DeviceParameters.Proofs.Store.Runs

/-!
# Runs on a slot store

Sets on a slot store, with its write fault and its flush fault armed and disarmed in between.
A request takes effect exactly when no write fault is armed at that moment, whatever the caller
is told: an armed flush fault comes after the bytes. So what a slot holds after a run is
decided by the last request for it that was written, and where there is none it is what the
slot held before the run.
-/

namespace DeviceParameters.SlotStore

/-- What happens to a slot store in a run. -/
inductive Step where
  | set (request : Request)
  /-- Arm or disarm the write fault of the device. -/
  | armWrite (armed : Bool)
  /-- Arm or disarm the flush fault of the device. -/
  | armFlush (armed : Bool)
  deriving DecidableEq

/-- The state after one step. -/
def take (state : State) : Step → State
  | .set request => (state.2.set state.1 request.key request.value).state
  | .armWrite armed => (state.1, ⟨state.2.device.setWriteFault armed⟩)
  | .armFlush armed => (state.1, ⟨{ state.2.device with flushFault := armed }⟩)

/-- The state after steps in order. -/
def run (state : State) (steps : List Step) : State := steps.foldl take state

/-- The request that a step writes, if it is one and no write fault is armed. -/
def writtenBy (state : State) : Step → List Request
  | .set request => if state.2.device.writeFault then [] else [request]
  | .armWrite _ | .armFlush _ => []

/-- The requests of a run that met no write fault, in order. -/
def written : State → List Step → List Request
  | _, [] => []
  | state, step :: rest => writtenBy state step ++ written (take state step) rest

/-- What a slot holds, from what it held before and the value that was given to it last. -/
def valueAfter (before : Except ParameterError String) : Option String → Except ParameterError String
  | none => before
  | some value => .ok (Slot.readable value)

/-- A key is the key of a slot, or of none. -/
theorem known_or_unknown (key : String) :
    (∃ slot : Slot, slot.name = key) ∨ ∀ slot : Slot, slot.name ≠ key := by
  by_cases known : ∃ slot : Slot, slot.name = key
  · exact Or.inl known
  · exact Or.inr fun slot named => known ⟨slot, named⟩

/-- With room for the table, a set of a key in the table puts its value exactly when no write
fault is armed. -/
theorem state_set_name (state : State) (slot : Slot) (value : String)
    (roomy : Slot.tableSize ≤ state.2.device.size) :
    (state.2.set state.1 slot.name value).state =
      if state.2.device.writeFault then state else put state slot value := by
  rw [(set_name_as_writeSlot state.1 state.2 slot value).2, state_writeSlot]
  have bounded := inBounds_recordOf state.2.device.size slot value roomy
  cases state.2.device.writeFault with
  | false => simp [bounded]
  | true => simp

/-- With room for the table, a set of a key in the table succeeds exactly when neither fault is
armed. -/
theorem isOk_set_name (state : State) (slot : Slot) (value : String)
    (roomy : Slot.tableSize ≤ state.2.device.size) :
    (state.2.set state.1 slot.name value).result.isOk = true ↔
      state.2.device.writeFault = false ∧ state.2.device.flushFault = false := by
  rw [(set_name_as_writeSlot state.1 state.2 slot value).1]
  exact isOk_writeSlot state.1 state.2 slot value roomy

/-- A set of a key outside the table leaves the state as it is. -/
theorem state_set_unknown (state : State) (key value : String)
    (unknown : ∀ slot : Slot, slot.name ≠ key) : (state.2.set state.1 key value).state = state := by
  rw [set_unknown _ _ _ _ unknown]

/-- Arming a fault touches neither the bytes nor what makes a store legible. -/
theorem held_setWriteFault (state : State) (armed : Bool) :
    held (take state (.armWrite armed)) = held state ∧
      (Legible state → Legible (take state (.armWrite armed))) := by
  obtain ⟨tree, ⟨medium, readFault, flushFault⟩⟩ := state
  cases medium with
  | memory nvm => exact ⟨rfl, fun legible => ⟨legible.working, legible.roomy, rfl⟩⟩
  | image nvm => exact ⟨rfl, fun legible => legible⟩

/-- Every step keeps a store legible. -/
theorem legible_take (state : State) (step : Step) (legible : Legible state) :
    Legible (take state step) := by
  cases step with
  | set request =>
    rcases known_or_unknown request.key with ⟨slot, named⟩ | unknown
    · rw [take, ← named, state_set_name state slot request.value legible.roomy]
      split
      · exact legible
      · exact legible_put state slot request.value legible
    · rw [take, state_set_unknown state request.key request.value unknown]
      exact legible
  | armWrite armed => exact (held_setWriteFault state armed).2 legible
  | armFlush armed => exact ⟨legible.working, legible.roomy, legible.whole⟩

/-- One step gives a slot the value that it writes there, and otherwise leaves what the slot
holds. -/
theorem valueIn_take (state : State) (step : Step) (slot : Slot) (legible : Legible state) :
    slot.valueIn (held (take state step)) =
      valueAfter (slot.valueIn (held state)) (Request.lastValue slot.name (writtenBy state step)) := by
  cases step with
  | armWrite armed =>
    rw [(held_setWriteFault state armed).1]
    rfl
  | armFlush armed => rfl
  | set request =>
    obtain ⟨key, value⟩ := request
    rcases known_or_unknown key with ⟨target, rfl⟩ | unknown
    · rw [take, state_set_name state target value legible.roomy]
      by_cases armed : state.2.device.writeFault = true
      · rw [if_pos armed, writtenBy, if_pos armed]
        rfl
      rw [if_neg armed, writtenBy, if_neg armed, held_put]
      by_cases same : slot = target
      · subst same
        rw [Slot.valueIn_stored, Request.lastValue_singleton_self ⟨slot.name, value⟩]
        rfl
      · have apart : target.name ≠ slot.name := fun named =>
          same (Slot.name_injective target slot named).symm
        have roomy : Slot.tableSize ≤ (held state).length := by
          rw [show (held state).length = state.2.device.size from legible.whole]
          exact legible.roomy
        rw [Slot.valueIn_stored_of_ne _ _ _ _ roomy same,
          Request.lastValue_singleton_of_ne slot.name ⟨target.name, value⟩ apart]
        rfl
    · have apart : key ≠ slot.name := (unknown slot).symm
      rw [take, state_set_unknown state key value unknown, writtenBy]
      split
      · rfl
      · rw [Request.lastValue_singleton_of_ne slot.name ⟨key, value⟩ apart]
        rfl

/-- A store that is legible before a run is legible after it. -/
theorem legible_run (state : State) (steps : List Step) (legible : Legible state) :
    Legible (run state steps) := by
  induction steps generalizing state with
  | nil => exact legible
  | cons step rest inductionHypothesis =>
    exact inductionHypothesis (take state step) (legible_take state step legible)

/-- After a run a slot holds what was written there last, and what it held before where
nothing was. The state is general in the induction, since what counts as written depends on
the faults armed on the way. -/
theorem valueIn_run (state : State) (steps : List Step) (slot : Slot) (legible : Legible state) :
    slot.valueIn (held (run state steps)) =
      valueAfter (slot.valueIn (held state)) (Request.lastValue slot.name (written state steps)) := by
  induction steps generalizing state with
  | nil => rfl
  | cons step rest inductionHypothesis =>
    have later := inductionHypothesis (take state step) (legible_take state step legible)
    rw [run, List.foldl_cons, ← run, later, valueIn_take state step slot legible, written,
      Request.lastValue_append]
    cases Request.lastValue slot.name (written (take state step) rest) with
    | none => rfl
    | some value => rfl

end DeviceParameters.SlotStore
