import DeviceParameters.Proofs.Slot.Runs

/-!
# Sets under faults

A slot store keeps its slots in order while writes and flushes fail at will. Every slot reads
as the last value that was written to it, and a value counts as written exactly when the write
fault was not armed, so a set that fails at the flush has taken effect and one that fails at
the write has not. Nothing is torn: the bytes after a set are those before it or those with the
whole record.

The device may be memory or an image; an image has no write fault, and arming one there does
nothing. Reads are taken to work throughout.
-/

namespace DeviceParameters.SlotStore

/-- What reading the key of a slot comes to. -/
def reading (state : State) (slot : Slot) : Except ParameterError String :=
  (state.2.get state.1 slot.name).result

/-- A legible store shows the last value written to a slot, or what it showed before the run. -/
theorem reading_run (state : State) (steps : List Step) (slot : Slot) (legible : Legible state) :
    reading (run state steps) slot =
      valueAfter (reading state slot) (Request.lastValue slot.name (written state steps)) := by
  have after : reading (run state steps) slot = slot.valueIn (held (run state steps)) :=
    result_get_of_legible (run state steps) slot (legible_run state steps legible)
  have before : reading state slot = slot.valueIn (held state) :=
    result_get_of_legible state slot legible
  rw [after, before, valueIn_run state steps slot legible]

/-- A request for another key does not change what a slot reads. -/
theorem reading_set_of_ne (state : State) (key value : String) (slot : Slot)
    (legible : Legible state) (other : key ≠ slot.name) :
    reading (state.2.set state.1 key value).state slot = reading state slot := by
  have nothing : Request.lastValue slot.name (written state [.set ⟨key, value⟩]) = none := by
    by_cases armed : state.2.device.writeFault = true
    · simp [written, writtenBy, armed, Request.lastValue]
    · simp [written, writtenBy, armed, Request.lastValue, other]
  have single := reading_run state [.set ⟨key, value⟩] slot legible
  rw [nothing] at single
  exact single

/-- What a value reads as after it was set is shown for it. -/
theorem valueAfter_shows (before : Except ParameterError String) (given : Option String) :
    match given with
    | some value => ∃ shown, valueAfter before given = .ok shown ∧ Slot.Shows value shown
    | none => valueAfter before given = before := by
  cases given with
  | none => rfl
  | some value => exact ⟨Slot.readable value, rfl, Slot.shows_readable value⟩

/-- At every point of a run of sets and faults, every slot reads as the last value that met no
write fault, cut to the slot and at its first zero byte, or as at the start. A set of a key in
the table then fails exactly if a fault is armed; a write fault leaves the bytes as they are,
and otherwise the whole new record is on the device, also when the flush fails. No set of one
key changes what another key reads.

Proof: one step keeps the store legible and changes what a slot holds only by a written
request for it; both go through the run by induction. The last request is one more step. -/
theorem faults_leave_whole_records (state : State) (legible : Legible state) (steps : List Step)
    (slot : Slot) :
    let after := run state steps
    (match Request.lastValue slot.name (written state steps) with
      | some value => ∃ shown, reading after slot = .ok shown ∧ Slot.Shows value shown
      | none => reading after slot = reading state slot) ∧
    (∀ value : String,
      let reply := after.2.set after.1 slot.name value
      (reply.result.isOk = false ↔
        after.2.device.writeFault = true ∨ after.2.device.flushFault = true) ∧
      (after.2.device.writeFault = true → held reply.state = held after) ∧
      (after.2.device.writeFault = false → held reply.state =
        (held after).overwrite slot.offset (Slot.record (Slot.fit value)))) ∧
    ∀ key value : String, key ≠ slot.name →
      reading (after.2.set after.1 key value).state slot = reading after slot := by
  intro after
  have remains : Legible after := legible_run state steps legible
  refine ⟨?_, ?_, ?_⟩
  · have shows := valueAfter_shows (reading state slot) (Request.lastValue slot.name (written state steps))
    rw [← reading_run state steps slot legible] at shows
    exact shows
  · intro value reply
    have outcome := isOk_set_name after slot value remains.roomy
    have left : reply.state = _ := state_set_name after slot value remains.roomy
    refine ⟨?_, ?_, ?_⟩
    · rw [← Bool.not_eq_true, outcome]
      cases after.2.device.writeFault <;> cases after.2.device.flushFault <;> simp
    · intro armed
      rw [left, if_pos armed]
    · intro unarmed
      rw [left, unarmed]
      exact held_put after slot value
  · intro key value other
    exact reading_set_of_ne after key value slot remains other

/-- A failed flush has taken effect and a failed write has not. -/
theorem faults_leave_whole_records_on_memory :
    let state : State := (.empty, ⟨.ofMemory (.ofSize 160)⟩)
    let steps : List Step := [.armFlush true, .set ⟨"ssid", "net"⟩, .armWrite true, .set ⟨"ssid", "other"⟩]
    Legible state ∧ reading (run state steps) .ssid = .ok "net" := by
  intro state steps
  have legible : Legible state := ⟨rfl, by decide +kernel, Device.whole_ofMemory _ _⟩
  have effective : Request.lastValue Slot.ssid.name (written state steps) = some "net" := by
    decide +kernel
  have result := faults_leave_whole_records state legible steps .ssid
  simp only [effective] at result
  obtain ⟨shown, read, shows⟩ := result.1
  have net : Slot.readable "net" = "net" := by decide +kernel
  rw [Slot.shows_iff, net] at shows
  exact ⟨legible, shows ▸ read⟩

end DeviceParameters.SlotStore
