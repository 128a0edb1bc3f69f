import DeviceParameters.Proofs.File.Capacity
import DeviceParameters.Proofs.Slot.Runs

/-!
# What is reported of a failure

The plain calls of a store say whether they succeeded and leave the cause to the events. So a call
that fails is to report the failure under its key, and a call that succeeds is to report none.

A slot store does this for every call, whatever its device holds and whatever fault is armed. A
file store does it for what its medium refuses. It reports nothing where it turns a call away
before the medium is reached, for a key that has no file name or for want of a volume, and nothing
where it reads a file whose bytes are no text.
-/

namespace DeviceParameters

namespace Event

/-- An event of the error level that has the key in its `key` field. -/
def IsFailureOf (key : String) (event : Event) : Prop :=
  event.level = .error ∧ ("key", Json.Scalar.text key) ∈ event.fields

instance (key : String) (event : Event) : Decidable (event.IsFailureOf key) :=
  inferInstanceAs (Decidable (_ ∧ _))

/-- A failure is reported under a key. -/
def Reported (key : String) (events : List Event) : Prop :=
  ∃ event ∈ events, event.IsFailureOf key

instance (key : String) (events : List Event) : Decidable (Reported key events) :=
  inferInstanceAs (Decidable (∃ event ∈ events, event.IsFailureOf key))

/-- No failure is reported. -/
def Quiet (events : List Event) : Prop := ∀ event ∈ events, event.level ≠ .error

/-- The events of a call fit its success: none of them is a failure where it succeeded, and one is
a failure of its key where it did not. -/
structure Account (key : String) (succeeded : Bool) (events : List Event) : Prop where
  quiet : succeeded = true → Quiet events
  reported : succeeded = false → Reported key events

variable {key : String} {event : Event} {events : List Event}

theorem quiet_nil : Quiet [] := by
  intro event member
  cases member

theorem not_reported_nil : ¬ Reported key [] := by
  rintro ⟨event, member, _⟩
  cases member

/-- A call that succeeded with nothing to report. -/
theorem account_of_nothing : Account key true [] where
  quiet _ := quiet_nil
  reported := by
    intro failed
    cases failed

/-- A call that failed and reports that failure alone. -/
theorem account_of_failure (failure : event.IsFailureOf key) : Account key false [event] where
  quiet := by
    intro succeeded
    cases succeeded
  reported _ := ⟨event, List.mem_singleton_self event, failure⟩

/-- Where a call accounts for itself unless it is silent, a silent failure is all that is missing
from its report. -/
theorem account_unless {succeeded : Bool} {silent : Prop}
    (mute : silent → succeeded = false ∧ events = [])
    (heard : ¬ silent → Account key succeeded events) :
    (succeeded = true → Quiet events) ∧
      (succeeded = false → (Reported key events ↔ ¬ silent)) := by
  constructor
  · intro granted
    apply (heard ?_).quiet granted
    intro unheard
    rw [(mute unheard).1] at granted
    cases granted
  · intro failed
    constructor
    · intro reported unheard
      rw [(mute unheard).2] at reported
      exact not_reported_nil reported
    · exact fun loud => (heard loud).reported failed

end Event

open Event

namespace SlotStore

variable (tree : FileTree) (store : SlotStore) (key value : String)

/-- A value that was written is reported below the error level, cut or not. -/
theorem quiet_writtenOutcome (slot : Slot) (stored : String) :
    Quiet [(writtenOutcome slot value stored).2] := by
  intro event member
  obtain rfl := List.mem_singleton.mp member
  rw [writtenOutcome]
  split
  · exact Level.noConfusion
  · exact Level.noConfusion

/-- The events of every set fit its success. -/
theorem account_set : Account key (store.set tree key value).result.isOk
    (store.set tree key value).events := by
  rcases known_or_unknown key with ⟨slot, rfl⟩ | unknown
  · rw [set_name]
    split
    · exact account_of_failure ⟨rfl, List.mem_cons_self⟩
    split
    · split
      · exact account_of_failure ⟨rfl, List.mem_cons_self⟩
      · constructor
        · intro _
          exact quiet_writtenOutcome value slot (Slot.fit value)
        · intro failed
          cases failed
    · exact account_of_failure ⟨rfl, List.mem_cons_self⟩
  · rw [set_unknown tree store key value unknown]
    exact account_of_failure ⟨rfl, List.mem_cons_self⟩

/-- The events of every read fit its success. -/
theorem account_get : Account key (store.get tree key).result.isOk (store.get tree key).events := by
  rcases known_or_unknown key with ⟨slot, rfl⟩ | unknown
  · rw [get, ofKey_name]
    dsimp only
    cases store.readSlot tree slot with
    | ok value => exact account_of_nothing
    | error error => exact account_of_failure ⟨rfl, List.mem_cons_self⟩
  · rw [get, ofKey_unknown key unknown]
    exact account_of_failure ⟨rfl, List.mem_cons_self⟩

end SlotStore

namespace FileStore

variable (tree : FileTree) (store : FileStore) (key value : String)

/-- A call does not reach the medium: its key has no file name, or no volume is mounted. -/
def TurnsAway : Prop := FileName.fault? key ≠ none ∨ store.volume = none

/-- The file of a key is there, and its bytes are no text. -/
def HoldsNoText : Prop :=
  ∃ name volume contents fault, FileName.ofKey key = .ok name ∧ store.volume = some volume ∧
    volume.read tree name = .ok (some contents) ∧ Utf8.text contents = .error fault

/-- A call that is turned away fails and reports nothing. -/
theorem silent_of_turnsAway (away : store.TurnsAway key) :
    ((store.set tree key value).result.isOk = false ∧ (store.set tree key value).events = []) ∧
      (store.get tree key).result.isOk = false ∧ (store.get tree key).events = [] := by
  rw [set, get]
  cases named : FileName.ofKey key with
  | error error => exact ⟨⟨rfl, rfl⟩, rfl, rfl⟩
  | ok name =>
    have admitted : FileName.fault? key = none := ((FileName.ofKey_eq_ok _ _).mp named).1
    have missing : store.volume = none := away.resolve_left fun fault => fault admitted
    rw [missing]
    exact ⟨⟨rfl, rfl⟩, rfl, rfl⟩

/-- A read of bytes that are no text fails and reports nothing. -/
theorem silent_of_holdsNoText (garbled : store.HoldsNoText tree key) :
    (store.get tree key).result.isOk = false ∧ (store.get tree key).events = [] := by
  obtain ⟨name, volume, contents, fault, named, mounted, read, undecoded⟩ := garbled
  rw [get, named, mounted]
  dsimp only
  rw [read]
  dsimp only
  rw [undecoded]
  exact ⟨rfl, rfl⟩

/-- A call that is not turned away has the file name of its key and a volume. -/
theorem reached_of_not_turnsAway (reached : ¬ store.TurnsAway key) :
    ∃ name volume, FileName.ofKey key = .ok name ∧ store = ⟨some volume⟩ := by
  obtain ⟨mounted⟩ := store
  cases mounted with
  | none => exact absurd (Or.inr rfl) reached
  | some volume =>
    have admitted : FileName.fault? key = none := by
      by_contra fault
      exact reached (Or.inl fault)
    exact ⟨_, volume, (FileName.ofKey_eq_ok _ _).mpr ⟨admitted, rfl⟩, rfl⟩

/-- The events of a set that reaches the medium fit its success. -/
theorem account_set (reached : ¬ store.TurnsAway key) :
    Account key (store.set tree key value).result.isOk (store.set tree key value).events := by
  obtain ⟨name, volume, named, rfl⟩ := reached_of_not_turnsAway store key reached
  rw [set_of_ofKey tree volume key value name named]
  cases volume.write tree name (Utf8.bytes value) with
  | error cause => exact account_of_failure ⟨rfl, List.mem_cons_self⟩
  | ok written => exact account_of_nothing

/-- The events of a read that reaches the medium, and finds no bytes there that are no text, fit
its success. -/
theorem account_get (reached : ¬ store.TurnsAway key) (legible : ¬ store.HoldsNoText tree key) :
    Account key (store.get tree key).result.isOk (store.get tree key).events := by
  obtain ⟨name, volume, named, rfl⟩ := reached_of_not_turnsAway store key reached
  rw [get, named]
  dsimp only
  cases read : volume.read tree name with
  | error cause => exact account_of_failure ⟨rfl, List.mem_cons_self⟩
  | ok found =>
    cases found with
    | none => exact account_of_failure ⟨rfl, List.mem_cons_self⟩
    | some contents =>
      dsimp only
      cases decoded : Utf8.text contents with
      | ok value => exact account_of_nothing
      | error fault =>
        exact absurd ⟨name, volume, contents, fault, named, rfl, read, decoded⟩ legible

end FileStore

namespace ParameterStore

variable (tree : FileTree) (store : ParameterStore) (key : String)

/-- A call does not reach the medium; only a file store turns any away. -/
def TurnsAway : Prop :=
  match store with
  | .slots _ => False
  | .files inner => inner.TurnsAway key

/-- The file of a key holds bytes that are no text; slots report that themselves. -/
def HoldsNoText : Prop :=
  match store with
  | .slots _ => False
  | .files inner => inner.HoldsNoText tree key

/-- The plain read succeeds where the read does, and reports the same. -/
theorem getKey_eq (before : String) :
    (store.getKey tree key before).1.1 = (store.get tree key).result.isOk ∧
      (store.getKey tree key before).2 = (store.get tree key).events := by
  rw [getKey]
  cases (store.get tree key).result with
  | ok value => exact ⟨rfl, rfl⟩
  | error error => exact ⟨rfl, rfl⟩

/-- A plain call that succeeds reports no failure. One that fails reports it under its key, unless
a file store turned the call away before its medium, or read bytes there that are no text; of
these nothing is reported. A slot store reports every failure.

Proof: a call on either store accounts for itself, apart from those that are silent. -/
theorem failures_are_reported_by_the_medium (value before : String) :
    let set := store.setKey tree key value
    let get := store.getKey tree key before
    (set.1 = true → Quiet set.2.2) ∧
    (set.1 = false → (Reported key set.2.2 ↔ ¬ store.TurnsAway key)) ∧
    (get.1.1 = true → Quiet get.2) ∧
    (get.1.1 = false →
      (Reported key get.2 ↔ ¬ (store.TurnsAway key ∨ store.HoldsNoText tree key))) := by
  intro set get
  obtain ⟨found, told⟩ : get.1.1 = _ ∧ get.2 = _ := getKey_eq tree store key before
  rw [found, told, ← and_assoc]
  cases store with
  | slots inner =>
    constructor
    · exact account_unless False.elim fun _ => inner.account_set tree key value
    · refine account_unless ?_ fun _ => inner.account_get tree key
      rintro (⟨⟨⟩⟩ | ⟨⟨⟩⟩)
  | files inner =>
    constructor
    · exact account_unless (fun away => (inner.silent_of_turnsAway tree key value away).1)
        (inner.account_set tree key value)
    · apply account_unless
      · rintro (away | garbled)
        · exact (inner.silent_of_turnsAway tree key value away).2
        · exact inner.silent_of_holdsNoText tree key garbled
      · intro heard
        exact inner.account_get tree key (fun away => heard (Or.inl away))
          fun garbled => heard (Or.inr garbled)

/-- On a volume of two bytes a set of three is reported under its key, and so is the read that then
finds no file. -/
theorem failures_are_reported_by_the_medium_when_full :
    let tree := FileTree.fresh (Utf8.bytes "flash")
    let store : ParameterStore := .files ⟨some ⟨.ofText "/flash", 2⟩⟩
    (store.setKey tree "ssid" "net").1 = false ∧
      Reported "ssid" (store.setKey tree "ssid" "net").2.2 ∧
      (store.getKey tree "ssid" "old").1 = (false, "") ∧
      Reported "ssid" (store.getKey tree "ssid" "old").2 := by
  intro tree store
  have refused : (store.setKey tree "ssid" "net").1 = false := by decide +kernel
  have missing : (store.getKey tree "ssid" "old").1 = (false, "") := by decide +kernel
  have admitted : FileName.fault? "ssid" = none := by decide +kernel
  have vacant : Volume.read tree ⟨.ofText "/flash", 2⟩ "ssid.par" = .ok none := by decide +kernel
  have named : FileName.ofKey "ssid" = .ok "ssid.par" := by decide +kernel
  have reached : ¬ store.TurnsAway "ssid" := by
    rintro (fault | unmounted)
    · exact fault admitted
    · cases unmounted
  have legible : ¬ store.HoldsNoText tree "ssid" := by
    rintro ⟨name, volume, contents, fault, accepted, mounted, read, _⟩
    obtain rfl : "ssid.par" = name := Except.ok.inj (named.symm.trans accepted)
    obtain rfl := Option.some.inj mounted
    rw [vacant] at read
    cases read
  obtain ⟨_, set, _, get⟩ := failures_are_reported_by_the_medium tree store "ssid" "net" "old"
  have unread := congrArg Prod.fst missing
  exact ⟨refused, (set refused).mpr reached, missing,
    (get unread).mpr fun silent => silent.elim reached legible⟩

/-- Three failures that are not reported: of a key with a separator, of a file that is no text, and
of a store without a volume. -/
theorem failures_unreported_beside_the_medium :
    let directory := Utf8.bytes "flash"
    let tree := (FileTree.fresh directory).putFile [directory, Utf8.bytes "ssid.par"] [0xFF]
    let store : ParameterStore := .files ⟨some ⟨.ofText "/flash", 4096⟩⟩
    let unmounted : ParameterStore := .files ⟨none⟩
    ((store.setKey tree "a/b" "x").1 = false ∧
        ¬ Reported "a/b" (store.setKey tree "a/b" "x").2.2) ∧
      ((store.getKey tree "ssid" "old").1 = (false, "") ∧
        ¬ Reported "ssid" (store.getKey tree "ssid" "old").2) ∧
      (unmounted.setKey tree "ssid" "x").1 = false ∧
        ¬ Reported "ssid" (unmounted.setKey tree "ssid" "x").2.2 := by
  decide +kernel

end ParameterStore

end DeviceParameters
