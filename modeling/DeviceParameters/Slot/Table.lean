/-!
# The slot table

Five parameters have a slot in the radio module's memory. Slots follow each other without
gaps from offset zero; each is a length field and room for the longest value. A slot is
known by one exact name.
-/

namespace DeviceParameters

/-- A parameter that has a slot. -/
inductive Slot where
  | idString
  | adName
  | ssid
  | password
  | ipAddress
  deriving DecidableEq, Repr

namespace Slot

/-- The bytes of a length field. -/
def lengthFieldSize : Nat := 4

/-- The most bytes of a value. -/
def maximumLength : Nat := 28

/-- The distance from one slot to the next. -/
def stride : Nat := lengthFieldSize + maximumLength

/-- Every slot, in the order of the table. -/
def all : List Slot := [.idString, .adName, .ssid, .password, .ipAddress]

/-- The bytes that the table occupies. -/
def tableSize : Nat := all.length * stride

/-- The position of a slot in the table. -/
def index : Slot → Nat
  | .idString => 0
  | .adName => 1
  | .ssid => 2
  | .password => 3
  | .ipAddress => 4

/-- Where the length field of a slot starts. -/
def offset (slot : Slot) : Nat := slot.index * stride

/-- Where the value of a slot starts. -/
def valueOffset (slot : Slot) : Nat := slot.offset + lengthFieldSize

/-- The key of the parameter in a slot. -/
def name : Slot → String
  | .idString => "idstring"
  | .adName => "adname"
  | .ssid => "ssid"
  | .password => "password"
  | .ipAddress => "ipaddress"

/-- The slot of a key. -/
def ofName? (key : String) : Option Slot := all.find? fun slot => slot.name = key

/-- The slot at a position. -/
def ofIndex? (position : Nat) : Option Slot := all[position]?

theorem mem_all (slot : Slot) : slot ∈ all := by cases slot <;> simp [all]

/-- Two slots have two names. -/
theorem name_injective (left right : Slot) (same : left.name = right.name) : left = right := by
  cases left <;> cases right <;> revert same <;> decide

/-- A key finds a slot exactly when it is the name of that slot. -/
theorem ofName?_eq_some_iff (key : String) (slot : Slot) :
    ofName? key = some slot ↔ slot.name = key := by
  constructor
  · intro found
    simpa using List.find?_some found
  · intro named
    subst named
    cases slot <;> simp [ofName?, all, name]

/-- A slot ends where the next one starts, within the table. -/
theorem offset_add_stride_le (slot : Slot) : slot.offset + stride ≤ tableSize := by
  cases slot <;> decide

end Slot

end DeviceParameters
