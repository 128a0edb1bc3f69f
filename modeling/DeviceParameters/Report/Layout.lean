import DeviceParameters.Slot.Table
import DeviceParameters.Text.Json

/-!
# The slot table as a report

One row a slot: its key, its position, where its record and its value start, and how long a
value can be.
-/

namespace DeviceParameters

/-- A row of the slot table. -/
structure SlotRow where
  key : String
  index : Nat
  offset : Nat
  valueOffset : Nat
  maximumLength : Nat
  deriving DecidableEq, Repr

namespace SlotRow

/-- The row of a slot. -/
def ofSlot (slot : Slot) : SlotRow :=
  ⟨slot.name, slot.index, slot.offset, slot.valueOffset, Slot.maximumLength⟩

/-- The whole table. -/
def table : List SlotRow := Slot.all.map ofSlot

/-- A row as a record. -/
def toRecord (row : SlotRow) : Json.Record :=
  [("key", .text row.key), ("index", .number row.index), ("offset", .number row.offset),
    ("value_offset", .number row.valueOffset), ("max_len", .number row.maximumLength)]

end SlotRow

end DeviceParameters
