import DeviceParameters.Bytes

/-!
# Ranges of a byte string

What a replacement does to the end and to the byte at every index, and so to every range: a range
inside the data that was written reads as that data, and a range that does not meet it reads as
before. Where the data starts behind the old end, the gap between the two reads as zeros; a
replacement inside the bounds has no gap and keeps everything that it does not cover.
-/

namespace DeviceParameters.Bytes

/-- A range has the bytes of the whole, counted from its offset. -/
theorem getElem?_slice (contents : Bytes) (offset length index : Nat) :
    (contents.slice offset length)[index]? =
      if index < length then contents[offset + index]? else none := by
  simp only [slice, List.getElem?_take, List.getElem?_drop]

/-- Nothing is in an empty range. -/
theorem slice_zero (contents : Bytes) (offset : Nat) : contents.slice offset 0 = [] := by
  simp [slice]

/-- Replacing by nothing changes nothing. -/
theorem overwrite_nil (contents : Bytes) (offset : Nat) : contents.overwrite offset [] = contents := by
  simp [overwrite]

/-- What is put in front of the data has as many bytes as the offset says. -/
theorem length_front (contents : Bytes) (offset : Nat) :
    (contents.take offset ++ zeros (offset - contents.length)).length = offset := by
  simp only [zeros, List.length_append, List.length_take, List.length_replicate]
  omega

/-- In front of the data the bytes are the old ones, and zeros from the old end on. -/
theorem getElem?_front (contents : Bytes) (offset index : Nat) (before : index < offset) :
    (contents.take offset ++ zeros (offset - contents.length))[index]? =
      if contents.length ≤ index then some 0 else contents[index]? := by
  split
  · rename_i gap
    have taken : (contents.take offset).length = contents.length := by
      rw [List.length_take]
      omega
    rw [List.getElem?_append_right (by omega), taken, zeros,
      List.getElem?_replicate_of_lt (by omega)]
  · rename_i old
    rw [List.getElem?_append_left (by rw [List.length_take]; omega),
      List.getElem?_take_of_lt before]

/-- A replacement leaves the end where it was, or moves it to the end of the data. -/
theorem length_overwrite_eq_max (contents : Bytes) (offset : Nat) (data : Bytes)
    (something : data ≠ []) :
    (contents.overwrite offset data).length = max contents.length (offset + data.length) := by
  rw [overwrite, if_neg something, List.length_append, List.length_append, length_front,
    List.length_drop]
  omega

/-- Every byte after a replacement: that of the data in its range, a zero in the gap between the old
end and the data, and anywhere else the one that was there. -/
theorem getElem?_overwrite_eq (contents : Bytes) (offset : Nat) (data : Bytes) (index : Nat)
    (something : data ≠ []) :
    (contents.overwrite offset data)[index]? =
      if offset ≤ index ∧ index < offset + data.length then data[index - offset]?
      else if contents.length ≤ index ∧ index < offset then some 0
      else contents[index]? := by
  have front := length_front contents offset
  rw [overwrite, if_neg something, List.append_assoc _ data]
  by_cases before : index < offset
  · have outside : ¬ (offset ≤ index ∧ index < offset + data.length) := by omega
    rw [List.getElem?_append_left (by omega), getElem?_front contents offset index before,
      if_neg outside]
    simp only [before, and_true]
  · rw [List.getElem?_append_right (by omega), front]
    by_cases within : index < offset + data.length
    · rw [List.getElem?_append_left (by omega), if_pos ⟨by omega, within⟩]
    · rw [List.getElem?_append_right (by omega), List.getElem?_drop, if_neg (by omega),
        if_neg (by omega)]
      congr 1
      omega

/-- Every byte of the data is found at its index behind the offset, whatever was there. -/
theorem getElem?_overwrite_within (contents : Bytes) (offset : Nat) (data : Bytes) (index : Nat)
    (within : index < data.length) :
    (contents.overwrite offset data)[offset + index]? = data[index]? := by
  have something : data ≠ [] := by
    rintro rfl
    simp at within
  rw [getElem?_overwrite_eq contents offset data _ something, if_pos (by omega),
    Nat.add_sub_cancel_left]

/-- A replacement inside the bounds keeps every byte that it does not cover. -/
theorem getElem?_overwrite_outside (contents : Bytes) (offset : Nat) (data : Bytes) (index : Nat)
    (inside : offset + data.length ≤ contents.length)
    (outside : index < offset ∨ offset + data.length ≤ index) :
    (contents.overwrite offset data)[index]? = contents[index]? := by
  by_cases nothing : data = []
  · rw [nothing, overwrite_nil]
  · rw [getElem?_overwrite_eq contents offset data index nothing, if_neg (by omega),
      if_neg (by omega)]

/-- A range inside the data reads as that range of the data. -/
theorem slice_overwrite_within (contents : Bytes) (offset : Nat) (data : Bytes) (start length : Nat)
    (within : start + length ≤ data.length) :
    (contents.overwrite offset data).slice (offset + start) length = data.slice start length := by
  apply List.ext_getElem?
  intro index
  rw [getElem?_slice, getElem?_slice]
  split
  · rw [Nat.add_assoc, getElem?_overwrite_within _ _ _ _ (by omega)]
  · rfl

/-- A range that does not meet the data reads as before. -/
theorem slice_overwrite_apart (contents : Bytes) (offset : Nat) (data : Bytes) (start length : Nat)
    (inside : offset + data.length ≤ contents.length)
    (apart : start + length ≤ offset ∨ offset + data.length ≤ start) :
    (contents.overwrite offset data).slice start length = contents.slice start length := by
  apply List.ext_getElem?
  intro index
  rw [getElem?_slice, getElem?_slice]
  split
  · rw [getElem?_overwrite_outside _ _ _ _ inside (by omega)]
  · rfl

/-- What was written reaches to its own end, even where it passed the old one. -/
theorem le_length_overwrite (contents : Bytes) (offset : Nat) (data : Bytes) (something : data ≠ []) :
    offset + data.length ≤ (contents.overwrite offset data).length := by
  rw [length_overwrite_eq_max contents offset data something]
  exact Nat.le_max_right _ _

end DeviceParameters.Bytes
