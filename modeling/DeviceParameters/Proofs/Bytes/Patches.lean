import DeviceParameters.Proofs.Bytes.Ranges

/-!
# Patches

A patch is data that was put at an offset. Where patches were put in order, a byte is the one that
the last patch over its position has there, and where no patch lies over the position it is the byte
that was there before. Between the patches the end can be moved back with zeros; nothing is ever
cut off.

`Patched` says this of the bytes before and after. It goes from one step to a whole run, since what
was patched and is patched again is patched by both in order.
-/

namespace DeviceParameters

/-- Data that was put at an offset. -/
structure Patch where
  offset : Nat
  data : Bytes
  deriving DecidableEq

namespace Patch

/-- The byte that a patch has at a position, if it lies over it. -/
def byteAt? (patch : Patch) (position : Nat) : Option UInt8 :=
  if position < patch.offset then none else patch.data[position - patch.offset]?

/-- The byte that patches in order put at a position last, if any of them lies over it. -/
def lastByte? (position : Nat) : List Patch → Option UInt8
  | [] => none
  | patch :: rest => (lastByte? position rest).or (patch.byteAt? position)

/-- Later patches count before earlier ones. -/
theorem lastByte?_append (position : Nat) (front back : List Patch) :
    lastByte? position (front ++ back) = (lastByte? position back).or (lastByte? position front) := by
  induction front with
  | nil => simp [lastByte?]
  | cons patch rest inductionHypothesis =>
    rw [List.cons_append, lastByte?, inductionHypothesis, lastByte?, Option.or_assoc]

theorem lastByte?_singleton (position : Nat) (patch : Patch) :
    lastByte? position [patch] = patch.byteAt? position := rfl

/-- A patch has no byte outside of its range. -/
theorem byteAt?_outside (patch : Patch) (position : Nat)
    (outside : position < patch.offset ∨ patch.offset + patch.data.length ≤ position) :
    patch.byteAt? position = none := by
  rw [byteAt?]
  split
  · rfl
  · exact List.getElem?_eq_none (by omega)

/-- Patches that all end before a position put no byte there. -/
theorem lastByte?_beyond (position : Nat) (patches : List Patch)
    (ended : ∀ patch ∈ patches, patch.offset + patch.data.length ≤ position) :
    lastByte? position patches = none := by
  induction patches with
  | nil => rfl
  | cons patch rest inductionHypothesis =>
    rw [lastByte?, inductionHypothesis fun other member => ended other (List.mem_cons_of_mem _ member),
      byteAt?_outside patch position (Or.inr (ended patch List.mem_cons_self))]
    rfl

end Patch

namespace Bytes

/-- Putting data inside the bounds changes the bytes by that patch. -/
theorem getElem?_overwrite (contents : Bytes) (offset : Nat) (data : Bytes) (position : Nat)
    (inside : offset + data.length ≤ contents.length) :
    (contents.overwrite offset data)[position]? =
      ((⟨offset, data⟩ : Patch).byteAt? position).or contents[position]? := by
  by_cases outside : position < offset ∨ offset + data.length ≤ position
  · rw [getElem?_overwrite_outside contents offset data position inside outside,
      Patch.byteAt?_outside ⟨offset, data⟩ position outside]
    rfl
  · obtain ⟨index, rfl⟩ := Nat.exists_eq_add_of_le (show offset ≤ position by omega)
    have within : index < data.length := by omega
    have reached : ¬ offset + index < offset := by omega
    rw [getElem?_overwrite_within contents offset data index within, Patch.byteAt?, if_neg reached,
      Nat.add_sub_cancel_left, List.getElem?_eq_getElem within]
    rfl

/-- Moving the end back puts zeros behind. -/
theorem resize_of_le (contents : Bytes) (length : Nat) (longer : contents.length ≤ length) :
    contents.resize length = contents ++ zeros (length - contents.length) := by
  rw [resize, List.take_of_length_le longer]

/-- Moving the end back keeps every byte, and the new ones are zero. -/
theorem getElem?_resize (contents : Bytes) (length position : Nat)
    (longer : contents.length ≤ length) (within : position < length) :
    (contents.resize length)[position]? = some (contents[position]?.getD 0) := by
  rw [resize_of_le contents length longer, zeros]
  by_cases old : position < contents.length
  · rw [List.getElem?_append_left old, List.getElem?_eq_getElem old]
    rfl
  · rw [List.getElem?_append_right (Nat.le_of_not_lt old), List.getElem?_replicate_of_lt (by omega),
      List.getElem?_eq_none (Nat.le_of_not_lt old)]
    rfl

/-- Two replacements inside the bounds that do not meet can be made in either order. -/
theorem overwrite_comm (contents : Bytes) (first second : Patch)
    (firstInside : first.offset + first.data.length ≤ contents.length)
    (secondInside : second.offset + second.data.length ≤ contents.length)
    (apart : first.offset + first.data.length ≤ second.offset ∨
      second.offset + second.data.length ≤ first.offset) :
    (contents.overwrite first.offset first.data).overwrite second.offset second.data =
      (contents.overwrite second.offset second.data).overwrite first.offset first.data := by
  have firstLength := length_overwrite contents first.offset first.data firstInside
  have secondLength := length_overwrite contents second.offset second.data secondInside
  apply List.ext_getElem?
  intro position
  rw [getElem?_overwrite _ second.offset second.data position (firstLength ▸ secondInside),
    getElem?_overwrite _ first.offset first.data position firstInside,
    getElem?_overwrite _ first.offset first.data position (secondLength ▸ firstInside),
    getElem?_overwrite _ second.offset second.data position secondInside,
    ← Option.or_assoc, ← Option.or_assoc]
  congr 1
  -- One of the two patches has no byte at the position.
  by_cases outside : position < first.offset ∨ first.offset + first.data.length ≤ position
  · rw [Patch.byteAt?_outside first position outside]
    simp
  · rw [Patch.byteAt?_outside second position (by omega)]
    simp

/-- The second bytes are the first ones with patches put in order, and with zeros behind the old end
where no patch was put. -/
structure Patched (before after : Bytes) (patches : List Patch) : Prop where
  grown : before.length ≤ after.length
  inside : ∀ patch ∈ patches, patch.offset + patch.data.length ≤ after.length
  bytes : ∀ position, position < after.length →
    after[position]? = some (((Patch.lastByte? position patches).or before[position]?).getD 0)

namespace Patched

variable {before between after : Bytes} {front back : List Patch}

theorem refl (contents : Bytes) : Patched contents contents [] := by
  refine ⟨Nat.le_refl _, fun _ never => absurd never List.not_mem_nil, fun position within => ?_⟩
  rw [List.getElem?_eq_getElem within]
  rfl

/-- What is patched twice is patched by all the patches in order. Behind the end that was there
between, neither the earlier patches nor the first bytes have anything. -/
theorem trans (first : Patched before between front) (second : Patched between after back) :
    Patched before after (front ++ back) := by
  refine ⟨Nat.le_trans first.grown second.grown, fun patch member => ?_, fun position within => ?_⟩
  · rcases List.mem_append.mp member with earlier | later
    · exact Nat.le_trans (first.inside patch earlier) second.grown
    · exact second.inside patch later
  · rw [second.bytes position within, Patch.lastByte?_append, Option.or_assoc]
    congr 1
    by_cases old : position < between.length
    · rw [first.bytes position old]
      cases Patch.lastByte? position back with
      | none => rfl
      | some byte => rfl
    · have shorter : before.length ≤ position := Nat.le_trans first.grown (Nat.le_of_not_lt old)
      have ended : Patch.lastByte? position front = none :=
        Patch.lastByte?_beyond position front fun patch member =>
          Nat.le_trans (first.inside patch member) (Nat.le_of_not_lt old)
      rw [ended, List.getElem?_eq_none (Nat.le_of_not_lt old), List.getElem?_eq_none shorter]
      rfl

/-- Putting data inside the bounds is one patch. -/
theorem overwrite (contents : Bytes) (offset : Nat) (data : Bytes)
    (inside : offset + data.length ≤ contents.length) :
    Patched contents (contents.overwrite offset data) [⟨offset, data⟩] := by
  have length := length_overwrite contents offset data inside
  refine ⟨Nat.le_of_eq length.symm, fun patch member => ?_, fun position within => ?_⟩
  · obtain rfl := List.mem_singleton.mp member
    exact length ▸ inside
  · have old : position < contents.length := length ▸ within
    rw [getElem?_overwrite contents offset data position inside, Patch.lastByte?_singleton,
      List.getElem?_eq_getElem old]
    cases (⟨offset, data⟩ : Patch).byteAt? position with
    | none => rfl
    | some byte => rfl

/-- Moving the end back is no patch. -/
theorem resize (contents : Bytes) (length : Nat) (longer : contents.length ≤ length) :
    Patched contents (contents.resize length) [] := by
  have reached := length_resize contents length
  refine ⟨reached.symm ▸ longer, fun _ never => absurd never List.not_mem_nil,
    fun position within => ?_⟩
  exact getElem?_resize contents length position longer (reached ▸ within)

/-- Where the end has stayed, every byte is that of the last patch over it or the old one. -/
theorem getElem?_of_length (patched : Patched before after front)
    (same : after.length = before.length) (position : Nat) :
    after[position]? = (Patch.lastByte? position front).or before[position]? := by
  by_cases within : position < after.length
  · have old : position < before.length := same ▸ within
    rw [patched.bytes position within, List.getElem?_eq_getElem old]
    cases Patch.lastByte? position front with
    | none => rfl
    | some byte => rfl
  · have outside : after.length ≤ position := Nat.le_of_not_lt within
    rw [List.getElem?_eq_none outside, List.getElem?_eq_none (same ▸ outside),
      Patch.lastByte?_beyond position front fun patch member =>
        Nat.le_trans (patched.inside patch member) outside]
    rfl

end Patched

end Bytes

end DeviceParameters
