import Mathlib.Data.List.TakeWhile
import DeviceParameters.Proofs.Text.SingleBytes
import DeviceParameters.Slot.Record

/-!
# What a slot shows of a value

Two cuts lie between a value that is set and the text that is read. Writing keeps the longest
beginning in whole characters that fits into a slot, and reading stops at the first zero byte.
Both are stated without the functions that make them: `IsLongestFitting` by comparison with
every other beginning, `Shows` on the bytes. `fit` and `readable` are the only texts that meet
them, so there is one such text for every value, and both cuts leave well-formed text.
-/

namespace DeviceParameters.Slot

/-- A beginning of a value, in whole characters, that fits into a slot, where no longer one
does. -/
structure IsLongestFitting (value front : String) : Prop where
  begins : front.toList <+: value.toList
  fits : Utf8.size front ≤ maximumLength
  longest : ∀ other : String, other.toList <+: value.toList →
    Utf8.size other ≤ maximumLength → Utf8.size other ≤ Utf8.size front

/-- A text shown for a value: the longest beginning that fits, as far as its first zero byte. -/
def Shows (value shown : String) : Prop :=
  ∃ front, IsLongestFitting value front ∧
    Utf8.bytes shown = (Utf8.bytes front).takeWhile (· ≠ 0)

/-- A value as it is read after it was set. -/
def readable (value : String) : String := Utf8.untilZero (fit value)

/-- What is taken begins the text. -/
theorem takeFitting_prefix (room : Nat) (chars : List Char) : takeFitting room chars <+: chars := by
  induction chars generalizing room with
  | nil => exact List.nil_prefix
  | cons char rest inductionHypothesis =>
    rw [takeFitting]
    split
    · exact List.cons_prefix_cons.mpr ⟨rfl, inductionHypothesis _⟩
    · exact List.nil_prefix

/-- What is taken has no more bytes than there is room for. -/
theorem length_takeFitting_le (room : Nat) (chars : List Char) :
    (Utf8.encode (takeFitting room chars)).length ≤ room := by
  induction chars generalizing room with
  | nil => exact Nat.zero_le room
  | cons char rest inductionHypothesis =>
    rw [takeFitting]
    split
    · rename_i fits
      have tail := inductionHypothesis (room - (Utf8.encodeChar char).length)
      rw [Utf8.encode_cons, List.length_append]
      omega
    · exact Nat.zero_le room

/-- Any beginning that fits is within what is taken. Both are taken apart together: a first
character that fits in the one fits in the other, with the same room left. -/
theorem prefix_takeFitting (room : Nat) (chars other : List Char) (begins : other <+: chars)
    (fits : (Utf8.encode other).length ≤ room) : other <+: takeFitting room chars := by
  induction chars generalizing room other with
  | nil => exact begins
  | cons char rest inductionHypothesis =>
    cases other with
    | nil => exact List.nil_prefix
    | cons first others =>
      obtain ⟨rfl, later⟩ := List.cons_prefix_cons.mp begins
      rw [Utf8.encode_cons, List.length_append] at fits
      rw [takeFitting, if_pos (by omega)]
      exact List.cons_prefix_cons.mpr ⟨rfl, inductionHypothesis _ others later (by omega)⟩

theorem toList_fit (value : String) : (fit value).toList = takeFitting maximumLength value.toList := by
  simp [fit]

/-- A cut value fits into a slot. -/
theorem size_fit_le (value : String) : Utf8.size (fit value) ≤ maximumLength := by
  rw [Utf8.size, Utf8.bytes, toList_fit]
  exact length_takeFitting_le maximumLength value.toList

/-- The bytes of a beginning begin the bytes of the whole. -/
theorem bytes_begin (front whole : String) (begins : front.toList <+: whole.toList) :
    Utf8.bytes front <+: Utf8.bytes whole := by
  obtain ⟨rest, together⟩ := begins
  refine ⟨Utf8.encode rest, ?_⟩
  rw [Utf8.bytes, Utf8.bytes, ← Utf8.encode_append, together]

/-- The bytes of a cut value begin the bytes of the value. -/
theorem fit_begins (value : String) : Utf8.bytes (fit value) <+: Utf8.bytes value := by
  apply bytes_begin
  rw [toList_fit]
  exact takeFitting_prefix maximumLength value.toList

/-- A cut value is no longer than the value. -/
theorem size_fit_le_size (value : String) : Utf8.size (fit value) ≤ Utf8.size value :=
  (fit_begins value).length_le

/-- Cutting keeps exactly the longest beginning that fits. -/
theorem isLongestFitting_fit (value : String) : IsLongestFitting value (fit value) where
  begins := by
    rw [toList_fit]
    exact takeFitting_prefix maximumLength value.toList
  fits := size_fit_le value
  longest := by
    intro other begins fits
    apply List.IsPrefix.length_le
    apply bytes_begin
    rw [toList_fit]
    exact prefix_takeFitting maximumLength value.toList other.toList begins fits

/-- There is one longest beginning that fits. Any other is within it and no shorter. -/
theorem IsLongestFitting.eq_fit {value front : String} (longest : IsLongestFitting value front) :
    front = fit value := by
  have within : Utf8.bytes front <+: Utf8.bytes (fit value) := by
    apply bytes_begin
    rw [toList_fit]
    exact prefix_takeFitting maximumLength value.toList front.toList longest.begins longest.fits
  have cut := isLongestFitting_fit value
  have noShorter := longest.longest (fit value) cut.begins cut.fits
  exact Utf8.bytes_injective _ _ (within.eq_of_length (Nat.le_antisymm within.length_le noShorter))

/-- A value that is no longer than a slot is not cut. -/
theorem fit_eq_self (value : String) (small : Utf8.size value ≤ maximumLength) : fit value = value := by
  have same : (Utf8.bytes (fit value)).length = (Utf8.bytes value).length :=
    Nat.le_antisymm (size_fit_le_size value)
      ((isLongestFitting_fit value).longest value (List.prefix_refl _) small)
  exact Utf8.bytes_injective _ _ ((fit_begins value).eq_of_length same)

/-- A value that is no longer than a slot and has no zero character is read as it is. -/
theorem readable_eq_self (value : String) (small : Utf8.size value ≤ maximumLength)
    (nonzero : '\x00' ∉ value.toList) : readable value = value := by
  have whole : value.toList.takeWhile (· ≠ '\x00') = value.toList := by
    apply List.takeWhile_eq_self_iff.mpr
    intro char member
    exact decide_eq_true fun zero => nonzero (zero ▸ member)
  rw [readable, fit_eq_self value small, Utf8.untilZero, whole, String.ofList_toList]

/-- There is a text to be shown for every value. -/
theorem shows_readable (value : String) : Shows value (readable value) :=
  ⟨fit value, isLongestFitting_fit value, Utf8.bytes_untilZero (fit value)⟩

/-- No other text is shown for a value. -/
theorem shows_iff (value shown : String) : Shows value shown ↔ shown = readable value := by
  constructor
  · rintro ⟨front, longest, bytes⟩
    rw [longest.eq_fit, ← Utf8.bytes_untilZero] at bytes
    exact Utf8.bytes_injective _ _ bytes
  · rintro rfl
    exact shows_readable value

end DeviceParameters.Slot
