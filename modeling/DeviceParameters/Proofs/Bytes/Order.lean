import DeviceParameters.Bytes

/-!
# The order of byte strings

Byte strings are ordered by their first difference, and one that begins another comes before it.
So two strings in order stay in order with anything behind them, unless the first begins the
second: then what stands behind the first is compared with the rest of the second. That one case
is why names can be in another order with an extension than without it.
-/

namespace DeviceParameters.Bytes

/-- Of two byte strings in order the first begins the second, or they differ at a byte, and then
they are in order whatever follows them. -/
theorem begins_or_differs (left right : Bytes) (ordered : left < right) :
    (∃ rest, rest ≠ [] ∧ right = left ++ rest) ∨
      ∀ behind beyond : Bytes, left ++ behind < right ++ beyond := by
  induction left generalizing right with
  | nil =>
    refine Or.inl ⟨right, ?_, rfl⟩
    rintro rfl
    exact List.lt_irrefl [] ordered
  | cons byte front inductionHypothesis =>
    cases right with
    | nil => exact absurd ordered (List.not_lt_nil _)
    | cons other back =>
      rcases List.cons_lt_cons_iff.mp ordered with smaller | ⟨rfl, later⟩
      · exact Or.inr fun behind beyond => List.cons_lt_cons_iff.mpr (Or.inl smaller)
      · rcases inductionHypothesis back later with ⟨rest, something, rfl⟩ | apart
        · exact Or.inl ⟨rest, something, rfl⟩
        · refine Or.inr fun behind beyond => List.cons_lt_cons_iff.mpr (Or.inr ⟨rfl, ?_⟩)
          exact apart behind beyond

/-- A common front does not count. -/
theorem append_lt_append_iff (front left right : Bytes) :
    front ++ left < front ++ right ↔ left < right := by
  constructor
  · intro ordered
    apply List.not_le.mp
    intro after
    rcases List.le_iff_lt_or_eq.mp after with smaller | rfl
    · exact List.lt_asymm ordered (List.append_left_lt smaller)
    · exact List.lt_irrefl _ ordered
  · exact List.append_left_lt

/-- Two different byte strings are in order one way or the other. -/
theorem lt_or_lt_of_ne (left right : Bytes) (different : left ≠ right) :
    left < right ∨ right < left := by
  rcases List.le_total left right with before | after
  · exact (List.le_iff_lt_or_eq.mp before).imp_right fun same => absurd same different
  · exact Or.inr ((List.le_iff_lt_or_eq.mp after).resolve_right (Ne.symm different))

end DeviceParameters.Bytes
