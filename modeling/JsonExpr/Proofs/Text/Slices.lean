import JsonExpr.Text.Parts

-- Slices by a start and a length. The end is found by adding the two, and is then read like any
-- other position: a negative one counts from the end of the text.
namespace JsonExpr

-- A length that cuts off as many characters as it says: the end is on the same side of zero as the
-- start, and the start is not before the text; or there is nothing to be cut off anyway.
def CutsExactly (size : Nat) (start : Int) (count : Nat) : Prop :=
  0 ≤ start ∨ -size ≤ start ∧ start + count < 0 ∨ size ≤ start + count ∨ count = 0 ∨ size = 0

theorem positionIn_of_nonneg {size : Nat} {i : Int} (h : 0 ≤ i) :
    positionIn size i = min i.toNat size := if_neg (Int.not_lt.mpr h)

theorem positionIn_of_neg {size : Nat} {i : Int} (h : i < 0) :
    positionIn size i = (i + size).toNat := if_pos h

theorem drop_positionIn (text : List Char) (start : Int) :
    text.drop (positionIn text.length start) =
      text.drop (if start < 0 then start + text.length else start).toNat := by
  split
  · next hneg => rw [positionIn_of_neg hneg]
  · next hnonneg =>
    rw [positionIn_of_nonneg (Int.not_lt.mp hnonneg), List.drop_eq_drop_iff, Nat.min_assoc,
      Nat.min_self]

-- How many characters a length keeps of those from the start on, and when these are as many as it
-- says, or all that there are.
theorem positionIn_add_sub_le (size : Nat) (start : Int) (count : Nat) :
    positionIn size (start + count) - positionIn size start ≤ count := by
  by_cases hstart : 0 ≤ start
  · rw [positionIn_of_nonneg hstart, positionIn_of_nonneg (by omega)]
    omega
  · rw [positionIn_of_neg (Int.not_le.mp hstart)]
    by_cases hend : 0 ≤ start + count
    · rw [positionIn_of_nonneg hend]
      omega
    · rw [positionIn_of_neg (Int.not_le.mp hend)]
      omega

theorem min_positionIn_add_sub_eq_iff {size : Nat} {start : Int} {count : Nat} :
    min (positionIn size (start + count) - positionIn size start) (size - positionIn size start) =
        min count (size - positionIn size start) ↔ CutsExactly size start count := by
  unfold CutsExactly
  by_cases hstart : 0 ≤ start
  · refine iff_of_true ?_ (.inl hstart)
    rw [positionIn_of_nonneg hstart, positionIn_of_nonneg (by omega)]
    omega
  · rw [positionIn_of_neg (Int.not_le.mp hstart)]
    by_cases hend : 0 ≤ start + count
    · rw [positionIn_of_nonneg hend]
      omega
    · rw [positionIn_of_neg (Int.not_le.mp hend)]
      omega

section Slices

variable {text : List Char} {start : Int} {count : Nat}

theorem slice_none (text : List Char) (start : Int) :
    slice text start none = text.drop (positionIn text.length start) := by
  rw [slice, ← List.length_drop, List.take_length]

-- A length never does more than cut.
theorem slice_length (text : List Char) (start : Int) (count : Nat) :
    ∃ kept ≤ count, slice text start (some (start + count)) = (slice text start none).take kept :=
  ⟨_, positionIn_add_sub_le text.length start count, by rw [slice_none, slice]⟩

theorem slice_length_eq_iff :
    slice text start (some (start + count)) = (slice text start none).take count ↔
      CutsExactly text.length start count := by
  rw [slice_none, slice, List.take_eq_take_iff, List.length_drop, min_positionIn_add_sub_eq_iff]

end Slices

end JsonExpr
