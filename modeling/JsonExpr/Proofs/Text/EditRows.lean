import JsonExpr.Proofs.Text.Edits

-- The rows of the edit distance hold the distances between prefixes, so the last entry of the last
-- row is the distance of the texts.
namespace JsonExpr

namespace EditDistance

-- Prefixes grow at their end, where the recursion for distances looks at the front: they are given
-- in reverse. A row holds the distances of one prefix of the long text from a prefix of the short
-- one and from all its extensions by the characters that are left.
def row (long : List Char) : List Char → List Char → List Nat
  | short, [] => [distance long short]
  | short, d :: left => distance long short :: row long (d :: short) left

theorem row_eq_cons (long short left : List Char) :
    row long short left = distance long short :: (row long short left).tail := by
  cases left <;> rfl

theorem getLastD_row (long short left : List Char) (default : Nat) :
    (row long short left).getLastD default = distance long (left.reverse ++ short) := by
  induction left generalizing short default with
  | nil => rfl
  | cons d left ih =>
    rw [row, List.getLastD_cons, ih, List.reverse_cons, List.append_assoc, List.singleton_append]

-- One more character of the long text: each entry comes from the three around it.
theorem extendRow_row (c : Char) (long short left : List Char) :
    extendRow c (distance (c :: long) short) left (row long short left) =
      (row (c :: long) short left).tail := by
  induction left generalizing short with
  | nil => rfl
  | cons d left ih =>
    rw [row, row_eq_cons long (d :: short), row, List.tail_cons, extendRow, ← distance_cons_cons,
      ← row_eq_cons, ih, ← row_eq_cons]

theorem nextRow_row (c : Char) (long b : List Char) :
    nextRow (long.length + 1) c b (row long [] b) = row (c :: long) [] b := by
  have hextend := extendRow_row c long [] b
  have hrow := row_eq_cons (c :: long) [] b
  rw [distance_nil_right, List.length_cons] at hextend hrow
  rw [nextRow, hextend, ← hrow]

theorem range'_eq_row (short left : List Char) :
    List.range' short.length (left.length + 1) = row [] short left := by
  induction left generalizing short with
  | nil => rw [row, distance_nil_left]; rfl
  | cons d left ih =>
    rw [List.length_cons, List.range'_succ, row, distance_nil_left, ← ih (d :: short),
      List.length_cons]

theorem lastEntry_row (b long a : List Char) :
    lastEntry none b long.length (row long [] b) a = distance (a.reverse ++ long) b.reverse := by
  induction a generalizing long with
  | nil => rw [lastEntry, getLastD_row, List.append_nil, List.reverse_nil, List.nil_append]
  | cons c rest ih =>
    rw [lastEntry, nextRow_row]
    simpa [exceeds] using ih (c :: long)

-- Without a limit nothing is cut off, and it does not matter which text runs along the rows.
theorem editDistance_eq_distance (a b : List Char) : editDistance a b none = distance a b := by
  have hrows (long short : List Char) :
      lastEntry none short 0 (List.range (short.length + 1)) long = distance long short := by
    have hlast := lastEntry_row short [] long
    rwa [← range'_eq_row, List.length_nil, ← List.range_eq_range', List.append_nil,
      distance_reverse] at hlast
  rw [editDistance]
  split
  next long short heq =>
    rw [if_neg (by simp), hrows]
    split at heq
    · obtain ⟨rfl, rfl⟩ := Prod.mk.inj heq
      rw [distance_comm]
    · obtain ⟨rfl, rfl⟩ := Prod.mk.inj heq
      rfl

end EditDistance

open EditDistance in
-- The distance is the least number of edits that turn one text into the other: so many edits do,
-- and fewer do not. Hence it is a metric.
theorem editDistance_least_edits :
    (∀ a b, ∃ n : Nat, editDistance a b none = n ∧ IsLeast {n | Edits n a b} n) ∧
    (∀ a b, editDistance a b none = editDistance b a none) ∧
    (∀ a b, editDistance a b none = 0 ↔ a = b) ∧
    ∀ a b c, editDistance a c none ≤ editDistance a b none + editDistance b c none := by
  simp only [editDistance_eq_distance]
  refine ⟨fun a b => ⟨distance a b, rfl, distance_isLeast a b⟩, fun a b => ?_, fun a b => ?_,
    fun a b c => ?_⟩
  · rw [distance_comm]
  · rw [Int.natCast_eq_zero, distance_eq_zero_iff]
  · exact_mod_cast distance_triangle a b c

end JsonExpr
