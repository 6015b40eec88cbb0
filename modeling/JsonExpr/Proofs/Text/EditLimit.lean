import JsonExpr.Proofs.Text.EditRows

-- The edit distance with a limit. It is given up as soon as a row lies beyond the limit as a whole.
-- That never happens to texts within the limit, but it need not happen to all others.
namespace JsonExpr

theorem Edits.length_le {a b : List Char} {n : Nat} (h : Edits n a b) :
    a.length ≤ b.length + n := by
  induction h with
  | none => exact Nat.le_add_right _ _
  | first edit _ ih =>
    cases edit <;> simp only [List.length_append, List.length_cons] at ih ⊢ <;> omega

namespace EditDistance

-- Some beginning of the first text is farther than the limit from every beginning of the second.
def Strays (limit : Int) (a b : List Char) : Prop :=
  ∃ start, start <+: a ∧ ∀ other, other <+: b → ∀ n : Nat, Edits n start other → limit < n

variable {a b start rest : List Char} {limit : Int}

theorem length_le_distance (a b : List Char) : a.length ≤ b.length + distance a b :=
  (edits_distance a b).length_le

-- The whole row of a beginning lies beyond the limit.
def RowBeyond (limit : Int) (start b : List Char) : Prop :=
  ∀ other, other <+: b → limit < distance start other

theorem strays_iff : Strays limit a b ↔ ∃ start, start <+: a ∧ RowBeyond limit start b := by
  refine exists_congr fun start => and_congr_right fun _ => forall₂_congr fun other _ => ?_
  constructor
  · exact fun h => h _ (edits_distance start other)
  · intro h n hedits
    have hle := distance_le_of_edits hedits
    omega

-- One more character does not bring the distance from all beginnings down.
theorem exists_suffix_distance_le_cons (x : Char) (a b : List Char) :
    ∃ part, part <:+ b ∧ distance a part ≤ distance (x :: a) b := by
  induction b with
  | nil => exact ⟨[], List.suffix_rfl, by simp⟩
  | cons y b ih =>
    -- the least of the three is the distance when x goes, when y comes, or when x becomes y
    have hcases : distance a (y :: b) ≤ distance (x :: a) (y :: b) ∨
        distance (x :: a) b ≤ distance (x :: a) (y :: b) ∨
        distance a b ≤ distance (x :: a) (y :: b) := by
      rw [distance_cons_cons]
      omega
    rcases hcases with hdelete | hinsert | hkeep
    · exact ⟨y :: b, List.suffix_rfl, hdelete⟩
    · obtain ⟨part, hpart, hle⟩ := ih
      exact ⟨part, hpart.trans (List.suffix_cons y b), hle.trans hinsert⟩
    · exact ⟨b, List.suffix_cons y b, hkeep⟩

theorem exists_suffix_distance_le (more a b : List Char) :
    ∃ part, part <:+ b ∧ distance a part ≤ distance (more ++ a) b := by
  induction more generalizing b with
  | nil => exact ⟨b, List.suffix_rfl, Nat.le_refl _⟩
  | cons x more ih =>
    obtain ⟨part, hpart, hle⟩ := exists_suffix_distance_le_cons x (more ++ a) b
    obtain ⟨last, hlast, hlast_le⟩ := ih part
    exact ⟨last, hlast.trans hpart, hlast_le.trans hle⟩

-- So the distance of two texts is beyond the limit as soon as a row is.
theorem RowBeyond.lt_distance (h : RowBeyond limit start b) (hstart : start <+: a) :
    limit < distance a b := by
  obtain ⟨more, rfl⟩ := hstart
  obtain ⟨part, hpart, hle⟩ := exists_suffix_distance_le more.reverse start.reverse b.reverse
  rw [← List.reverse_append, distance_reverse, ← List.reverse_reverse part, distance_reverse] at hle
  have hother := h part.reverse (List.reverse_suffix.mp (by rwa [List.reverse_reverse]))
  omega

theorem Strays.lt_distance (h : Strays limit a b) : limit < distance a b := by
  obtain ⟨start, hstart, hrow⟩ := strays_iff.mp h
  exact hrow.lt_distance hstart

theorem mem_row_iff {n : Nat} {long short left : List Char} :
    n ∈ row long short left ↔
      ∃ taken, taken <+: left ∧ n = distance long (taken.reverse ++ short) := by
  induction left generalizing short with
  | nil => simp [row]
  | cons d left ih =>
    rw [row, List.mem_cons, ih]
    constructor
    · rintro (rfl | ⟨taken, htaken, rfl⟩)
      · exact ⟨[], List.nil_prefix, rfl⟩
      · exact ⟨d :: taken, (List.prefix_cons_inj d).mpr htaken, by simp⟩
    · rintro ⟨taken, htaken, rfl⟩
      rcases List.prefix_cons_iff.mp htaken with rfl | ⟨taken, rfl, hleft⟩
      · exact .inl rfl
      · exact .inr ⟨taken, hleft, by simp⟩

theorem exceeds_row_iff :
    exceeds (some limit) (row start.reverse [] b) = true ↔ RowBeyond limit start b := by
  simp only [exceeds, List.all_eq_true, decide_eq_true_eq, mem_row_iff, List.append_nil]
  constructor
  · intro h other hother
    exact h _ ⟨other, hother, (distance_reverse start other).symm⟩
  · rintro h _ ⟨other, hother, rfl⟩
    rw [distance_reverse]
    exact h other hother

-- From the row of a beginning on: one character more, and the row of the longer beginning decides.
theorem lastEntry_cons (limit : Int) (b start : List Char) (c : Char) (rest : List Char) :
    lastEntry (some limit) b start.length (row start.reverse [] b) (c :: rest) =
      if exceeds (some limit) (row (start ++ [c]).reverse [] b) then limit + 1
      else lastEntry (some limit) b (start ++ [c]).length (row (start ++ [c]).reverse [] b) rest := by
  have hnext := nextRow_row c start.reverse b
  rw [List.length_reverse] at hnext
  rw [lastEntry, hnext, List.reverse_append, List.length_append]
  rfl

theorem lastEntry_of_rowBeyond
    (h : ∃ more, more ≠ [] ∧ more <+: rest ∧ RowBeyond limit (start ++ more) b) :
    lastEntry (some limit) b start.length (row start.reverse [] b) rest = limit + 1 := by
  induction rest generalizing start with
  | nil =>
    obtain ⟨more, hne, hmore, -⟩ := h
    exact absurd (List.prefix_nil.mp hmore) hne
  | cons c rest ih =>
    rw [lastEntry_cons]
    split
    · rfl
    · next hnext =>
      obtain ⟨more, hne, hmore, hrow⟩ := h
      obtain ⟨more, rfl, hrest⟩ := (List.prefix_cons_iff.mp hmore).resolve_left hne
      rw [exceeds_row_iff] at hnext
      refine ih ⟨more, ?_, hrest, by simpa using hrow⟩
      rintro rfl
      exact hnext hrow

theorem lastEntry_of_not_rowBeyond
    (h : ∀ more, more ≠ [] → more <+: rest → ¬RowBeyond limit (start ++ more) b) :
    lastEntry (some limit) b start.length (row start.reverse [] b) rest =
      distance (start ++ rest) b := by
  induction rest generalizing start with
  | nil =>
    rw [lastEntry, getLastD_row, List.append_nil, List.append_nil, distance_reverse]
  | cons c rest ih =>
    have hnext : ¬RowBeyond limit (start ++ [c]) b :=
      h [c] (by simp) ((List.prefix_cons_inj c).mpr List.nil_prefix)
    rw [lastEntry_cons, if_neg (by rwa [exceeds_row_iff]), ih, List.append_assoc]
    · rfl
    · intro more _ hmore
      rw [List.append_assoc]
      exact h (c :: more) (by simp) ((List.prefix_cons_inj c).mpr hmore)

-- It does not matter which of two texts of different lengths comes first.
theorem editDistance_comm_of_length_ne (h : a.length ≠ b.length) (limit : Option Int) :
    editDistance a b limit = editDistance b a limit := by
  rcases Nat.lt_or_gt_of_ne h with hlt | hlt
  · rw [editDistance, if_pos hlt, editDistance, if_neg (by omega)]
  · rw [editDistance, if_neg (by omega), editDistance, if_pos hlt]

section Longer

variable (hlength : b.length ≤ a.length)

include hlength

theorem editDistance_eq_of_length_le (limit : Int) :
    editDistance a b (some limit) =
      if limit < (a.length : Int) - b.length then limit + 1
      else lastEntry (some limit) b ([] : List Char).length (row ([] : List Char).reverse [] b) a := by
  rw [List.reverse_nil, ← range'_eq_row, List.length_nil, ← List.range_eq_range', editDistance,
    if_neg (by omega)]
  simp

theorem editDistance_of_strays (h : Strays limit a b) :
    editDistance a b (some limit) = limit + 1 := by
  obtain ⟨start, hstart, hrow⟩ := strays_iff.mp h
  rw [editDistance_eq_of_length_le hlength]
  split
  · rfl
  · next hnear =>
    refine lastEntry_of_rowBeyond ⟨start, ?_, hstart, hrow⟩
    -- the empty beginning is no farther from itself than any limit that lengths can be within
    rintro rfl
    have hempty := hrow [] List.nil_prefix
    rw [distance_self] at hempty
    omega

theorem editDistance_of_not_strays (h : ¬Strays limit a b) :
    editDistance a b (some limit) = distance a b := by
  rw [editDistance_eq_of_length_le hlength, if_neg]
  · refine lastEntry_of_not_rowBeyond fun more _ hmore hrow => ?_
    exact h (strays_iff.mpr ⟨more, hmore, hrow⟩)
  · intro hfar
    refine h (strays_iff.mpr ⟨a, List.prefix_rfl, fun other hother => ?_⟩)
    have hdistance := length_le_distance a other
    have hother_le := hother.length_le
    omega

end Longer

-- The longer text strays from the shorter one, or the first from the second if they are as long.
def GivesUp (limit : Int) (a b : List Char) : Prop :=
  if a.length < b.length then Strays limit b a else Strays limit a b

theorem GivesUp.lt_distance (h : GivesUp limit a b) : limit < distance a b := by
  unfold GivesUp at h
  split at h
  · rw [distance_comm]
    exact h.lt_distance
  · exact h.lt_distance

theorem editDistance_of_givesUp (h : GivesUp limit a b) :
    editDistance a b (some limit) = limit + 1 := by
  unfold GivesUp at h
  split at h
  · next hlt => rw [editDistance_comm_of_length_ne (by omega), editDistance_of_strays (by omega) h]
  · next hle => exact editDistance_of_strays (by omega) h

theorem editDistance_of_not_givesUp (h : ¬GivesUp limit a b) :
    editDistance a b (some limit) = distance a b := by
  unfold GivesUp at h
  split at h
  · next hlt =>
    rw [editDistance_comm_of_length_ne (by omega), editDistance_of_not_strays (by omega) h,
      distance_comm]
  · next hle => exact editDistance_of_not_strays (by omega) h

theorem editDistance_of_le (h : (distance a b : Int) ≤ limit) :
    editDistance a b (some limit) = distance a b :=
  editDistance_of_not_givesUp fun hgives => absurd hgives.lt_distance (by omega)

theorem lt_editDistance_of_lt (h : limit < distance a b) :
    limit < editDistance a b (some limit) := by
  by_cases hgives : GivesUp limit a b
  · rw [editDistance_of_givesUp hgives]
    omega
  · rwa [editDistance_of_not_givesUp hgives]

-- The limit cuts off whatever lies beyond it, unless a distance beyond it gets to the end.
theorem editDistance_eq_ite_iff :
    editDistance a b (some limit) =
        (if distance a b ≤ limit then (distance a b : Int) else limit + 1) ↔
      distance a b ≤ limit + 1 ∨ GivesUp limit a b := by
  by_cases hgives : GivesUp limit a b
  · have hlt := hgives.lt_distance
    rw [editDistance_of_givesUp hgives, if_neg (by omega)]
    exact iff_of_true rfl (.inr hgives)
  · rw [editDistance_of_not_givesUp hgives, or_iff_left hgives]
    split <;> omega

theorem editDistance_comm_iff :
    editDistance a b (some limit) = editDistance b a (some limit) ↔
      (a.length = b.length → distance a b ≤ limit + 1 ∨ (Strays limit a b ↔ Strays limit b a)) := by
  by_cases hlength : a.length = b.length
  · rw [forall_prop_of_true hlength]
    by_cases hab : Strays limit a b <;> by_cases hba : Strays limit b a
    · rw [editDistance_of_strays hlength.ge hab, editDistance_of_strays hlength.le hba]
      exact iff_of_true rfl (.inr (iff_of_true hab hba))
    · have hlt := hab.lt_distance
      rw [editDistance_of_strays hlength.ge hab, editDistance_of_not_strays hlength.le hba,
        distance_comm b a, iff_true_left hab, or_iff_left hba]
      omega
    · have hlt := hba.lt_distance
      rw [distance_comm] at hlt
      rw [editDistance_of_not_strays hlength.ge hab, editDistance_of_strays hlength.le hba,
        iff_true_right hba, or_iff_left hab]
      omega
    · rw [editDistance_of_not_strays hlength.ge hab, editDistance_of_not_strays hlength.le hba,
        distance_comm]
      exact iff_of_true rfl (.inr (iff_of_false hab hba))
  · exact iff_of_true (editDistance_comm_of_length_ne hlength _) fun h => absurd h hlength

end EditDistance

open EditDistance in
-- Within the limit the answer is the distance. Beyond it the answer is one more than the limit, or
-- still the distance if no row shows that the limit is passed. So the limit cuts distances off, and
-- the order of the texts is of no account, except for texts that are farther apart than that and
-- get to the end in this order or in one order only.
theorem editDistance_cutOff (a b : List Char) (limit : Int) :
    ∃ d : Nat, IsLeast {n | Edits n a b} d ∧ editDistance a b none = d ∧
      (d ≤ limit → editDistance a b (some limit) = d) ∧
      (limit < d →
        (GivesUp limit a b → editDistance a b (some limit) = limit + 1) ∧
        (¬GivesUp limit a b → editDistance a b (some limit) = d)) ∧
      (editDistance a b (some limit) = (if d ≤ limit then (d : Int) else limit + 1) ↔
        d ≤ limit + 1 ∨ GivesUp limit a b) ∧
      (editDistance a b (some limit) = editDistance b a (some limit) ↔
        (a.length = b.length → d ≤ limit + 1 ∨ (Strays limit a b ↔ Strays limit b a))) := by
  exact ⟨distance a b, distance_isLeast a b, editDistance_eq_distance a b, editDistance_of_le,
    fun _ => ⟨editDistance_of_givesUp, editDistance_of_not_givesUp⟩,
    editDistance_eq_ite_iff, editDistance_comm_iff⟩

-- Four edits are too many for a limit of two, but in one order each beginning is within two edits of
-- another one, so that they are counted to the end.
theorem four_edits_past_two :
    IsLeast {n | Edits n "xyab".toList "abzw".toList} 4 ∧
      editDistance "xyab".toList "abzw".toList (some 2) = 4 ∧
      editDistance "abzw".toList "xyab".toList (some 2) = 3 := by
  have hdistance : (EditDistance.distance "xyab".toList "abzw".toList : Int) = 4 := by
    rw [← EditDistance.editDistance_eq_distance]
    decide
  have hleast := EditDistance.distance_isLeast "xyab".toList "abzw".toList
  rw [Int.ofNat_inj.mp hdistance] at hleast
  exact ⟨hleast, by decide, by decide⟩

end JsonExpr
