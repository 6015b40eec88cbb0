import JsonExpr.Builtin.Statistics
import JsonExpr.Proofs.Value.Sorting
import Mathlib.Data.List.Sort

-- The most frequent values of a list. They depend only on how often each value occurs, and they are
-- put into order, so that the order of the list does not matter.
namespace JsonExpr

section Frequent

variable {α : Type} [LinearOrder α] {xs ys modes others : List α}

-- The values that occur more than once and at least as often as every other one, in order.
structure Modes (xs modes : List α) : Prop where
  ascending : modes.Pairwise (· < ·)
  mem_iff : ∀ x, x ∈ modes ↔ 2 ≤ xs.count x ∧ ∀ y, xs.count y ≤ xs.count x

theorem Modes.perm (h : Modes xs modes) (hperm : ys.Perm xs) : Modes ys modes where
  ascending := h.ascending
  mem_iff x := by simpa only [hperm.count_eq] using h.mem_iff x

theorem Modes.unique (h : Modes xs modes) (h' : Modes xs others) : modes = others :=
  h.ascending.eq_of_mem_iff h'.ascending fun x => (h.mem_iff x).trans (h'.mem_iff x).symm

-- A value of which there are at least as many as of every other one.
def MostFrequent (xs : List α) (x : α) : Prop := x ∈ xs ∧ ∀ y, xs.count y ≤ xs.count x

-- The mode of a list as data: null if nothing occurs twice, and otherwise the most frequent value,
-- or the list of the most frequent ones in order.
inductive IsMode (f : α → Value) (xs : List α) : Value → Prop where
  | nothing (h : ∀ x, xs.count x ≤ 1) : IsMode f xs .null
  | single {x : α} (htwice : 2 ≤ xs.count x) (h : ∀ y, MostFrequent xs y ↔ y = x) :
    IsMode f xs (f x)
  | several {modes : List α} (htwice : ∃ x, 2 ≤ xs.count x) (hmany : 2 ≤ modes.length)
    (hascending : modes.Pairwise (· < ·)) (h : ∀ y, MostFrequent xs y ↔ y ∈ modes) :
    IsMode f xs (.array (modes.map f))

theorem foldl_max_cases (counts : List Nat) :
    counts = [] ∨ counts.foldl Nat.max 0 ∈ counts ∧ ∀ n ∈ counts, n ≤ counts.foldl Nat.max 0 := by
  have hfold : counts.foldl Nat.max 0 = max 0 (counts.max?.getD 0) := List.foldl_max
  rw [hfold, Nat.zero_max]
  cases hmax : counts.max? with
  | none => exact .inl (List.max?_eq_none_iff.mp hmax)
  | some highest => exact .inr (List.max?_eq_some_iff.mp hmax)

theorem count_le_of_forall_mem {n : Nat} (h : ∀ y ∈ xs, xs.count y ≤ n) (y : α) :
    xs.count y ≤ n := by
  by_cases hy : y ∈ xs
  · exact h y hy
  · rw [List.count_eq_zero.mpr hy]
    exact Nat.zero_le n

-- The most frequent values are those whose count is the highest.
theorem mostFrequent_iff_highest (hmem : ∀ y, y ∈ ys ↔ y ∈ xs) (x : α) :
    MostFrequent xs x ↔
      x ∈ ys ∧ xs.count x = (ys.map fun y => xs.count y).foldl Nat.max 0 := by
  rw [MostFrequent, hmem]
  refine and_congr_right fun hx => ?_
  obtain hnil | ⟨hreached, hhighest⟩ := foldl_max_cases (ys.map fun y => xs.count y)
  · rw [← hmem, List.map_eq_nil_iff.mp hnil] at hx
    cases hx
  · have hle : ∀ y, xs.count y ≤ (ys.map fun y => xs.count y).foldl Nat.max 0 :=
      count_le_of_forall_mem fun y hy => hhighest _ (List.mem_map_of_mem ((hmem y).mpr hy))
    obtain ⟨highest, -, heq⟩ := List.mem_map.mp hreached
    exact ⟨fun hmost => le_antisymm (hle x) (heq ▸ hmost highest), fun hx y => hx ▸ hle y⟩

theorem exists_mostFrequent {x : α} (hx : 0 < xs.count x) : ∃ y, MostFrequent xs y := by
  obtain hnil | ⟨hreached, -⟩ := foldl_max_cases (xs.map fun y => xs.count y)
  · rw [List.map_eq_nil_iff.mp hnil] at hx
    exact absurd hx (Nat.lt_irrefl 0)
  · obtain ⟨x, hx, heq⟩ := List.mem_map.mp hreached
    exact ⟨x, (mostFrequent_iff_highest (fun _ => .rfl) x).mpr ⟨hx, heq⟩⟩

-- If a value occurs twice, the most frequent ones do.
theorem mostFrequent_iff {x : α} (hx : 2 ≤ xs.count x) (y : α) :
    MostFrequent xs y ↔ 2 ≤ xs.count y ∧ ∀ z, xs.count z ≤ xs.count y := by
  constructor
  · rintro ⟨-, hy⟩
    exact ⟨hx.trans (hy x), hy⟩
  · rintro ⟨htwice, hy⟩
    exact ⟨List.count_pos_iff.mp (Nat.zero_lt_of_lt htwice), hy⟩

-- What the modes are returned as.
def modeValue (f : α → Value) : List α → Value
  | [] => .null
  | [x] => f x
  | modes => .array (modes.map f)

theorem Modes.isMode (f : α → Value) (h : Modes xs modes) : IsMode f xs (modeValue f modes) := by
  match modes with
  | [] =>
    refine .nothing fun x => Nat.le_of_not_lt fun htwice => ?_
    obtain ⟨y, hy⟩ := exists_mostFrequent (Nat.zero_lt_of_lt htwice)
    exact List.not_mem_nil ((h.mem_iff y).mpr ((mostFrequent_iff htwice y).mp hy))
  | [x] =>
    obtain ⟨htwice, -⟩ := (h.mem_iff x).mp List.mem_cons_self
    refine .single htwice fun y => ?_
    rw [mostFrequent_iff htwice, ← h.mem_iff, List.mem_singleton]
  | x :: y :: rest =>
    obtain ⟨htwice, -⟩ := (h.mem_iff x).mp List.mem_cons_self
    refine .several ⟨x, htwice⟩ (by simp) h.ascending fun z => ?_
    rw [mostFrequent_iff htwice, ← h.mem_iff]

theorem IsMode.exists_modes {f : α → Value} {value : Value} (h : IsMode f xs value) :
    ∃ modes, Modes xs modes ∧ value = modeValue f modes := by
  cases h with
  | nothing h =>
    refine ⟨[], ⟨.nil, fun x => iff_of_false List.not_mem_nil fun ⟨htwice, _⟩ => ?_⟩, rfl⟩
    exact absurd (h x) (Nat.not_le_of_lt htwice)
  | @single x htwice h =>
    refine ⟨[x], ⟨List.pairwise_singleton _ x, fun y => ?_⟩, rfl⟩
    rw [List.mem_singleton, ← h, mostFrequent_iff htwice]
  | @several modes htwice hmany hascending h =>
    obtain ⟨x, htwice⟩ := htwice
    refine ⟨modes, ⟨hascending, fun y => ?_⟩, ?_⟩
    · rw [← h, mostFrequent_iff htwice]
    · match modes with
      | x :: y :: rest => rfl

-- A list has no two modes.
theorem IsMode.unique {f : α → Value} {value other : Value} (h : IsMode f xs value)
    (h' : IsMode f xs other) : value = other := by
  obtain ⟨modes, hmodes, rfl⟩ := h.exists_modes
  obtain ⟨others, hothers, rfl⟩ := h'.exists_modes
  rw [hmodes.unique hothers]

end Frequent

namespace Builtin

open Sorting

-- Values of a kind that can be counted and put into order.
structure Scale {α : Type} [LinearOrder α] (f : α → Value) : Prop where
  scalar : ∀ a, isScalar (f a) = true
  equal : ∀ a b, (f a).equal (f b) = decide (a = b)
  oneKind : ∀ xs, OneKind f xs
  less : ∀ {a b}, Less (f a) (f b) → a < b

theorem Scale.injective {α : Type} [LinearOrder α] {f : α → Value} (hscale : Scale f) {a b : α}
    (h : f a = f b) : a = b := by
  have hsame := hscale.equal a a
  rwa [congrArg (f a).equal h, hscale.equal a b, decide_eq_decide, eq_self, iff_true] at hsame

theorem scale_int : Scale Value.int where
  scalar _ := rfl
  equal m n := by simp [Value.equal, Number.eq, beq_eq_decide]
  oneKind _ := .inl fun n _ => ⟨n, rfl⟩
  less := by
    rintro m n ⟨h⟩
    exact h

theorem scale_string : Scale Value.string where
  scalar _ := rfl
  equal s t := by simp [Value.equal, beq_eq_decide]
  oneKind _ := .inr fun s _ => ⟨s, rfl⟩
  less := by
    rintro s t ⟨⟩
    assumption

-- The counts of what has been seen of a list: each value is there once, with the number of its
-- occurrences.
def Counts {α : Type} [LinearOrder α] (f : α → Value) (seen : List α)
    (counts : List (Value × Nat)) : Prop :=
  ∃ ys : List α, ys.Nodup ∧ (∀ y, y ∈ ys ↔ y ∈ seen) ∧ counts = ys.map fun y => (f y, seen.count y)

section Counting

variable {α : Type} [LinearOrder α] {f : α → Value} (hscale : Scale f) {xs ys seen : List α} {x : α}
  {counts : List (Value × Nat)}

include hscale

theorem tally_of_not_mem (count : α → Nat) (hx : x ∉ ys) :
    tally (ys.map fun y => (f y, count y)) (f x) =
      ys.map (fun y => (f y, count y)) ++ [(f x, 1)] := by
  induction ys with
  | nil => rfl
  | cons y rest ih =>
    obtain ⟨hy, hrest⟩ := not_or.mp (mt List.mem_cons.mpr hx)
    rw [List.map_cons, tally, hscale.equal, if_neg (by simpa using Ne.symm hy), ih hrest,
      List.cons_append]

theorem tally_of_mem (count : α → Nat) (hys : ys.Nodup) (hx : x ∈ ys) :
    tally (ys.map fun y => (f y, count y)) (f x) =
      ys.map fun y => (f y, count y + if x = y then 1 else 0) := by
  induction ys with
  | nil => cases hx
  | cons y rest ih =>
    obtain ⟨hy, hrest⟩ := List.nodup_cons.mp hys
    rw [List.map_cons, List.map_cons, tally, hscale.equal]
    by_cases hxy : x = y
    · subst hxy
      rw [if_pos (by simp), if_pos rfl]
      refine congrArg _ (List.map_congr_left fun z hz => ?_)
      have hne : x ≠ z := fun heq => hy (heq ▸ hz)
      rw [if_neg hne, Nat.add_zero]
    · rw [if_neg (by simpa using Ne.symm hxy), if_neg hxy,
        ih hrest ((List.mem_cons.mp hx).resolve_left hxy), Nat.add_zero]

theorem Counts.tally (h : Counts f seen counts) (x : α) :
    Counts f (seen ++ [x]) (tally counts (f x)) := by
  obtain ⟨ys, hnodup, hmem, rfl⟩ := h
  have hcount (y : α) : (seen ++ [x]).count y = seen.count y + if x = y then 1 else 0 := by
    simp [List.count_append, List.count_singleton]
  by_cases hx : x ∈ ys
  · refine ⟨ys, hnodup, fun y => ?_, ?_⟩
    · rw [hmem, List.mem_append, List.mem_singleton, or_iff_left_of_imp]
      rintro rfl
      exact (hmem y).mp hx
    · simp only [tally_of_mem hscale seen.count hnodup hx, hcount]
  · have hseen : x ∉ seen := fun hmem' => hx ((hmem x).mpr hmem')
    refine ⟨ys ++ [x], ?_, fun y => ?_, ?_⟩
    · exact List.nodup_append.mpr ⟨hnodup, by simp, by grind⟩
    · rw [List.mem_append, List.mem_append, hmem]
    · rw [tally_of_not_mem hscale seen.count hx, List.map_append, List.map_singleton, hcount,
        if_pos rfl, List.count_eq_zero.mpr hseen]
      refine congrArg (· ++ [(f x, 1)]) (List.map_congr_left fun y hy => ?_)
      have hne : x ≠ y := fun heq => hx (heq ▸ hy)
      rw [hcount, if_neg hne, Nat.add_zero]

theorem Counts.foldl (h : Counts f seen counts) (xs : List α) :
    Counts f (seen ++ xs) ((xs.map f).foldl Builtin.tally counts) := by
  induction xs generalizing seen counts with
  | nil => simpa using h
  | cons x rest ih => simpa using ih (h.tally hscale x)

-- The most frequent values, in the order of their first occurrences.
theorem exists_mostFrequent_map (xs : List α) :
    ∃ modes : List α, mostFrequent (xs.map f) = modes.map f ∧ modes.Nodup ∧
      ∀ x, x ∈ modes ↔ 2 ≤ xs.count x ∧ ∀ y, xs.count y ≤ xs.count x := by
  have hnone : Counts f [] [] := ⟨[], .nil, by simp, rfl⟩
  obtain ⟨ys, hnodup, hmem, hcounts⟩ := hnone.foldl hscale xs
  rw [List.nil_append] at hmem hcounts
  have hmost := mostFrequent_iff_highest hmem
  have hmap : mostFrequent (xs.map f) =
      let highest := (ys.map fun y => xs.count y).foldl Nat.max 0
      (if highest ≤ 1 then [] else ys.filter fun y => xs.count y = highest).map f := by
    rw [mostFrequent, hcounts, apply_ite (List.map f)]
    simp only [List.map_map, List.filter_map]
    rfl
  rw [hmap]
  generalize (ys.map fun y => xs.count y).foldl Nat.max 0 = highest at hmost ⊢
  refine ⟨_, rfl, ?_, fun x => ?_⟩
  · split
    · exact .nil
    · exact hnodup.filter _
  · split
    · next hone =>
      refine iff_of_false List.not_mem_nil fun ⟨htwice, _⟩ => ?_
      obtain ⟨y, hy⟩ := exists_mostFrequent (Nat.zero_lt_of_lt htwice)
      have hle := hy.2 x
      have hhighest := ((hmost y).mp hy).2
      omega
    · next hmore =>
      rw [List.mem_filter, decide_eq_true_iff, ← hmost]
      constructor
      · intro hx
        have hhighest := ((hmost x).mp hx).2
        exact ⟨by omega, hx.2⟩
      · rintro ⟨htwice, hall⟩
        exact (mostFrequent_iff htwice x).mpr ⟨htwice, hall⟩

theorem exists_modeOf_map (xs : List α) :
    ∃ modes, Modes xs modes ∧ modeOf (xs.map f) = .value (modeValue f modes) := by
  obtain ⟨found, hfound, hnodup, hmem⟩ := exists_mostFrequent_map hscale xs
  have hperm := inOrder_perm f false found
  refine ⟨inOrder f false found, ⟨?_, fun x => hperm.mem_iff.trans (hmem x)⟩, ?_⟩
  · have hsorted := pairwise_inOrder false (hscale.oneKind found) hnodup
    refine hsorted.imp fun h => ?_
    obtain hless | ⟨hsame, hne⟩ := h
    · exact hscale.less hless
    · exact absurd (hscale.injective hsame) hne
  · have hscalar : (xs.map f).all isScalar = true := by
      simpa using fun x _ => hscale.scalar x
    have hkeys : OneKind id (found.map f) := by simpa [OneKind] using hscale.oneKind found
    have hsorted := byKeys?_eq_inOrder false hkeys
    rw [zip_keys, inOrder_map, Function.id_comp] at hsorted
    simp only [id] at hsorted
    simp only [modeOf, hscalar, hfound, hsorted, Bool.not_true, Bool.false_eq_true, if_false]
    rcases inOrder f false found with _ | ⟨x, _ | ⟨y, rest⟩⟩ <;> rfl

end Counting

end Builtin

end JsonExpr
