import JsonExpr.Proofs.Engine.BuiltIn
import JsonExpr.Proofs.Engine.Levels
import JsonExpr.Proofs.Value.Equality
import JsonExpr.Proofs.Value.Sorting
import Mathlib.Data.List.Pairwise

-- Leaving out repetitions: of the items that are equal to each other, the first one is kept.
namespace JsonExpr

namespace Builtin

theorem find?_unique :
    operations.find? "$unique" = some (reshaping "$unique" (keepFirsts [])) := by
  simp [operations, Fields.find?, unique]

-- Items kept from a list, each with its position there: a subsequence without two equal items, in
-- which each item that is left out has an equal one from an earlier position.
structure KeepsFirsts (items : List Value) (placed : List (Value × Nat)) : Prop where
  sublist : placed.Sublist items.zipIdx
  distinct : placed.Pairwise fun x y => x.1.equal y.1 = false
  covered : ∀ x ∈ items.zipIdx, x ∉ placed → ∃ y ∈ placed, y.2 < x.2 ∧ y.1.equal x.1 = true

section Keeping

open Sorting

variable {items kept rest : List Value} {placed : List (Value × Nat)} {item : Value}

theorem containsEqual_iff :
    Value.containsEqual (placed.map Prod.fst) item = true ↔
      ∃ y ∈ placed, y.1.equal item = true := by
  simp [Value.containsEqual]

-- One more item: it is left out if an equal one has been kept, and kept otherwise.
theorem KeepsFirsts.leaveOut (h : KeepsFirsts items placed)
    (hcontains : Value.containsEqual (placed.map Prod.fst) item = true) :
    KeepsFirsts (items ++ [item]) placed where
  sublist := zipIdx_concat items item ▸ h.sublist.trans (List.sublist_append_left _ _)
  distinct := h.distinct
  covered x hx hnot := by
    rw [zipIdx_concat, List.mem_append, List.mem_singleton] at hx
    rcases hx with hx | rfl
    · exact h.covered x hx hnot
    · obtain ⟨y, hy, hequal⟩ := containsEqual_iff.mp hcontains
      exact ⟨y, hy, List.snd_lt_of_mem_zipIdx (h.sublist.subset hy), hequal⟩

theorem KeepsFirsts.keep (h : KeepsFirsts items placed)
    (hcontains : Value.containsEqual (placed.map Prod.fst) item = false) :
    KeepsFirsts (items ++ [item]) (placed ++ [(item, items.length)]) where
  sublist := zipIdx_concat items item ▸ h.sublist.append_right _
  distinct := by
    refine List.pairwise_append.mpr ⟨h.distinct, List.pairwise_singleton _ _, ?_⟩
    intro x hx y hy
    obtain rfl := List.mem_singleton.mp hy
    refine Bool.eq_false_iff.mpr fun hequal => ?_
    rw [containsEqual_iff.mpr ⟨x, hx, hequal⟩] at hcontains
    cases hcontains
  covered x hx hnot := by
    rw [zipIdx_concat] at hx
    obtain ⟨hplaced, hnew⟩ := not_or.mp (mt List.mem_append.mpr hnot)
    obtain ⟨y, hy, hequal⟩ := h.covered x ((List.mem_append.mp hx).resolve_right hnew) hplaced
    exact ⟨y, List.mem_append_left _ hy, hequal⟩

-- So it is with all items that are still to come.
theorem KeepsFirsts.keepFirsts (h : KeepsFirsts items placed) (rest : List Value) :
    ∃ all, KeepsFirsts (items ++ rest) all ∧
      Builtin.keepFirsts (placed.map Prod.fst) rest = all.map Prod.fst := by
  induction rest generalizing items placed with
  | nil => exact ⟨placed, by rwa [List.append_nil], rfl⟩
  | cons item rest ih =>
    rw [List.append_cons, Builtin.keepFirsts]
    split
    · next hcontains => exact ih (h.leaveOut hcontains)
    · next hcontains => simpa using ih (h.keep (Bool.eq_false_iff.mpr hcontains))

-- An item is kept exactly if no item before it is equal to it. If one is, the kept item which that
-- one equals comes even earlier.
theorem KeepsFirsts.mem_iff (h : KeepsFirsts items placed) {x : Value × Nat}
    (hx : x ∈ items.zipIdx) :
    x ∈ placed ↔ ∀ y ∈ items.zipIdx, y.2 < x.2 → y.1.equal x.1 = false := by
  have hsymm : Std.Symm fun x y : Value × Nat => x.1.equal y.1 = false :=
    ⟨fun x y hxy => (Value.equal_comm y.1 x.1).trans hxy⟩
  have hkept : ∀ y ∈ placed, x ∈ placed → y.2 < x.2 → y.1.equal x.1 = false :=
    fun y hy hx hlt => h.distinct.forall hy hx fun heq => Nat.ne_of_lt hlt (congrArg _ heq)
  constructor
  · intro hplaced y hy hlt
    refine Bool.eq_false_iff.mpr fun hequal => ?_
    by_cases hmem : y ∈ placed
    · simp [hkept y hmem hplaced hlt] at hequal
    · obtain ⟨z, hz, hzy, hzequal⟩ := h.covered y hy hmem
      have hzx := Value.equal_trans hzequal hequal
      simp [hkept z hz hplaced (by omega)] at hzx
  · intro hfirst
    by_contra hnot
    obtain ⟨y, hy, hlt, hequal⟩ := h.covered x hx hnot
    rw [hfirst y (h.sublist.subset hy) hlt] at hequal
    cases hequal

-- A list without repetitions is kept as it is.
theorem keepFirsts_of_pairwise
    (h : (kept ++ rest).Pairwise fun x y => x.equal y = false) :
    keepFirsts kept rest = kept ++ rest := by
  induction rest generalizing kept with
  | nil => rw [keepFirsts, List.append_nil]
  | cons item rest ih =>
    have hnew : Value.containsEqual kept item = false := by
      rw [Value.containsEqual, List.any_eq_false]
      intro x hx
      simp [(List.pairwise_append.mp h).2.2 x hx item List.mem_cons_self]
    rw [List.append_cons] at h ⊢
    rw [keepFirsts, hnew]
    exact ih h

end Keeping

section Runs

variable {resolve : Request → Run Value} {registered : String → Bool} {name : String}
  {change : List Value → List Value} {items : List Value}

theorem yields_reshaping_applied (operand : Value) :
    (((reshaping name change).call .apply operand (.array items)).run resolve registered).Yields
      (.array (change items)) := Run.yields_done _

theorem yields_reshaping_evaluated {operand input : Value}
    (hitems : (resolve (.evaluate operand)).Yields (.array items)) :
    (((reshaping name change).call .evaluate operand input).run resolve registered).Yields
      (.array (change items)) := by
  simp only [reshaping, both, Operation.call, Script.run_bind, Script.run_evaluate]
  exact hitems.bind (Run.yields_done _)

end Runs

end Builtin

namespace Engine

open Builtin

variable {engine : Engine}

def distinct (operand : Value) : Value := .object [("$unique", operand)]

-- What is left of a list without its repetitions, in both modes.
structure Reduces (engine : Engine) (items kept : List Value) : Prop where
  applied : ∀ operand, (engine.apply (distinct operand) (.array items)).Yields (.array kept)
  evaluated : ∀ source, (engine.evaluate source).Yields (.array items) →
    (engine.evaluate (distinct source)).Yields (.array kept)

theorem Has.reduces (hhas : engine.Has ["$unique"]) (hplain : engine.middleware = [])
    (items : List Value) : engine.Reduces items (keepFirsts [] items) where
  applied operand := by
    rw [apply, hhas.resolve_operand hplain (List.mem_singleton_self _) find?_unique _ rfl]
    exact (Run.yields_note _).bind (yields_reshaping_applied operand)
  evaluated source hitems := by
    rw [evaluate, hhas.resolve_operand hplain (List.mem_singleton_self _) find?_unique _ rfl]
    exact (Run.yields_note _).bind (yields_reshaping_evaluated hitems)

-- Of the items that are equal to each other the first one is kept, and nothing of the others. What
-- is kept has no repetitions, so that it stays as it is.
theorem Has.unique_keeps_firsts (hhas : engine.Has ["$unique"]) (hplain : engine.middleware = [])
    (items : List Value) :
    ∃ placed kept, placed.map Prod.fst = kept ∧ KeepsFirsts items placed ∧
      (∀ x ∈ items.zipIdx,
        x ∈ placed ↔ ∀ y ∈ items.zipIdx, y.2 < x.2 → y.1.equal x.1 = false) ∧
      kept.Sublist items ∧ (kept.Pairwise fun x y => x.equal y = false ∧ y.equal x = false) ∧
      engine.Reduces items kept ∧ engine.Reduces kept kept := by
  have hempty : KeepsFirsts [] [] := ⟨.slnil, .nil, nofun⟩
  obtain ⟨placed, hplaced, hkept⟩ := hempty.keepFirsts items
  rw [List.map_nil] at hkept
  have hdistinct : (placed.map Prod.fst).Pairwise fun x y => x.equal y = false :=
    List.pairwise_map.mpr hplaced.distinct
  have hagain : keepFirsts [] (placed.map Prod.fst) = placed.map Prod.fst :=
    keepFirsts_of_pairwise hdistinct
  refine ⟨placed, _, rfl, hplaced, fun x hx => hplaced.mem_iff hx, ?_, ?_, ?_, ?_⟩
  · rw [← List.zipIdx_map_fst 0 items]
    exact hplaced.sublist.map Prod.fst
  · exact hdistinct.imp fun {x y} hxy => ⟨hxy, (Value.equal_comm y x).trans hxy⟩
  · exact hkept ▸ hhas.reduces hplain items
  · simpa only [hagain] using hhas.reduces hplain (placed.map Prod.fst)

-- A boolean is kept beside the number that it counts as elsewhere.
theorem unique_tells_true_from_one :
    let items : List Value := [.int 1, .bool true, .int 1]
    complete.Has ["$unique"] ∧ complete.middleware = [] ∧
      ∃ (placed : List (Value × Nat)) (kept : List Value), placed.map Prod.fst = kept ∧
        complete.Reduces items kept ∧ (.bool true, 1) ∈ placed ∧ (.int 1, 2) ∉ placed := by
  intro items
  have hhas : complete.Has ["$unique"] := complete_has (by decide)
  obtain ⟨placed, kept, hkept, -, hfirst, -, -, hreduces, -⟩ := hhas.unique_keeps_firsts rfl items
  refine ⟨hhas, rfl, placed, kept, hkept, hreduces, ?_, ?_⟩
  · exact (hfirst (.bool true, 1) (by simp [items])).mpr (by simp [items]; decide)
  · intro hmem
    have hother := (hfirst (.int 1, 2) (by simp [items])).mp hmem (.int 1, 0) (by simp [items])
    exact absurd (hother (by decide)) (by decide)

end Engine

end JsonExpr
