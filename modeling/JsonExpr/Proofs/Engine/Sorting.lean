import JsonExpr.Proofs.Builtin.Sorting
import JsonExpr.Proofs.Engine.BuiltIn
import JsonExpr.Proofs.Engine.Levels

-- Sorting in an engine. Keys that resolve to the same from the outside, however often they are
-- read, do so inside of the sort as well.
namespace JsonExpr

open Builtin Sorting

namespace Builtin

theorem find?_sort : operations.find? "$sort" = some sort := by simp [operations, Fields.find?]

end Builtin

namespace Engine

variable {engine : Engine}

theorem hasKeys_resolveWith (hplain : engine.middleware = []) {operand : Value}
    {criteria : List Criterion} (hlists : Lists operand criteria) {key : Criterion → Value → Value}
    {items : List Value} (hkeys : HasKeys engine.resolve key criteria items) {levels : Nat}
    (hlevels : operand.depth + allowance ≤ levels) :
    HasKeys (engine.resolveWith (engine.dispatch levels)) key criteria items := by
  intro criterion hcriterion item hitem
  have hexposed := exposed_of_criteria? (criteria?_eq_some_iff.mpr hlists) criterion hcriterion
  have hdepth := hexposed.part.depth_le
  have hkey := hkeys criterion hcriterion item hitem
  unfold HasKey at hkey ⊢
  split at hkey
  · exact hkey
  · exact yields_resolveWith hplain hkey (by rw [Request.expression_apply]; omega)

-- A sort of the input, and a sort of what a field of the operand resolves to.
def sorting (operand : Value) : Value := .object [("$sort", operand)]

-- The operand of a sort that has its list with it.
structure SortsField (fields : Object) (array operand : Value) : Prop where
  array : fields.find? "array" = some array
  sortCriteria : fields.find? "sortCriteria" = some operand

section Sorts

variable (hhas : engine.Has ["$sort"]) {operand : Value} {criteria : List Criterion}
  (hlists : Lists operand criteria) {key : Criterion → Value → Value} {items : List Value}
  (huniform : ∀ criterion ∈ criteria, Uniform (key criterion) items)

include hhas hlists huniform

theorem Has.invoke_sort {resolve : Request → Run Value}
    (hkeys : HasKeys resolve key criteria items) :
    (engine.invoke resolve ⟨"$sort", .apply, operand, .array items⟩).Yields
        (.array (passes key criteria items)) ∧
      ∀ fields array, SortsField fields array operand →
        (resolve (.evaluate array)).Yields (.array items) →
        (engine.invoke resolve ⟨"$sort", .evaluate, .object fields, .null⟩).Yields
          (.array (passes key criteria items)) := by
  have hname : "$sort" ∈ ["$sort"] := List.mem_singleton_self _
  constructor
  · rw [hhas.invoke_eq hname find?_sort]
    exact (Run.yields_note _).bind (yields_sort_applied hlists hkeys huniform)
  · intro fields array hfields hitems
    rw [hhas.invoke_eq hname find?_sort]
    exact (Run.yields_note _).bind
      (yields_sort_evaluated hlists hkeys huniform hfields.array hfields.sortCriteria hitems)

variable (hplain : engine.middleware = []) (hkeys : HasKeys engine.resolve key criteria items)

include hplain hkeys

theorem Has.apply_sorting :
    (engine.apply (sorting operand) (.array items)).Yields
      (.array (passes key criteria items)) := by
  rw [apply, hhas.resolve_operand hplain (List.mem_singleton_self _) find?_sort _ rfl]
  refine (Run.yields_note _).bind (yields_sort_applied hlists ?_ huniform)
  exact hasKeys_resolveWith hplain hlists hkeys (Nat.le_refl _)

theorem Has.evaluate_sorting {fields : Object} {array : Value}
    (hfields : SortsField fields array operand)
    (hitems : (engine.evaluate array).Yields (.array items)) :
    (engine.evaluate (sorting (.object fields))).Yields (.array (passes key criteria items)) := by
  have harray := (Value.Part.of_find? hfields.array).depth_le
  have hcriteria := (Value.Part.of_find? hfields.sortCriteria).depth_le
  rw [evaluate, hhas.resolve_operand hplain (List.mem_singleton_self _) find?_sort _ rfl]
  refine (Run.yields_note _).bind (yields_sort_evaluated hlists ?_ huniform hfields.array
    hfields.sortCriteria (yields_resolveWith hplain hitems ?_))
  · exact hasKeys_resolveWith hplain hlists hkeys (by omega)
  · rw [Request.expression_evaluate]
    omega

end Sorts

-- If the keys for every criterion are of one kind and always resolve to the same, sorting always
-- returns the one list in the order of the criteria. So it is in a call of any engine, whatever
-- layers its requests go through, and from the outside if there are none.
theorem Has.sort_stable (hhas : engine.Has ["$sort"]) {operand : Value}
    {criteria : List Criterion} (hlists : Lists operand criteria)
    {key : Criterion → Value → Value} {items : List Value}
    (huniform : ∀ criterion ∈ criteria, Uniform (key criterion) items) :
    ∃ sorted, (∀ list, InOrderOf key criteria items list ↔ list = sorted) ∧
      (∀ resolve, HasKeys resolve key criteria items →
        (engine.invoke resolve ⟨"$sort", .apply, operand, .array items⟩).Yields (.array sorted) ∧
          ∀ fields array, SortsField fields array operand →
            (resolve (.evaluate array)).Yields (.array items) →
            (engine.invoke resolve ⟨"$sort", .evaluate, .object fields, .null⟩).Yields
              (.array sorted)) ∧
      (engine.middleware = [] → HasKeys engine.resolve key criteria items →
        (engine.apply (sorting operand) (.array items)).Yields (.array sorted) ∧
          ∀ fields array, SortsField fields array operand →
            (engine.evaluate array).Yields (.array items) →
            (engine.evaluate (sorting (.object fields))).Yields (.array sorted)) := by
  refine ⟨passes key criteria items, fun list => inOrderOf_iff huniform, fun resolve hkeys =>
    hhas.invoke_sort hlists huniform hkeys, fun hplain hkeys => ⟨?_, ?_⟩⟩
  · exact hhas.apply_sorting hlists huniform hplain hkeys
  · intro fields array hfields hitems
    exact hhas.evaluate_sorting hlists huniform hplain hkeys hfields hitems

-- From the greatest to the least, and the item without a key at the end.
theorem sort_descending :
    let selector := Value.object [("$identity", .null)]
    let operand := Value.object [("by", selector), ("desc", .bool true)]
    let criteria : List Criterion := [⟨selector, true⟩]
    let items : List Value := [.int 1, .null, .int 2]
    let key : Criterion → Value → Value := fun _ item => item
    complete.Has ["$sort"] ∧ complete.middleware = [] ∧ Lists operand criteria ∧
      (∀ criterion ∈ criteria, Uniform (key criterion) items) ∧
      HasKeys complete.resolve key criteria items ∧
      (complete.apply (sorting operand) (.array items)).Yields
        (.array [.int 2, .int 1, .null]) := by
  intro selector operand criteria items key
  have hhas : complete.Has ["$sort"] := complete_has (by decide)
  have hlists : Lists operand criteria := .selector rfl
  have huniform : ∀ criterion ∈ criteria, Uniform (key criterion) items := by
    intro criterion _
    left
    simp [key, items, Value.int]
  have hkeys : HasKeys complete.resolve key criteria items := by
    intro criterion hcriterion item _
    obtain rfl := List.mem_singleton.mp hcriterion
    exact fun _ => rfl
  have hgreater : Precedes true (.int 2) (.int 1) := ⟨nofun, .inr (.ints (by decide))⟩
  have hmissing (n : Int) : Precedes true (.int n) .null := ⟨nofun, .inl rfl⟩
  have hbefore {x y : Value} (h : Precedes true x y) : Before key criteria x y := .first h []
  have horder : InOrderOf key criteria items [.int 2, .int 1, .null] :=
    ⟨[(.int 2, 2), (.int 1, 0), (.null, 1)], (List.perm_append_singleton _ _).symm, rfl,
      by simp [hbefore, hgreater, hmissing]⟩
  obtain ⟨sorted, hsorted, -, hsorts⟩ := hhas.sort_stable hlists huniform
  obtain rfl := (hsorted _).mp horder
  exact ⟨hhas, rfl, hlists, huniform, hkeys, (hsorts rfl hkeys).1⟩

end Engine

end JsonExpr
