import JsonExpr.Builtin.Sequence

-- Flattening lists inside of lists: what lies in them when all of them are opened, how deep they
-- go, and what opening only some levels leaves of both.
namespace JsonExpr

namespace Value

mutual

-- What is left of a value when every list in it is opened, from left to right. An object is not
-- looked into.
def leaves : Value → List Value
  | array items => leavesOfItems items
  | value => [value]

def leavesOfItems : List Value → List Value
  | [] => []
  | item :: rest => item.leaves ++ leavesOfItems rest

end

mutual

-- How many lists lie directly inside one another at most; none if the value is no list.
def listDepth : Value → Nat
  | array items => listDepthOfItems items + 1
  | _ => 0

def listDepthOfItems : List Value → Nat
  | [] => 0
  | item :: rest => max item.listDepth (listDepthOfItems rest)

end

theorem leavesOfItems_eq (items : List Value) : leavesOfItems items = items.flatMap leaves := by
  induction items with
  | nil => rfl
  | cons item rest ih => rw [leavesOfItems, ih, List.flatMap_cons]

theorem listDepthOfItems_le_iff {items : List Value} {depth : Nat} :
    listDepthOfItems items ≤ depth ↔ ∀ item ∈ items, item.listDepth ≤ depth := by
  induction items with
  | nil => simp [listDepthOfItems]
  | cons item rest ih => rw [listDepthOfItems, Nat.max_le, ih, List.forall_mem_cons]

theorem listDepth_eq_zero_iff {value : Value} : value.listDepth = 0 ↔ value.isArray = false := by
  cases value <;> simp [listDepth, isArray]

end Value

namespace Builtin

open Value

theorem flattenItems_append (depth : Nat) (items more : List Value) :
    flattenItems depth (items ++ more) = flattenItems depth items ++ flattenItems depth more := by
  cases depth with
  | zero => rfl
  | succ depth => simp only [flattenItems, List.flatMap_append]

theorem flattenItems_flatMap {α : Type} (depth : Nat) (xs : List α) (f : α → List Value) :
    flattenItems depth (xs.flatMap f) = xs.flatMap fun x => flattenItems depth (f x) := by
  induction xs with
  | nil => cases depth <;> rfl
  | cons x rest ih => rw [List.flatMap_cons, List.flatMap_cons, flattenItems_append, ih]

-- What is no list stays as it is at any depth.
theorem flattenItems_singleton {item : Value} (h : item.isArray = false) (depth : Nat) :
    flattenItems depth [item] = [item] := by
  cases depth with
  | zero => rfl
  | succ depth => cases item <;> simp_all [flattenItems, isArray]

-- The items that an item is replaced by when a level of lists is opened.
def openOne (depth : Nat) : Value → List Value
  | .array inner => flattenItems depth inner
  | item => [item]

theorem flattenItems_succ (depth : Nat) (items : List Value) :
    flattenItems (depth + 1) items = items.flatMap (openOne depth) := by
  rw [flattenItems]
  rfl

theorem flattenItems_add (depth more : Nat) (items : List Value) :
    flattenItems (depth + more) items = flattenItems more (flattenItems depth items) := by
  induction depth generalizing items with
  | zero => rw [Nat.zero_add, flattenItems]
  | succ depth ih =>
    rw [Nat.add_right_comm, flattenItems_succ, flattenItems_succ, flattenItems_flatMap]
    congr
    funext item
    cases item with
    | array inner => exact ih inner
    | _ => exact (flattenItems_singleton rfl more).symm

theorem leavesOfItems_flattenItems (depth : Nat) (items : List Value) :
    leavesOfItems (flattenItems depth items) = leavesOfItems items := by
  induction depth generalizing items with
  | zero => rw [flattenItems]
  | succ depth ih =>
    rw [flattenItems_succ, leavesOfItems_eq, leavesOfItems_eq, List.flatMap_assoc]
    congr
    funext item
    cases item with
    | array inner => rw [openOne, ← leavesOfItems_eq, ih, leaves]
    | _ => rfl

-- Lists are left exactly if some item goes deeper than has been opened.
theorem forall_mem_flattenItems_iff {depth : Nat} {items : List Value} :
    (∀ item ∈ flattenItems depth items, item.isArray = false) ↔
      ∀ item ∈ items, item.listDepth ≤ depth := by
  induction depth generalizing items with
  | zero => simp only [flattenItems, Nat.le_zero, listDepth_eq_zero_iff]
  | succ depth ih =>
    rw [flattenItems_succ, List.forall_mem_flatMap]
    refine forall₂_congr fun item _ => ?_
    cases item with
    | array inner => rw [openOne, ih, listDepth, Nat.add_le_add_iff_right, listDepthOfItems_le_iff]
    | _ => simp [openOne, isArray, listDepth]

end Builtin

end JsonExpr
