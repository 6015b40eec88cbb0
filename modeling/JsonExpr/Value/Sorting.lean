import JsonExpr.Value.Order

-- Stable sorting by keys. Keys that are not ordered against each other can only be sorted if they
-- are never compared. A key that is no number precedes nothing, so such keys have no order to sort
-- by. In both cases items stay where placing one item after another leaves them. That is how short
-- lists are sorted. Lists of 64 items or more are sorted in runs that are merged, which compares
-- other pairs: with such keys among them, what is computed here may differ from that.
namespace JsonExpr

namespace Sorting

variable {α : Type}

mutual

-- Whether the value that is no number occurs in a key.
def hasNoPlace : Value → Bool
  | .number n => n.place == .nowhere
  | .array items => someHasNoPlace items
  | _ => false

def someHasNoPlace : List Value → Bool
  | [] => false
  | item :: rest => hasNoPlace item || someHasNoPlace rest

end

-- Whether every two of the keys are ordered.
def allOrdered : List Value → Bool
  | [] => true
  | key :: rest => (rest.all fun other => (key.less? other).isSome) && allOrdered rest

-- Whether an item belongs before another; none if their keys are not ordered.
def precedes? (a b : Value × α) : Option Bool := a.1.less? b.1

-- The position after all items that the new one does not precede, found by halving the range. The
-- range shrinks with every step, so its size bounds the steps.
def insertionPoint? (sorted : Array (Value × α)) (item : Value × α) : Nat → Nat → Nat → Option Nat
  | 0, low, _ => some low
  | steps + 1, low, high =>
    if low < high then do
      let middle := (low + high) / 2
      if ← precedes? item (← sorted[middle]?) then insertionPoint? sorted item steps low middle
      else insertionPoint? sorted item steps (middle + 1) high
    else some low

def place? (sorted : List (Value × α)) (item : Value × α) : Option (List (Value × α)) := do
  let point ← insertionPoint? sorted.toArray item sorted.length 0 sorted.length
  return sorted.take point ++ item :: sorted.drop point

-- The longest beginning in which no item, or every item, precedes the one before it.
def runLength? (descending : Bool) : Value × α → List (Value × α) → Option Nat
  | _, [] => some 0
  | previous, item :: rest => do
    if (← precedes? item previous) == descending then
      return (← runLength? descending item rest) + 1
    else return 0

-- A beginning in order, or in reverse order and then turned round, into which the others are put.
-- None if that takes a comparison of keys that are not ordered. For lists of less than 64 items
-- these are the comparisons that a sort by merged runs makes too; for longer ones they are not.
def placeAll? : List (Value × α) → Option (List (Value × α))
  | [] => some []
  | [item] => some [item]
  | first :: second :: rest => do
    let items := first :: second :: rest
    let descending ← precedes? second first
    let length := (← runLength? descending first (second :: rest)) + 1
    let start := if descending then (items.take length).reverse else items.take length
    (items.drop length).foldlM place? start

-- The items in ascending order, ties in the order of the list.
def ascending? (items : List (Value × α)) : Option (List (Value × α)) :=
  if allOrdered (items.map Prod.fst) && !items.any fun item => hasNoPlace item.1 then
    some (items.mergeSort fun a b => precedes? b a != some true)
  else placeAll? items

-- The items in the order of their keys, ties in the order of the list; none if keys that are not
-- ordered have to be compared. A descending sort keeps ties in the order of the list too.
def byKeys? (descending : Bool) (items : List (Value × α)) : Option (List α) := do
  if descending then
    let sorted ← ascending? items.reverse
    return sorted.reverse.map Prod.snd
  else
    let sorted ← ascending? items
    return sorted.map Prod.snd

end Sorting

end JsonExpr
