import JsonExpr.Builtin.Requirements
import JsonExpr.Value.Sorting

-- Operations that apply an expression, or read a path, for every item of a list.
namespace JsonExpr

namespace Builtin

-- An operation over the items of the input. The self-contained form takes the list and the
-- expression, and resolves the list first.
def iteration (name : String) (run : (Value → Script Value) → List Value → Script Value) :
    Operation :=
  both
    (fun operand input => do
      let items ← requireList name input
      run (fun item => .apply operand item) items)
    (fun operand => do
      let (array, expression) ← requirePair name "[array, expression]" operand
      let items ← requireList name (← .evaluate array)
      run (fun item => .apply expression item) items)

-- The step as a test: what it returns counts as true or false.
def asTest (step : Value → Script Value) (item : Value) : Script Bool := do
  return (← step item).isTruthy

def map : Operation :=
  iteration "$map" fun step items => do return .array (← Script.each step items)

def filter : Operation :=
  iteration "$filter" fun step items => do return .array (← Script.keep (asTest step) items)

def find : Operation :=
  iteration "$find" fun step items => do return (← Script.first? (asTest step) items).getD .null

def all : Operation :=
  iteration "$all" fun step items => do return .bool (← Script.every (asTest step) items)

def any : Operation :=
  iteration "$any" fun step items => do return .bool (← Script.any (asTest step) items)

-- Lists among the results are joined in place.
def flatMap : Operation :=
  iteration "$flatMap" fun step items => do
    return .array ((← Script.each step items).flatMap Value.wildcardItems)

-- What a selector reads from an item: the value at a path, or what an expression resolves to.
def selectKey (selector item : Value) : Script Value :=
  match selector with
  | .string path => .done (item.read (Path.parse path))
  | _ => .apply selector item

def pluckFrom (items selector : Value) : Script Value := do
  let items ← requireList "$pluck" items
  return .array (← Script.each (selectKey selector) items)

def pluck : Operation :=
  both (fun operand input => pluckFrom input operand) fun operand => do
    let (array, selector) ← requirePair "$pluck" "[array, path]" operand
    pluckFrom (← .evaluate array) selector

-- The name of a group: a text is its own name.
def groupName : Value → String
  | .string name => name
  | value => value.describe

-- The item added to the end of its group, a new group coming last.
def addToGroup (groups : Fields (List Value)) (name : String) (item : Value) :
    Fields (List Value) :=
  Fields.insert name (((groups.find? name).getD []) ++ [item]) groups

def groupItems (selector : Value) : Fields (List Value) → List Value → Script (Fields (List Value))
  | groups, [] => .done groups
  | groups, item :: rest => do
    let key ← selectKey selector item
    if key.isNull then .outsideDomain (.cannotGroup item selector)
    else groupItems selector (addToGroup groups (groupName key) item) rest

def groupFrom (items selector : Value) : Script Value := do
  let items ← requireList "$groupBy" items
  let groups ← groupItems selector [] items
  return .object (groups.map fun group => (group.1, .array group.2))

def groupBy : Operation :=
  both (fun operand input => groupFrom input operand) fun operand => do
    let (array, selector) ← requirePair "$groupBy" "[array, path]" operand
    groupFrom (← .evaluate array) selector

-- A sort key and its direction.
structure Criterion where
  selector : Value
  descending : Bool

mutual

-- The criteria of an operand, the most significant first; none if some part has the wrong shape.
def criteria? : Value → Option (List Criterion)
  | .string path => some [⟨.string path, false⟩]
  | .object fields =>
    (Fields.find? "by" fields).map fun selector =>
      [⟨selector, ((Fields.find? "desc" fields).getD .null).isTruthy⟩]
  | .array [] => none
  | .array (part :: rest) => criteriaOfItems? (part :: rest)
  | _ => none

def criteriaOfItems? : List Value → Option (List Criterion)
  | [] => some []
  | part :: rest => do
    let first ← criteria? part
    let others ← criteriaOfItems? rest
    return first ++ others

end

-- One stable pass: items with a key in the order of their keys, and then those without. The keys
-- are read for each of the two tests and once more for the order, and there a misfit counts as keys
-- that cannot be ordered.
def sortPass (criterion : Criterion) (items : List Value) : Script (List Value) := do
  let key := selectKey criterion.selector
  let present ← Script.keep (fun item => do return !(← key item).isNull) items
  let missing ← Script.keep (fun item => do return (← key item).isNull) items
  let keys ← (Script.each key present).guard (.cannotSort criterion.selector)
  match Sorting.byKeys? criterion.descending (keys.zip present) with
  | some sorted => return sorted ++ missing
  | none => .outsideDomain (.cannotSort criterion.selector)

-- Passes from the least significant criterion to the most significant one.
def sortItems (items operand : Value) : Script Value := do
  let items ← requireList "$sort" items
  match criteria? operand with
  | none => .invalidOperand .sortCriteria
  | some criteria =>
    let sorted ←
      Script.fold (fun items criterion => sortPass criterion items) items criteria.reverse
    return .array sorted

def sort : Operation :=
  both (fun operand input => sortItems input operand) fun operand => do
    let fields ← requireKeys "$sort" ["array", "sortCriteria"] operand
    sortItems (← .evaluate (field "array" fields)) (field "sortCriteria" fields)

end Builtin

end JsonExpr
