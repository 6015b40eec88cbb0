import JsonExpr.Builtin.Requirements
import JsonExpr.Value.Sorting

-- Summaries of a list of values.
namespace JsonExpr

namespace Builtin

-- What a summary comes to. Some lists have none, which is reported with the list.
inductive Summary where
  | value (result : Value)
  | undefined
  | fault (cause : Fault)

def Summary.ofNumber : Except Fault Number → Summary
  | .ok n => value (.number n)
  | .error cause => fault cause

def summarize (name : String) (summary : List Value → Summary) (values : Value) : Script Value :=
  match values with
  | .array items =>
    match summary items with
    | .value result => .done result
    | .undefined => .outsideDomain (.cannotAggregate name values)
    | .fault cause => .fault cause
  | _ => .outsideDomain (.arrayNeeded name)

-- A summary of the resolved operand, or of the input if the operand is no list.
def aggregation (name : String) (summary : List Value → Summary) : Operation :=
  both
    (fun operand input => do
      let resolved ← .apply operand input
      summarize name summary (if resolved.isArray then resolved else input))
    (fun operand => do summarize name summary (← .evaluate operand))

def numbersOf? (items : List Value) : Option (List Number) :=
  items.mapM fun
    | .number n => some n
    | _ => none

-- A summary of numbers; the empty list has its own.
def ofNumbers (empty : Value) (summary : Number → List Number → Except Fault Number)
    (items : List Value) : Summary :=
  match numbersOf? items with
  | none => .undefined
  | some [] => .value empty
  | some (n :: rest) => .ofNumber (summary n rest)

-- Numbers are all ordered, so that they can always be sorted.
def sortNumbers (numbers : List Number) : List Number :=
  (Sorting.byKeys? false (numbers.map fun n => (.number n, n))).getD numbers

-- The middle number in order, or the mean of the two middle ones.
def medianOf (numbers : List Number) : Except Fault Number := do
  let sorted := sortNumbers numbers
  let half := sorted.length / 2
  let upper := (sorted[half]?).getD default
  if sorted.length % 2 = 1 then return upper
  else
    let lower := (sorted[half - 1]?).getD default
    (← lower.add upper).divide (.int 2)

def count : Operation := aggregation "$count" fun items => .value (.int items.length)

def sum : Operation :=
  aggregation "$sum" (ofNumbers (.int 0) fun n rest => Number.sum (n :: rest))

def min : Operation :=
  aggregation "$min" (ofNumbers .null fun n rest => .ok (Number.least n rest))

def max : Operation :=
  aggregation "$max" (ofNumbers .null fun n rest => .ok (Number.greatest n rest))

def mean : Operation := aggregation "$mean" (ofNumbers .null fun n rest => Number.mean (n :: rest))

def median : Operation :=
  aggregation "$median" (ofNumbers .null fun n rest => medianOf (n :: rest))

-- Whether a value can be counted: lists and objects cannot.
def isScalar : Value → Bool
  | .array _ | .object _ => false
  | _ => true

-- One more occurrence of a value, a new value coming last.
def tally : List (Value × Nat) → Value → List (Value × Nat)
  | [], value => [(value, 1)]
  | (known, n) :: rest, value =>
    if known.equal value then (known, n + 1) :: rest else (known, n) :: tally rest value

-- The most frequent values in order of first occurrence; none if nothing occurs twice.
def mostFrequent (items : List Value) : List Value :=
  let counts := items.foldl tally []
  let highest := (counts.map Prod.snd).foldl Nat.max 0
  if highest ≤ 1 then [] else (counts.filter fun entry => entry.2 = highest).map Prod.fst

-- The most frequent value, or all of them in order if there are several.
def modeOf (items : List Value) : Summary :=
  if !items.all isScalar then .undefined
  else
    let modes := mostFrequent items
    match Sorting.byKeys? false (modes.map fun value => (value, value)) with
    | none => .undefined
    | some [] => .value .null
    | some [value] => .value value
    | some values => .value (.array values)

def mode : Operation := aggregation "$mode" modeOf

end Builtin

end JsonExpr
