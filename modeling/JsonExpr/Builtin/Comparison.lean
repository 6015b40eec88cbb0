import JsonExpr.Builtin.Requirements
import JsonExpr.Value.Order

-- Comparisons of two values, bounds, and membership.
namespace JsonExpr

namespace Builtin

-- A comparison that has no answer for some values.
def checked (name : String) (compare : Value → Value → Option Bool) (left right : Value) :
    Script Value :=
  match compare left right with
  | some answer => .done (.bool answer)
  | none => .outsideDomain (.cannotCompare name left right)

def comparisonOperands (name : String) : Value → Script (Value × Value)
  | .array [left, right] => .done (left, right)
  | .object fields => do
    let fields ← requireKeys name ["left", "right"] (.object fields)
    return (field "left" fields, field "right" fields)
  | _ => .invalidOperand (.comparisonForm name)

def comparison (name : String) (compare : Value → Value → Option Bool) : Operation :=
  both
    (fun operand input => do checked name compare input (← .apply operand input))
    (fun operand => do
      let (left, right) ← comparisonOperands name operand
      let left ← .evaluate left
      checked name compare left (← .evaluate right))

def isBoolean : Value → Bool
  | .bool _ => true
  | _ => false

-- An order comparison, which booleans never take part in.
def ordered (compare : Value → Value → Option Bool) (left right : Value) : Option Bool :=
  if isBoolean left || isBoolean right then none else compare left right

def eq : Operation := comparison "$eq" fun left right => some (left.equal right)

def ne : Operation := comparison "$ne" fun left right => some !(left.equal right)

def gt : Operation := comparison "$gt" (ordered fun left right => right.less? left)

def gte : Operation := comparison "$gte" (ordered fun left right => right.atMost? left)

def lt : Operation := comparison "$lt" (ordered Value.less?)

def lte : Operation := comparison "$lte" (ordered Value.atMost?)

def member (name : String) (negate : Bool) (value items : Value) : Script Value :=
  match items with
  | .array items => .done (.bool (Value.containsEqual items value != negate))
  | _ => .invalidOperand (.notArray name)

def membership (name : String) (negate : Bool) : Operation :=
  both (fun operand input => do member name negate input (← .apply operand input)) fun operand => do
    let fields ← requireKeys name ["array", "value"] operand
    let value ← .evaluate (field "value" fields)
    member name negate value (← .evaluate (field "array" fields))

def isIn : Operation := membership "$in" false

def notIn : Operation := membership "$nin" true

-- Whether a value lies between two bounds. The upper bound is not looked at when the lower one
-- already fails.
def within? (low value high : Value) : Option Bool := do
  if ← low.atMost? value then value.atMost? high else return false

def withinBounds (value bounds : Value) : Script Value :=
  match bounds with
  | .object fields =>
    match Fields.find? "min" fields, Fields.find? "max" fields with
    | some low, some high =>
      match within? low value high with
      | some answer => .done (.bool answer)
      | none => .outsideDomain (.cannotBound value bounds)
    | _, _ => .invalidOperand .bounds
  | _ => .invalidOperand .bounds

def between : Operation :=
  both (fun operand input => do withinBounds input (← .apply operand input)) fun operand => do
    let fields ← requireKeys "$between" ["value", "min", "max"] operand
    let bounds ← .evaluate (.object fields)
    let value := match bounds with
      | .object fields => field "value" fields
      | _ => .null
    withinBounds value bounds

end Builtin

end JsonExpr
