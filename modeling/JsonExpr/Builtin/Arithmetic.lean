import JsonExpr.Builtin.Requirements

-- Arithmetic of one or two numbers.
namespace JsonExpr

namespace Builtin

def computePair (name : String) (compute : Number → Number → Script Number) (left right : Value) :
    Script Value := do
  let a ← requireNumber name left
  let b ← requireNumber name right
  return .number (← compute a b)

-- The two elements of a resolved list.
def pairOf (name : String) : List Value → Script (Value × Value)
  | [left, right] => .done (left, right)
  | _ => .invalidOperand (.pairLength name)

-- An operation on the two elements of the operand, or on the input and an operand that is no list.
def binary (name : String) (compute : Number → Number → Script Number) : Operation :=
  both
    (fun operand input => do
      match ← .apply operand input with
      | .array items =>
        let (left, right) ← pairOf name items
        computePair name compute left right
      | right => computePair name compute input right)
    (fun operand => do
      match ← .evaluate operand with
      | .array items =>
        let (left, right) ← pairOf name items
        computePair name compute left right
      | _ => .invalidOperand (.pairNeeded name))

def add : Operation := binary "$add" fun a b => .ofExcept (a.add b)

def subtract : Operation := binary "$subtract" fun a b => .ofExcept (a.subtract b)

def multiply : Operation := binary "$multiply" fun a b => .ofExcept (a.multiply b)

def divide : Operation :=
  binary "$divide" fun a b =>
    if b.isZero then .outsideDomain .division else .ofExcept (a.divide b)

def modulo : Operation :=
  binary "$modulo" fun a b =>
    if b.isZero then .outsideDomain .modulo else .ofExcept (a.modulo b)

def pow : Operation :=
  binary "$pow" fun base exponent =>
    if base.isNegative && !exponent.isWhole then .outsideDomain .complexPower
    else if base.isZero && exponent.isNegative then .outsideDomain .zeroPower
    else .ofExcept (base.power exponent)

-- An operation on the resolved operand, or on the input if the operand is no number.
def unary (name : String) (compute : Number → Script Number) : Operation :=
  both
    (fun operand input => do
      let n ← match ← .apply operand input with
        | .number n => .done n
        | _ => requireNumber name input
      return .number (← compute n))
    (fun operand => do
      let n ← requireNumber name (← .evaluate operand)
      return .number (← compute n))

def abs : Operation := unary "$abs" fun n => .done n.absolute

def ceil : Operation := unary "$ceil" fun n => do return .int (← .ofExcept n.ceiling)

def floor : Operation := unary "$floor" fun n => do return .int (← .ofExcept n.floor)

def sqrt : Operation :=
  unary "$sqrt" fun n =>
    if n.isNegative then .outsideDomain .complexRoot else .ofExcept n.squareRoot

end Builtin

end JsonExpr
