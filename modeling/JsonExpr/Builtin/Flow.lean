import JsonExpr.Builtin.Requirements

-- Operations that pass values on: the literal escape, composition, defaults, and debugging.
namespace JsonExpr

namespace Builtin

-- The expressions of a composition, every one of which must name a registered operation.
def requireComposable (name : String) : Value → Script (List Value)
  | .array items => do
    match ← Script.first? (fun item => do return !(← .isExpression item)) items with
    | some item => .invalidOperand (.notExpression item)
    | none => return items
  | _ => .invalidOperand (.notExpressions name)

-- Each expression is applied to what the one before it returned.
def chain (expressions : List Value) (start : Value) : Script Value :=
  Script.fold (fun value expression => .apply expression value) start expressions

def composition (name : String) (order : List Value → List Value) : Operation :=
  both
    (fun operand input => do
      let expressions ← requireComposable name operand
      chain (order expressions) input)
    (fun operand => do
      let (first, seed) ← requirePair name "[expressions, initialValue]" operand
      let expressions ← requireComposable name first
      chain (order expressions) (← .evaluate seed))

def pipe : Operation := composition "$pipe" id

def compose : Operation := composition "$compose" List.reverse

def defaultParts : Value → Script (Value × Value)
  | .array [expression, fallback] => .done (expression, fallback)
  | .array _ => .invalidOperand .defaultLength
  | .object fields =>
    match Fields.find? "expression" fields, Fields.find? "default" fields with
    | some expression, some fallback => .done (expression, fallback)
    | _, _ => .invalidOperand .defaultShape
  | _ => .invalidOperand .defaultShape

-- The first part, or the second one if the first is null.
def withDefault (resolve : Value → Script Value) (operand : Value) : Script Value := do
  let (expression, fallback) ← defaultParts operand
  let result ← resolve expression
  if result.isNull then resolve fallback else return result

def defaultTo : Operation :=
  both (fun operand input => withDefault (fun value => .apply value input) operand)
    (withDefault .evaluate)

-- Logs the resolved operand and returns it.
def debugWith (resolve : Value → Script Value) (operand : Value) : Script Value := do
  let value ← resolve operand
  .log value (.done value)

def debug : Operation :=
  both (fun operand input => debugWith (fun value => .apply value input) operand)
    (debugWith .evaluate)

end Builtin

end JsonExpr
