import JsonExpr.Builtin.Requirements
import JsonExpr.Value.Equality

-- Conditions: choosing a branch, testing fields against conditions, and boolean connectives.
namespace JsonExpr

namespace Builtin

-- Whether the value at each path meets its condition. A registered expression is a test that must
-- return true; anything else is compared with the value.
def conditionsHold (item : Value) : Object → Script Bool :=
  Script.every fun (path, condition) => do
    let value := item.read (Path.parse path)
    if ← .isExpression condition then
      match ← .apply condition value with
      | .bool true => return true
      | _ => return false
    else return value.equal condition

def conditionShape : String := "\x7bpath: condition, ...\x7d"

def matchesAll : Operation :=
  both
    (fun operand input => do
      let conditions ← requireFields "$matches" conditionShape operand
      return .bool (← conditionsHold input conditions))
    (fun operand => do
      let fields ← requireKeys "$matches" ["data", "conditions"] operand
      let conditions ← requireFields "$matches" conditionShape (field "conditions" fields)
      let data ← .evaluate (field "data" fields)
      return .bool (← conditionsHold data conditions))

-- The items of a list that meet all conditions.
def filterItemsBy (items conditions : Value) : Script Value := do
  let items ← requireList "$filterBy" items
  let conditions ← requireFields "$filterBy" conditionShape conditions
  return .array (← Script.keep (fun item => conditionsHold item conditions) items)

def filterBy : Operation :=
  both (fun operand input => filterItemsBy input operand) fun operand => do
    let fields ← requireKeys "$filterBy" ["array", "conditions"] operand
    filterItemsBy (← .evaluate (field "array" fields)) (field "conditions" fields)

def requireCondition : Value → Script Bool
  | .bool b => .done b
  | value => .outsideDomain (.ifCondition value)

-- Resolves the condition and then one branch; a missing branch is null.
def chooseBranch (resolve : Value → Script Value) (operand : Value) : Script Value := do
  let fields ← requireFields "$if" "\x7bif, then, else\x7d" operand
  match fields.find? "if" with
  | none => .invalidOperand .conditionMissing
  | some condition =>
    let holds ← requireCondition (← resolve condition)
    resolve (field (if holds then "then" else "else") fields)

def ifThenElse : Operation :=
  both (fun operand input => chooseBranch (fun value => .apply value input) operand)
    (chooseBranch .evaluate)

-- Whether a clause matches the case value. A registered expression other than the literal escape is
-- a test of that value; anything else is resolved and compared with it.
def clauseMatches (resolve : Value → Script Value) (clause value : Value) : Script Bool := do
  if (← .isExpression clause) && !clause.isLiteralEscape then
    match ← .apply clause value with
    | .bool b => return b
    | other => .outsideDomain (.whenCondition other)
  else return (← resolve clause).equal value

-- The resolved branch of the first matching case, if there is one.
def firstCase? (resolve : Value → Script Value) (value : Value) : List Value → Script (Option Value)
  | [] => .done none
  | .object fields :: rest =>
    match Fields.find? "when" fields with
    | none => .invalidOperand .whenMissing
    | some clause => do
      if ← clauseMatches resolve clause value then
        return some (← resolve (field "then" fields))
      else firstCase? resolve value rest
  | _ :: _ => .invalidOperand .whenMissing

def selectCase (resolve : Value → Script Value) (operand : Value) : Script Value := do
  let fields ← requireFields "$case" "\x7bvalue, cases, default\x7d" operand
  match fields.find? "cases" with
  | some (.array cases) =>
    let value ← resolve (field "value" fields)
    match ← firstCase? resolve value cases with
    | some result => return result
    | none => resolve (field "default" fields)
  | _ => .invalidOperand .casesMissing

def caseOf : Operation :=
  both (fun operand input => selectCase (fun value => .apply value input) operand)
    (selectCase .evaluate)

def requireExpressions (name : String) : Value → Script (List Value)
  | .array items => .done items
  | _ => .invalidOperand (.notExpressions name)

-- A connective over resolved values, each counted as true or false, that stops as early as it can.
def connective (name : String) (decide : (Value → Script Bool) → List Value → Script Bool) :
    Operation :=
  both
    (fun operand input => do
      let items ← requireExpressions name operand
      return .bool (← decide (fun item => do return (← .apply item input).isTruthy) items))
    (fun operand => do
      let items ← requireExpressions name operand
      return .bool (← decide (fun item => do return (← .evaluate item).isTruthy) items))

def and : Operation := connective "$and" Script.every

def or : Operation := connective "$or" Script.any

def not : Operation :=
  both
    (fun operand input => do return .bool !(← .apply operand input).isTruthy)
    (fun operand => do return .bool !(← .evaluate operand).isTruthy)

end Builtin

end JsonExpr
