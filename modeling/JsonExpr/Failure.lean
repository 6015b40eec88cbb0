import JsonExpr.Fault
import JsonExpr.Mode
import JsonExpr.Suggestion
import JsonExpr.Text.Quoted

-- Why a call fails, and what the failure says.
namespace JsonExpr

-- An operand does not have the shape that an operation requires.
inductive OperandProblem where
  | notObject (operation shape : String)
  | formNotObject (operation : String) (keys : List String)
  | formLacks (operation : String) (missing : List String)
  | notPair (operation shape : String)
  | pathMissing
  | pathKind
  | selection
  | separator
  | count (operation : String)
  | arrays
  | sortCriteria
  | coalesceKind
  | conditionMissing
  | casesMissing
  | whenMissing
  | notExpressions (operation : String)
  | notExpression (value : Value)
  | defaultLength
  | defaultShape
  | randomBounds
  | randomPrecision
  | pairLength (operation : String)
  | pairNeeded (operation : String)
  | mergeForm
  | keyList (operation : String)
  | comparisonForm (operation : String)
  | notArray (operation : String)
  | bounds
  | existsPath
  | regex (pattern : String)
  | wildcards (pattern : String)
  | patternKind (operation : String)
  | textForm (operation : String)
  | delimiter
  | replacement
  | custom (text : String)

-- Values of the right shape that an operation has no answer for.
inductive DomainProblem where
  | arrayInput (operation : String)
  | stringInput (operation : String)
  | numbersNeeded (operation : String) (value : Value)
  | arrayNeeded (operation : String)
  | cannotAggregate (operation : String) (values : Value)
  | cannotGroup (item selector : Value)
  | cannotSort (selector : Value)
  | ifCondition (value : Value)
  | whenCondition (value : Value)
  | division
  | modulo
  | complexPower
  | zeroPower
  | complexRoot
  | objectInput (operation : String)
  | pairs
  | cannotCompare (operation : String) (left right : Value)
  | cannotBound (value bounds : Value)
  | substring
  | custom (text : String)

inductive Failure where
  | unknownOperation (unknown : UnknownOperation)
  | operand (problem : OperandProblem)
  | unsupportedMode (operation : String) (mode : Mode)
  | domain (problem : DomainProblem)
  | invalidExpression (messages : List String)
  | other (text : String)
  -- an unforeseen breach, which no layer recovers from
  | fault (fault : Fault)
  -- dispatches are nested deeper than the limit of the call
  | tooDeep

namespace OperandProblem

def message : OperandProblem → String
  | notObject operation shape => operation ++ " operand must be an object: " ++ shape
  | formNotObject operation keys =>
    operation ++ " evaluate form requires object operand: \x7b" ++ ", ".intercalate keys ++ "\x7d"
  | formLacks operation missing =>
    operation ++ " evaluate form requires " ++
      " and ".intercalate (missing.map fun key => "'" ++ key ++ "'") ++ " properties"
  | notPair operation shape => operation ++ " requires array of length 2: " ++ shape
  | pathMissing => "$get object form requires 'path' property"
  | pathKind => "$get operand must be string or object with \x7bpath, default?\x7d"
  | selection => "$select operand must be array of paths or object with key mappings"
  | separator => "$join separator must be a string"
  | count operation => operation ++ " requires a numeric count"
  | arrays => "$concat operand must be an array of arrays"
  | sortCriteria =>
    "$sort operand must be string, object with 'by' property, or array of sort criteria"
  | coalesceKind => "$coalesce operand must be an array"
  | conditionMissing => "$if operand requires an 'if' property"
  | casesMissing => "$case operand requires a 'cases' array"
  | whenMissing => "Case item must have 'when' property"
  | notExpressions operation => operation ++ " operand must be an array of expressions"
  | notExpression value => value.describe ++ " is not a valid expression"
  | defaultLength =>
    "$default array form must have exactly 2 elements: [expression, default]"
  | defaultShape =>
    "$default operand must be an object with \x7b expression, default \x7d or array " ++
      "[expression, default]"
  | randomBounds => "$random requires numeric min and max"
  | randomPrecision => "$random precision must be a number"
  | pairLength operation => operation ++ " in array form requires exactly 2 elements"
  | pairNeeded operation =>
    operation ++ " evaluate form requires array operand: [left, right]"
  | mergeForm => "$merge evaluate form requires array operand: [object, ...objects]"
  | keyList operation => operation ++ " operand must be an array of property names"
  | comparisonForm operation =>
    operation ++ " evaluate form requires [left, right] or \x7bleft, right\x7d"
  | notArray operation => operation ++ " parameter must be an array"
  | bounds => "$between requires object operand: \x7bmin, max\x7d"
  | existsPath => "$exists operand must resolve to a string path"
  | regex pattern => "Invalid regular expression " ++ quote pattern
  | wildcards pattern => "Invalid pattern " ++ quote pattern
  | patternKind operation => operation ++ " pattern must be a string"
  | textForm operation =>
    operation ++ " evaluate form requires array operand: [string, ...parameters]"
  | delimiter => "$split delimiter must be a string"
  | replacement => "$replace requires [search, replacement] strings"
  | custom text => text

end OperandProblem

namespace DomainProblem

def message : DomainProblem → String
  | arrayInput operation => operation ++ " can only be applied to arrays"
  | stringInput operation => operation ++ " requires string input"
  | numbersNeeded operation value =>
    operation ++ " requires numeric values, got " ++ value.describe
  | arrayNeeded operation => operation ++ " requires array operand or input data"
  | cannotAggregate operation values => operation ++ " cannot aggregate " ++ values.describe
  | cannotGroup item selector =>
    item.describe ++ " could not be grouped by " ++ selector.describe
  | cannotSort selector => "$sort cannot order values selected by " ++ selector.describe
  | ifCondition value =>
    "$if.if must be a boolean or an expression that resolves to one, got " ++ value.describe
  | whenCondition value => "$case.when must resolve to a boolean, got " ++ value.describe
  | division => "Division by zero"
  | modulo => "Modulo by zero"
  | complexPower =>
    "Complex numbers are not supported (negative base with fractional exponent)"
  | zeroPower => "Division by zero (0 raised to negative exponent)"
  | complexRoot => "Complex numbers are not supported (square root of negative number)"
  | objectInput operation => operation ++ " can only be applied to objects"
  | pairs => "$fromPairs requires an array of [key, value] pairs"
  | cannotCompare operation left right =>
    operation ++ " cannot compare " ++ left.describe ++ " with " ++ right.describe
  | cannotBound value bounds =>
    "$between cannot compare " ++ value.describe ++ " with " ++ bounds.describe
  | substring => "$substring requires numeric [start, length?]"
  | custom text => text

end DomainProblem

namespace Failure

-- What an operation without a name is called.
def anonymous : String := "<anonymous operation>"

def message : Failure → String
  | unknownOperation unknown => unknown.message
  | operand problem => problem.message
  | unsupportedMode operation mode =>
    (if operation.isEmpty then anonymous else operation) ++ " does not support " ++ mode.name ++
      " mode"
  | domain problem => problem.message
  | invalidExpression messages => "\n".intercalate messages
  | other text => text
  | fault _ => ""
  | tooDeep => "dispatches are nested too deep"

-- Whether a recovery layer may turn the failure into a value.
def isRecoverable : Failure → Bool
  | fault _ => false
  | tooDeep => false
  | _ => true

-- The failure of an operation that reports every misfit as a problem of its own.
def reportedAs (problem : DomainProblem) : Failure → Failure
  | fault cause => if cause.isMisfit then domain problem else fault cause
  | failure => failure

end Failure

end JsonExpr
