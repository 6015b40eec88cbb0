import JsonExpr.Value.Basic

-- Expressions among data. An object with exactly one key has the shape of an expression when the
-- key starts with the sigil: the key names an operation and the value is its operand. Everything
-- else is a template whose holes are the outermost expressions inside it.
namespace JsonExpr

def sigil : Char := '$'

-- The name that keeps its operand from being read as an expression.
def literalName : String := "$literal"

-- Whether a key can name an operation.
def isOperationName (name : String) : Bool := name.toList.head? == some sigil

namespace Value

-- The name and the operand of a value in the shape of an expression.
def expression? : Value → Option (String × Value)
  | object [(name, operand)] => if isOperationName name then some (name, operand) else none
  | _ => none

def hasExpressionShape (value : Value) : Bool := value.expression?.isSome

-- Whether a value is an expression whose name passes a test.
def namesOne (registered : String → Bool) (value : Value) : Bool :=
  match value.expression? with
  | some (name, _) => registered name
  | none => false

-- Whether a value is data wrapped by the literal escape.
def isLiteralEscape (value : Value) : Bool := value.namesOne (· == literalName)

section Fill

variable {m : Type → Type} [Monad m]

mutual

-- The template with every hole replaced by what it resolves to, from left to right.
def fill (resolve : Value → m Value) : Value → m Value
  | array items => do return array (← fillItems resolve items)
  | object fields =>
    if (object fields).hasExpressionShape then resolve (object fields)
    else do return object (← fillFields resolve fields)
  | value => pure value

def fillItems (resolve : Value → m Value) : List Value → m (List Value)
  | [] => pure []
  | item :: rest => do
    let item ← fill resolve item
    let rest ← fillItems resolve rest
    return item :: rest

def fillFields (resolve : Value → m Value) : List (String × Value) → m (List (String × Value))
  | [] => pure []
  | (name, value) :: rest => do
    let value ← fill resolve value
    let rest ← fillFields resolve rest
    return (name, value) :: rest

end

end Fill

mutual

-- The holes of a template, in document order.
def holes : Value → List Value
  | array items => holesOfItems items
  | object fields =>
    if (object fields).hasExpressionShape then [object fields] else holesOfFields fields
  | _ => []

def holesOfItems : List Value → List Value
  | [] => []
  | item :: rest => item.holes ++ holesOfItems rest

def holesOfFields : List (String × Value) → List Value
  | [] => []
  | (_, value) :: rest => value.holes ++ holesOfFields rest

end

end Value

end JsonExpr
