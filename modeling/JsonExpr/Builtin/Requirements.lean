import JsonExpr.Operation
import JsonExpr.Value.Path

-- What operations require of their operands and inputs.
namespace JsonExpr

namespace Builtin

abbrev Object := Fields Value

def requireList (name : String) : Value → Script (List Value)
  | .array items => .done items
  | _ => .outsideDomain (.arrayInput name)

def requireFields (name shape : String) : Value → Script Object
  | .object fields => .done fields
  | _ => .invalidOperand (.notObject name shape)

-- The fields of a self-contained operand, which must include the given keys.
def requireKeys (name : String) (keys : List String) : Value → Script Object
  | .object fields =>
    match keys.filter fun key => !Fields.contains key fields with
    | [] => .done fields
    | missing => .invalidOperand (.formLacks name missing)
  | _ => .invalidOperand (.formNotObject name keys)

def requirePair (name shape : String) : Value → Script (Value × Value)
  | .array [first, second] => .done (first, second)
  | _ => .invalidOperand (.notPair name shape)

def requireString (name : String) : Value → Script String
  | .string text => .done text
  | _ => .outsideDomain (.stringInput name)

def requireNumber (name : String) : Value → Script Number
  | .number n => .done n
  | value => .outsideDomain (.numbersNeeded name value)

def requireObject (name : String) : Value → Script Object
  | .object fields => .done fields
  | _ => .outsideDomain (.objectInput name)

-- A field of an operand; a missing one is null.
def field (key : String) (fields : Object) : Value := (fields.find? key).getD .null

-- An operation with both forms.
def both (applied : Value → Value → Script Value) (evaluated : Value → Script Value) :
    Operation where
  applied := some applied
  evaluated := some evaluated

end Builtin

end JsonExpr
