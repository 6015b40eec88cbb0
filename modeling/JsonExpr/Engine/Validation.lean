import JsonExpr.Engine.Basic

-- Finding unknown operations without running anything.
namespace JsonExpr

namespace Engine

mutual

-- The unknown operations of a value, in document order. The operand of an unknown operation is not
-- looked at, nor is that of the literal escape.
def unknowns (engine : Engine) : Value → List UnknownOperation
  | .array items => unknownsOfItems engine items
  | .object fields =>
    match (Value.object fields).expression? with
    | none => unknownsOfFields engine fields
    | some (name, operand) =>
      if !engine.registers name then [⟨name, operand, engine.names⟩]
      else if name = literalName then []
      else unknownsOfFields engine fields
  | _ => []

def unknownsOfItems (engine : Engine) : List Value → List UnknownOperation
  | [] => []
  | item :: rest => engine.unknowns item ++ unknownsOfItems engine rest

def unknownsOfFields (engine : Engine) : List (String × Value) → List UnknownOperation
  | [] => []
  | (_, value) :: rest => engine.unknowns value ++ unknownsOfFields engine rest

end

-- A message for each unknown operation.
def validate (engine : Engine) (value : Value) : List String :=
  (engine.unknowns value).map UnknownOperation.message

-- Fails with all messages if there are any.
def ensureValid (engine : Engine) (value : Value) : Except Failure Unit :=
  match engine.validate value with
  | [] => .ok ()
  | messages => .error (.invalidExpression messages)

end Engine

end JsonExpr
