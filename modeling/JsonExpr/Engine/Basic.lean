import JsonExpr.Engine.Middleware
import JsonExpr.Operation

-- The engine resolves templates: it fills every hole by dispatching the expression in it, and every
-- dispatch runs the script of an operation, which may ask for more.
namespace JsonExpr

structure Engine where
  definitions : Definitions
  -- the layers around every dispatch, the outermost first
  middleware : List Middleware := []

namespace Engine

-- The registered names in the order of registration.
def names (engine : Engine) : List String := engine.definitions.keys

def registers (engine : Engine) (name : String) : Bool := engine.definitions.contains name

-- Whether a value is an expression that names a registered operation.
def isExpression (engine : Engine) (value : Value) : Bool := value.namesOne engine.registers

-- The innermost step of a dispatch: the definition's script, run with a way to resolve requests.
def invoke (engine : Engine) (resolve : Request → Run Value) (call : Call) : Run Value :=
  match engine.definitions.find? call.name with
  | none => .fail (.fault .unregistered)
  | some definition =>
    (Run.note (.dispatching call.name call.mode)).bind fun _ =>
      match definition with
      | .inert _ => .fail (.fault .notAnOperation)
      | .operation operation =>
        (operation.call call.mode call.operand call.input).run resolve engine.registers

-- The call for an expression that a request meets.
def callFor (request : Request) (name : String) (operand : Value) : Call :=
  match request with
  | .apply _ input => { name, mode := .apply, operand, input }
  | .evaluate _ => { name, mode := .evaluate, operand }

-- One hole: an expression is dispatched if its name is registered.
def resolveHole (engine : Engine) (dispatch : Call → Run Value) (request : Request) (hole : Value) :
    Run Value :=
  match hole.expression? with
  | none => .done hole
  | some (name, operand) =>
    if engine.registers name then dispatch (callFor request name operand)
    else .fail (.unknownOperation ⟨name, operand, engine.names⟩)

-- A request resolved with a given way to dispatch.
def resolveWith (engine : Engine) (dispatch : Call → Run Value) (request : Request) : Run Value :=
  request.expression.fill (engine.resolveHole dispatch request)

-- A dispatch with at most so many dispatches inside one another.
def dispatch (engine : Engine) : Nat → Call → Run Value
  | 0 => fun _ => .fail .tooDeep
  | levels + 1 =>
    Middleware.wrap engine.middleware (engine.invoke (engine.resolveWith (engine.dispatch levels)))

-- How far dispatches may nest beyond the depth of the given value. Built-in operations never need
-- any of it; operations that resolve values of their own making do.
def allowance : Nat := 1000

-- A request resolved from the outside.
def resolve (engine : Engine) (request : Request) : Run Value :=
  engine.resolveWith (engine.dispatch (request.expression.depth + allowance)) request

-- The value resolved against input data.
def apply (engine : Engine) (value input : Value) : Run Value := engine.resolve (.apply value input)

-- The value resolved on its own.
def evaluate (engine : Engine) (value : Value) : Run Value := engine.resolve (.evaluate value)

-- A stand-alone operation called with the engine behind it.
def callOperation (engine : Engine) (operation : Operation) (mode : Mode) (operand input : Value) :
    Run Value :=
  (operation.call mode operand input).run
    (engine.resolveWith (engine.dispatch (operand.depth + allowance))) engine.registers

end Engine

end JsonExpr
