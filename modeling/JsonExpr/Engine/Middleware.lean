import JsonExpr.Engine.Run

-- Layers around every dispatch. A layer gets the call and a way to proceed with it or with another
-- call, once, several times, or not at all. An engine has only the layers that it is given; those
-- below show what a layer may do.
namespace JsonExpr

abbrev Middleware := Call → (Call → Run Value) → Run Value

namespace Middleware

-- The layers around a way to proceed, the first one outermost.
def wrap (layers : List Middleware) (proceed : Call → Run Value) : Call → Run Value :=
  layers.foldr (fun layer inner call => layer call inner) proceed

-- Records the call and its outcome under a tag and changes nothing.
def record (tag : String) : Middleware := fun call proceed => do
  Run.note (.observed (.enter tag call))
  match ← (proceed call).attempt with
  | .ok result =>
    Run.note (.observed (.exit tag call.name result))
    return result
  | .error failure =>
    Run.note (.observed (.raise tag call.name failure))
    Run.fail failure

-- What a substituting layer puts in place of the parts of a call.
structure Change where
  name : Option String := none
  mode : Option Mode := none
  operand : Option Value := none
  input : Option Value := none

def Change.apply (change : Change) (call : Call) : Call where
  name := change.name.getD call.name
  mode := change.mode.getD call.mode
  operand := change.operand.getD call.operand
  input := change.input.getD call.input

-- Proceeds with a changed call.
def substitute (change : Change) : Middleware := fun call proceed => proceed (change.apply call)

-- Returns a value without proceeding.
def answer (value : Value) : Middleware := fun _ _ => .done value

-- Returns a value in place of a failure, unless it is a breach that nothing foresees.
def recover (value : Value) : Middleware := fun call proceed => do
  match ← (proceed call).attempt with
  | .ok result => return result
  | .error failure => if failure.isRecoverable then return value else Run.fail failure

-- Proceeds two times and returns both results.
def twice : Middleware := fun call proceed => do
  let first ← proceed call
  let second ← proceed call
  return .array [first, second]

-- A layer for calls of one operation only.
def onlyFor (name : String) (layer : Middleware) : Middleware := fun call proceed =>
  if call.name = name then layer call proceed else proceed call

end Middleware

end JsonExpr
