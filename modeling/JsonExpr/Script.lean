import JsonExpr.Failure

-- What an operation does, as a script of the questions it asks of the engine. A script can ask to
-- resolve a value, whether a value is a registered expression, for random bits and for the time; it
-- can log a value; and it ends with a result or a failure. A request that fails ends the script,
-- unless it was attempted only; and a misfit on the way can be reported as a problem of the script.
namespace JsonExpr

-- A value to be resolved, and against which input.
inductive Request where
  | apply (expression input : Value)
  | evaluate (expression : Value)

def Request.expression : Request → Value
  | apply expression _ => expression
  | evaluate expression => expression

-- A moment: milliseconds since 1970 in universal time, and minutes by which local time is ahead.
structure Moment where
  milliseconds : Nat
  localOffset : Int := 0
deriving Inhabited

inductive Script (α : Type) where
  | done (result : α)
  | fail (failure : Failure)
  | resolve (request : Request) (next : Value → Script α)
  -- the same, with a misfit on the way reported as the problem
  | guarded (problem : DomainProblem) (request : Request) (next : Value → Script α)
  -- goes on whatever the request comes to
  | attempt (request : Request) (next : Except Failure Value → Script α)
  | recognize (value : Value) (next : Bool → Script α)
  | log (value : Value) (next : Script α)
  -- a number below the bound, all equally likely
  | random (bound : Nat) (next : Nat → Script α)
  | now (next : Moment → Script α)

namespace Script

variable {α β γ : Type}

def bind (script : Script α) (f : α → Script β) : Script β :=
  match script with
  | done a => f a
  | fail failure => fail failure
  | resolve request next => resolve request fun value => (next value).bind f
  | guarded problem request next => guarded problem request fun value => (next value).bind f
  | attempt request next => attempt request fun outcome => (next outcome).bind f
  | recognize value next => recognize value fun answer => (next answer).bind f
  | log value next => log value (next.bind f)
  | random bound next => random bound fun n => (next n).bind f
  | now next => now fun moment => (next moment).bind f

instance : Monad Script where
  pure := done
  bind := bind

theorem bind_pure (script : Script α) : script.bind done = script := by
  induction script with
  | done | fail => rfl
  | resolve _ _ ih | guarded _ _ _ ih | attempt _ _ ih | recognize _ _ ih | random _ _ ih
  | now _ ih =>
    simp only [bind]
    congr
    funext x
    exact ih x
  | log _ _ ih => simp only [bind, ih]

theorem bind_assoc (script : Script α) (f : α → Script β) (g : β → Script γ) :
    (script.bind f).bind g = script.bind fun a => (f a).bind g := by
  induction script with
  | done | fail => rfl
  | resolve _ _ ih | guarded _ _ _ ih | attempt _ _ ih | recognize _ _ ih | random _ _ ih
  | now _ ih =>
    simp only [bind]
    congr
    funext x
    exact ih x
  | log _ _ ih => simp only [bind, ih]

instance : LawfulMonad Script := LawfulMonad.mk' Script bind_pure (fun _ _ => rfl) bind_assoc

def apply (expression input : Value) : Script Value := resolve (.apply expression input) done

def evaluate (expression : Value) : Script Value := resolve (.evaluate expression) done

def isExpression (value : Value) : Script Bool := recognize value done

def invalidOperand (problem : OperandProblem) : Script α := fail (.operand problem)

def outsideDomain (problem : DomainProblem) : Script α := fail (.domain problem)

def fault (cause : Fault) : Script α := fail (.fault cause)

-- The script with every misfit reported as the problem: its own, and those on the way to what it
-- has resolved.
def guard (problem : DomainProblem) : Script α → Script α
  | done a => done a
  | fail failure => fail (failure.reportedAs problem)
  | resolve request next => guarded problem request fun value => (next value).guard problem
  | guarded inner request next => guarded inner request fun value => (next value).guard problem
  | attempt request next => attempt request fun outcome => (next outcome).guard problem
  | recognize value next => recognize value fun answer => (next answer).guard problem
  | log value next => log value (next.guard problem)
  | random bound next => random bound fun n => (next n).guard problem
  | now next => now fun moment => (next moment).guard problem

-- A result that needs no question.
def ofExcept : Except Fault α → Script α
  | .ok a => done a
  | .error cause => fault cause

-- The results of a step on every item, in order.
def each (step : α → Script β) : List α → Script (List β)
  | [] => done []
  | item :: rest => do
    let result ← step item
    let results ← each step rest
    return result :: results

-- The items that pass a test.
def keep (test : α → Script Bool) : List α → Script (List α)
  | [] => done []
  | item :: rest => do
    let passes ← test item
    let kept ← keep test rest
    return if passes then item :: kept else kept

-- The first item that passes a test; later ones are not tested.
def first? (test : α → Script Bool) : List α → Script (Option α)
  | [] => done none
  | item :: rest => do
    if ← test item then return some item else first? test rest

-- Whether every item passes; nothing after the first that does not is tested.
def every (test : α → Script Bool) : List α → Script Bool
  | [] => done true
  | item :: rest => do
    if ← test item then every test rest else return false

-- Whether some item passes; nothing after the first that does is tested.
def any (test : α → Script Bool) : List α → Script Bool
  | [] => done false
  | item :: rest => do
    if ← test item then return true else any test rest

-- A left fold.
def fold (step : β → α → Script β) : β → List α → Script β
  | acc, [] => done acc
  | acc, item :: rest => do fold step (← step acc item) rest

end Script

end JsonExpr
