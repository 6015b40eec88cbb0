import JsonExpr.Script

-- Runs: what a call comes to when its surroundings are known. A run returns or fails, and in both
-- cases it leaves the events that happened on the way.
namespace JsonExpr

-- A call of an operation as the layers around it see it.
structure Call where
  name : String
  mode : Mode
  operand : Value
  -- the input data; null when evaluating
  input : Value := .null

-- What a recording layer sees of a call.
inductive Observation where
  | enter (tag : String) (call : Call)
  | exit (tag : String) (name : String) (result : Value)
  | raise (tag : String) (name : String) (failure : Failure)

inductive Event where
  | dispatching (name : String) (mode : Mode)
  | debugged (value : Value)
  | observed (observation : Observation)

namespace Event

-- The line of the log for an event, and whether it is for debugging only.
def logLine? : Event → Option (String × Bool)
  | dispatching name mode => some ("Dispatching " ++ name ++ " (" ++ mode.name ++ ")", true)
  | debugged value => some ("$debug: " ++ value.literal, false)
  | observed _ => none

-- The log of some events, with or without what is for debugging only.
def log (debugging : Bool) (events : List Event) : List String :=
  events.filterMap fun event => do
    let (line, forDebugging) ← event.logLine?
    if forDebugging && !debugging then none else some line

def observation? : Event → Option Observation
  | observed observation => some observation
  | _ => none

end Event

-- What a run takes from outside: random numbers and the time.
structure Surroundings where
  generator : StdGen
  moment : Moment

structure Report (α : Type) where
  result : Except Failure α
  events : List Event
  after : Surroundings

abbrev Run (α : Type) := Surroundings → Report α

namespace Run

variable {α β γ : Type}

def done (a : α) : Run α := fun world => ⟨.ok a, [], world⟩

def fail (failure : Failure) : Run α := fun world => ⟨.error failure, [], world⟩

def bind (run : Run α) (f : α → Run β) : Run β := fun world =>
  match run world with
  | ⟨.ok a, events, world⟩ =>
    let report := f a world
    { report with events := events ++ report.events }
  | ⟨.error failure, events, world⟩ => ⟨.error failure, events, world⟩

instance : Monad Run where
  pure := done
  bind := bind

@[simp] theorem bind_done (a : α) (f : α → Run β) : (done a).bind f = f a := rfl

@[simp] theorem bind_fail (failure : Failure) (f : α → Run β) :
    (fail failure : Run α).bind f = fail failure := rfl

theorem bind_pure (run : Run α) : run.bind done = run := by
  funext world
  simp only [bind]
  rcases run world with ⟨_ | _, events, after⟩ <;> simp [done]

theorem bind_assoc (run : Run α) (f : α → Run β) (g : β → Run γ) :
    (run.bind f).bind g = run.bind fun a => (f a).bind g := by
  funext world
  simp only [bind]
  rcases run world with ⟨_ | a, events, after⟩
  · rfl
  · dsimp only
    generalize f a after = report
    rcases report with ⟨_ | b, more, last⟩ <;> simp

def note (event : Event) : Run Unit := fun world => ⟨.ok (), [event], world⟩

-- The outcome of a run as a value, with all its events.
def attempt (run : Run α) : Run (Except Failure α) := fun world =>
  let report := run world
  ⟨.ok report.result, report.events, report.after⟩

-- The outcome of a run as a value, unless the levels of dispatches run out: nothing goes on then.
def outcome (run : Run α) : Run (Except Failure α) :=
  run.attempt.bind fun
    | .error .tooDeep => fail .tooDeep
    | outcome => done outcome

-- The run with every misfit reported as the problem.
def guard (problem : DomainProblem) (run : Run α) : Run α := fun world =>
  let report := run world
  { report with result := report.result.mapError (·.reportedAs problem) }

def ofExcept : Except Failure α → Run α
  | .ok a => done a
  | .error failure => fail failure

-- A random number below the bound.
def random (bound : Nat) : Run Nat := fun world =>
  let (n, generator) := randNat world.generator 0 (bound - 1)
  ⟨.ok n, [], { world with generator }⟩

def now : Run Moment := fun world => ⟨.ok world.moment, [], world⟩

end Run

-- A script run by an engine that resolves requests and knows the registered names.
def Script.run {α : Type} (resolve : Request → Run Value) (registered : String → Bool) :
    Script α → Run α
  | .done a => .done a
  | .fail failure => .fail failure
  | .resolve request next => (resolve request).bind fun value => (next value).run resolve registered
  | .guarded problem request next =>
    ((resolve request).guard problem).bind fun value => (next value).run resolve registered
  | .attempt request next =>
    (resolve request).outcome.bind fun outcome => (next outcome).run resolve registered
  | .recognize value next => (next (value.namesOne registered)).run resolve registered
  | .log value next => (Run.note (.debugged value)).bind fun _ => next.run resolve registered
  | .random bound next => (Run.random bound).bind fun n => (next n).run resolve registered
  | .now next => Run.now.bind fun moment => (next moment).run resolve registered

end JsonExpr
