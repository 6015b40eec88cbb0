import JsonExpr.Proofs.Engine.BuiltIn
import JsonExpr.Proofs.Engine.Levels

-- What a call of an operation comes to once it is known what the requests come to that it makes.
namespace JsonExpr

-- How expressions are asked for: against an input, or on their own.
inductive Asking where
  | against (input : Value)
  | alone

namespace Asking

def mode : Asking → Mode
  | against _ => .apply
  | alone => .evaluate

def input : Asking → Value
  | against input => input
  | alone => .null

def request : Asking → Value → Request
  | against input, value => .apply value input
  | alone, value => .evaluate value

-- A script that asks for a value.
def ask : Asking → Value → Script Value
  | against input, value => .apply value input
  | alone, value => .evaluate value

theorem run_ask (asking : Asking) (value : Value) (resolve : Request → Run Value)
    (registered : String → Bool) :
    (asking.ask value).run resolve registered = resolve (asking.request value) := by
  cases asking with
  | against input => exact Script.run_apply resolve registered value input
  | alone => exact Script.run_evaluate resolve registered value

theorem expression_request (asking : Asking) (value : Value) :
    (asking.request value).expression = value := by cases asking <;> rfl

theorem callFor_request (asking : Asking) (value : Value) (name : String) (operand : Value) :
    Engine.callFor (asking.request value) name operand =
      ⟨name, asking.mode, operand, asking.input⟩ := by cases asking <;> rfl

end Asking

-- Requests made in turn, each in the surroundings that the one before it has left, and what they
-- come to.
inductive Obtains (resolve : Request → Run Value) :
    List (Request × Value) → Surroundings → Prop where
  | nil (world : Surroundings) : Obtains resolve [] world
  | cons {request : Request} {value : Value} {rest : List (Request × Value)}
    {world after : Surroundings} {events : List Event}
    (h : resolve request world = ⟨.ok value, events, after⟩) (hrest : Obtains resolve rest after) :
    Obtains resolve ((request, value) :: rest) world

namespace Obtains

variable {resolve resolve' : Request → Run Value} {request : Request} {value : Value}
  {found : List (Request × Value)} {world : Surroundings}

theorem singleton (h : (resolve request world).result = .ok value) :
    Obtains resolve [(request, value)] world := by
  rcases hreport : resolve request world with ⟨result, events, after⟩
  rw [hreport] at h
  subst h
  exact .cons hreport (.nil after)

-- The first request is answered, and the others are still to be made.
theorem result_bind {β : Type} {f : Value → Run β} {outcome : Except Failure β}
    (h : Obtains resolve ((request, value) :: found) world)
    (hf : ∀ after, Obtains resolve found after → (f value after).result = outcome) :
    ((resolve request).bind f world).result = outcome := by
  cases h with
  | cons h hrest =>
    rw [Run.bind_of_ok h]
    exact hf _ hrest

theorem congr (h : Obtains resolve found world)
    (hsame : ∀ entry ∈ found, ∀ world, (resolve entry.1 world).result = .ok entry.2 →
      resolve' entry.1 world = resolve entry.1 world) : Obtains resolve' found world := by
  induction h with
  | nil world => exact .nil world
  | cons h _ ih =>
    obtain ⟨hfirst, hrest⟩ := List.forall_mem_cons.mp hsame
    exact .cons ((hfirst _ (congrArg Report.result h)).trans h) (ih hrest)

end Obtains

namespace Engine

variable {engine : Engine} {asking : Asking} {name : String} {operand value : Value}
  {found : List (Request × Value)} {outcome : Except Failure Value}

-- An operation comes to an outcome once the requests that it makes come to these values: in a call
-- of the engine, whatever layers the requests go through, and from the outside if there are none.
structure Computes (engine : Engine) (asking : Asking) (name : String) (operand : Value)
    (found : List (Request × Value)) (outcome : Except Failure Value) : Prop where
  invoked : ∀ resolve world, Obtains resolve found world →
    (engine.invoke resolve ⟨name, asking.mode, operand, asking.input⟩ world).result = outcome
  resolved : engine.middleware = [] → ∀ world, Obtains engine.resolve found world →
    (engine.resolve (asking.request (.object [(name, operand)])) world).result = outcome

-- The same for an operation that asks for nothing but its operand, in the way it is asked for.
def ComputesFrom (engine : Engine) (asking : Asking) (name : String) (value : Value)
    (outcome : Except Failure Value) : Prop :=
  ∀ operand, engine.Computes asking name operand [(asking.request operand, value)] outcome

section Calls

variable {names : List String} (hhas : engine.Has names) (hname : name ∈ names)
  {operation : Operation} (hfind : Builtin.operations.find? name = some operation)

include hhas hname hfind

-- Requests for parts of the operand come to the same inside of a call as from the outside, so that
-- nothing but the run of the operation matters.
theorem Has.computes (hparts : ∀ entry ∈ found, operand.Part entry.1.expression)
    (hrun : ∀ resolve world, Obtains resolve found world →
      ((operation.call asking.mode operand asking.input).run resolve engine.registers
        world).result = outcome) :
    engine.Computes asking name operand found outcome where
  invoked resolve world hfound := by
    rw [hhas.invoke_eq hname hfind, Run.result_note_bind]
    exact hrun resolve world hfound
  resolved hplain world hfound := by
    rw [hhas.resolve_operand hplain hname hfind _ (asking.expression_request _),
      Run.result_note_bind, asking.callFor_request]
    refine hrun _ world (hfound.congr fun entry hmem world hentry => ?_)
    exact resolveWith_eq_resolve hplain hentry
      (Nat.add_le_add_right (hparts entry hmem).depth_le allowance)

-- So it is for an operation that asks for its operand and goes on with what it comes to.
theorem Has.computesFrom {run : Value → Script Value}
    (hcall : ∀ operand,
      operation.call asking.mode operand asking.input = asking.ask operand >>= run)
    (hrun : ∀ resolve registered,
      (run value).run resolve registered = Run.ofExcept outcome) :
    engine.ComputesFrom asking name value outcome := by
  refine fun operand => hhas.computes hname hfind ?_ fun resolve world hfound => ?_
  · intro entry hmem
    rw [List.mem_singleton.mp hmem, asking.expression_request]
    exact .refl operand
  · rw [hcall, Script.run_bind, asking.run_ask]
    exact hfound.result_bind fun after _ => by rw [hrun, Run.result_ofExcept]

end Calls

end Engine

end JsonExpr
