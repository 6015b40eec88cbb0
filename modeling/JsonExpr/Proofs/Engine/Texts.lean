import JsonExpr.Proofs.Engine.Calls

-- Operations on a text with parameters, in calls of an engine and from the outside.
namespace JsonExpr

namespace Engine

open Builtin

variable {engine : Engine}

-- An operation on a text with parameters comes to this outcome in both modes: if the text is the
-- input and the operand resolves to the parameters, or to the only one; and if the operand resolves
-- to a list of the text and the parameters.
structure ComputesOnText (engine : Engine) (name text : String) (parameters : List Value)
    (outcome : Except Failure Value) : Prop where
  applied : ∀ found, parametersOf found = parameters →
    engine.ComputesFrom (.against (.string text)) name found outcome
  evaluated : engine.ComputesFrom .alone name (.array (.string text :: parameters)) outcome

theorem Has.computesOnText {names : List String} (hhas : engine.Has names) {name : String}
    (hname : name ∈ names) {run : String → List Value → Script Value}
    (hfind : operations.find? name = some (withParameters name run)) {text : String}
    {parameters : List Value} {outcome : Except Failure Value}
    (hrun : ∀ resolve registered,
      (run text parameters).run resolve registered = Run.ofExcept outcome) :
    engine.ComputesOnText name text parameters outcome where
  applied found hfound := by
    have hcall (operand : Value) :
        (withParameters name run).call .apply operand (.string text) =
          .apply operand (.string text) >>= fun found => run text (parametersOf found) := rfl
    refine hhas.computesFrom hname hfind hcall fun resolve registered => ?_
    rw [hfound, hrun]
  evaluated := hhas.computesFrom hname hfind (fun _ => rfl) hrun

end Engine

end JsonExpr
