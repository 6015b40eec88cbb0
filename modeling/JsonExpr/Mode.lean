-- The two ways to resolve an expression.
namespace JsonExpr

inductive Mode where
  -- against input data
  | apply
  -- self-contained: every value lies in the expression
  | evaluate
deriving Repr, DecidableEq

def Mode.name : Mode → String
  | apply => "apply"
  | evaluate => "evaluate"

end JsonExpr
