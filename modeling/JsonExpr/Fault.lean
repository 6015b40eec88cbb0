-- Breaches of an operation's contract that it does not foresee. They end a call like any failure,
-- but they carry no text and no recovery layer handles them.
namespace JsonExpr

inductive Fault where
  -- a number lies outside the range of floats, or an infinity has no whole part
  | tooLarge
  -- the value that is no number has no whole part
  | notANumber
  -- an exact sum meets both infinities
  | opposedInfinities
  -- a regular expression asks for the classes of ASCII and for those of Unicode
  | contradictoryFlags
  -- a text operation got too few or too many parameters
  | wrongArity
  -- a definition that is no function was called
  | notCallable
  -- a list or an object stands where an object key is needed
  | unhashableKey
  -- a path is neither a text nor a list
  | notAPath
  -- a call names an operation that is not registered
  | unregistered
  -- a registered entry is no operation
  | notAnOperation
  -- the tools of a settings document are no table
  | notATable
  -- a reference to a pack has an empty module path, or one that begins with a point
  | emptyModule
  | relativeModule
deriving Repr, DecidableEq

-- Whether a breach is a misfit: a value of the wrong kind, or too few or too many of them.
def Fault.isMisfit : Fault → Bool
  | wrongArity | notCallable | unhashableKey | notAPath | relativeModule => true
  | _ => false

end JsonExpr
