import JsonExpr.Script

-- Operations and the packs they come in.
namespace JsonExpr

-- An operation supports the modes it has a form for. It may not have a name of its own.
structure Operation where
  -- what it does with an operand and input data
  applied : Option (Value → Value → Script Value) := none
  -- what it does with a self-contained operand
  evaluated : Option (Value → Script Value) := none
  name : String := ""

namespace Operation

def supports (operation : Operation) : Mode → Bool
  | .apply => operation.applied.isSome
  | .evaluate => operation.evaluated.isSome

-- The script of a call in one of the modes; the input is of no account when evaluating.
def call (operation : Operation) (mode : Mode) (operand input : Value) : Script Value :=
  match mode with
  | .apply => match operation.applied with
    | some form => form operand input
    | none => .fail (.unsupportedMode operation.name .apply)
  | .evaluate => match operation.evaluated with
    | some form => form operand
    | none => .fail (.unsupportedMode operation.name .evaluate)

end Operation

-- What a pack may hold under a name.
inductive Entry where
  | operation (operation : Operation)
  -- a function of operand and input
  | function (applied : Value → Value → Script Value)
  -- the forms of an operation
  | forms (applied : Option (Value → Value → Script Value))
    (evaluated : Option (Value → Script Value))
  -- any other data
  | data (value : Value)

abbrev Pack := Fields Entry

-- What is registered under a name. Calling what is no operation is a fault.
inductive Definition where
  | operation (operation : Operation)
  | inert (value : Value)

namespace Entry

-- A form given as data cannot be called; null is no form.
def formOfData? {α : Type} : Option Value → Option (α → Script Value)
  | none => none
  | some .null => none
  | some _ => some fun _ => .fault .notCallable

-- An entry made ready for a name. Data with a field for a mode passes for the forms of an
-- operation.
def register (name : String) : Entry → Definition
  | operation o => .operation { o with name }
  | function applied => .operation { applied := some applied, name }
  | forms applied evaluated => .operation { applied, evaluated, name }
  | data (.object fields) =>
    if Fields.contains "apply" fields || Fields.contains "evaluate" fields then
      .operation
        { applied :=
            (formOfData? (Fields.find? "apply" fields)).map fun form operand _ => form operand
          evaluated := formOfData? (Fields.find? "evaluate" fields)
          name }
    else .inert (.object fields)
  | data value => .inert value

end Entry

-- The operation that returns its operand as it is.
def literalOperation : Operation where
  applied := some fun operand _ => .done operand
  evaluated := some fun operand => .done operand
  name := literalName

abbrev Definitions := Fields Definition

namespace Definitions

-- The packs in force, from the weakest to the strongest.
def layers (base : Pack) (packs : List Pack) (custom : Option Pack) (includeBase : Bool) :
    List Pack :=
  (if includeBase then [base] else []) ++ packs ++ custom.toList

-- One entry on top of the definitions so far.
def define (definitions : Definitions) (entry : String × Entry) : Definitions :=
  Fields.insert entry.1 (entry.2.register entry.1) definitions

-- All packs put together, without the excluded names, and with the literal escape in any case.
def build (base : Pack) (packs : List Pack) (custom : Option Pack) (includeBase : Bool)
    (exclude : List String) : Definitions :=
  let folded := (layers base packs custom includeBase).foldl
    (fun definitions pack => pack.foldl define definitions) []
  let kept := exclude.foldl (fun definitions name => Fields.erase name definitions) folded
  Fields.insert literalName (.operation literalOperation) kept

-- The names of a pack that the definitions before it have already, with the pack's position.
def overridden (definitions : Definitions) (index : Nat) : Pack → List (Nat × String) × Definitions
  | [] => ([], definitions)
  | entry :: rest =>
    let found := if Fields.contains entry.1 definitions then [(index, entry.1)] else []
    let (later, definitions) := overridden (define definitions entry) index rest
    (found ++ later, definitions)

-- Every override while the packs are put together.
def overrides (definitions : Definitions) (index : Nat) : List Pack → List (Nat × String)
  | [] => []
  | pack :: rest =>
    let (found, definitions) := overridden definitions index pack
    found ++ overrides definitions (index + 1) rest

-- What putting packs together logs, all of it for debugging only.
def log (base : Pack) (packs : List Pack) (custom : Option Pack) (includeBase : Bool)
    (exclude : List String) : List String :=
  let found := overrides [] 0 (layers base packs custom includeBase)
  let definitions := build base packs custom includeBase exclude
  (found.map fun (index, name) =>
    "Pack " ++ toString index ++ " overrides definition of " ++ name) ++
    ["Built definition map with " ++ toString definitions.length ++ " operations"]

end Definitions

end JsonExpr
