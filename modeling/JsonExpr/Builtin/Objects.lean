import JsonExpr.Builtin.Requirements
import JsonExpr.Text.Quoted
import JsonExpr.Value.Equality

-- Views of objects, and objects made from parts of others.
namespace JsonExpr

namespace Builtin

-- A view of the input object, or of the resolved operand when evaluating.
def view (name : String) (look : Object → List Value) : Operation :=
  both
    (fun _ input => do return .array (look (← requireObject name input)))
    (fun operand => do return .array (look (← requireObject name (← .evaluate operand))))

def keys : Operation := view "$keys" fun fields => (Fields.keys fields).map .string

def values : Operation := view "$values" Fields.values

def pairs : Operation :=
  view "$pairs" fun fields => fields.map fun entry => .array [.string entry.1, entry.2]

-- The entry of a pair; a key that is no text is written out.
def entryOf? : Value → Option (String × Value)
  | .array [key, value] => some (key.display, value)
  | _ => none

def objectOfPairs : Value → Script Value
  | .array items =>
    match items.mapM entryOf? with
    | some entries => .done (.object (Fields.ofPairs entries))
    | none => .outsideDomain .pairs
  | _ => .outsideDomain .pairs

def fromPairs : Operation :=
  both (fun _ input => objectOfPairs input) (fun operand => do objectOfPairs (← .evaluate operand))

-- All fields of the objects: a later value replaces an earlier one in its place.
def mergeAll : Object → List Value → Script Object
  | merged, [] => .done merged
  | merged, value :: rest => do
    let fields ← requireObject "$merge" value
    mergeAll (Fields.merge merged fields) rest

def mergeObjects (objects : List Value) : Script Value := do
  return .object (← mergeAll [] objects)

def merge : Operation :=
  both
    (fun operand input => do
      let resolved ← .apply operand input
      mergeObjects (input :: resolved.wildcardItems))
    (fun operand => do
      match ← .evaluate operand with
      | .array objects => mergeObjects objects
      | _ => .invalidOperand .mergeForm)

-- Whether a key is among the listed names.
def isListed (names : List Value) (key : String) : Bool := Value.containsEqual names (.string key)

-- The fields whose keys are listed, or those whose keys are not.
def selectKeys (name : String) (keep : Bool) (object names : Value) : Script Value := do
  let fields ← requireObject name object
  match names with
  | .array names =>
    return .object (fields.filter fun entry => isListed names entry.1 == keep)
  | _ => .invalidOperand (.keyList name)

def keySelection (name : String) (keep : Bool) : Operation :=
  both
    (fun operand input => do selectKeys name keep input (← .apply operand input))
    (fun operand => do
      let fields ← requireKeys name ["object", "properties"] operand
      let object ← .evaluate (field "object" fields)
      selectKeys name keep object (← .evaluate (field "properties" fields)))

def pickKeys : Operation := keySelection "$pick" true

def omitKeys : Operation := keySelection "$omit" false

end Builtin

end JsonExpr
