import JsonExpr.Builtin.Requirements

-- Operations that read values out of the input: by path, by property, by existence.
namespace JsonExpr

namespace Builtin

-- A path given as a text or as a list of texts.
def pathOf? : Value → Option Path
  | .string text => some (Path.parse text)
  | .array items => items.mapM fun
    | .string segment => some segment
    | _ => none
  | _ => none

def requirePath (value : Value) : Script Path :=
  match pathOf? value with
  | some path => .done path
  | none => .invalidOperand .pathKind

-- The found value, or the resolved default if it is null and a default is given.
def orDefault (found : Value) (fallback : Value) (resolve : Value → Script Value) : Script Value :=
  if found.isNull && !fallback.isNull then resolve fallback else .done found

def getWithInput (operand input : Value) : Script Value :=
  match operand, operand.expression? with
  | .object fields, none =>
    match Fields.find? "path" fields with
    | none => .invalidOperand .pathMissing
    | some pathValue => do
      let path ← requirePath (← .apply pathValue input)
      orDefault (input.read path) (field "default" fields) fun value => .apply value input
  | _, _ => do
    let path ← requirePath (← .apply operand input)
    return input.read path

def getAlone (operand : Value) : Script Value := do
  let fields ← requireKeys "$get" ["object", "path"] operand
  let object ← .evaluate (field "object" fields)
  let path ← requirePath (← .evaluate (field "path" fields))
  orDefault (object.read path) (field "default" fields) .evaluate

def get : Operation := both getWithInput getAlone

-- A field of an object, or an item of a list by its position.
def propertyOf (data property : Value) : Script Value :=
  match data, property with
  | .object fields, .string key => .done (field key fields)
  | .object _, .array _ | .object _, .object _ => .fault .unhashableKey
  | .array items, .number (.int (.ofNat position)) => .done ((items[position]?).getD .null)
  | _, _ => .done .null

def prop : Operation :=
  both
    (fun operand input => do propertyOf input (← .apply operand input))
    (fun operand => do
      let fields ← requireKeys "$prop" ["object", "property"] operand
      let object ← .evaluate (field "object" fields)
      propertyOf object (← .evaluate (field "property" fields)))

def identity : Operation := both (fun _ input => .done input) .evaluate

def isDefined : Operation :=
  both
    (fun operand input => do return .bool !(← .apply operand input).isNull)
    (fun operand => do return .bool !(← .evaluate operand).isNull)

-- The value at a path given as any value, with the name it is selected under.
def selectOne (input key : Value) : Script (Option (String × Value)) := do
  let segments ← .ofExcept key.segments?
  let value ← .ofExcept (input.readBy segments)
  if value.isNull then return none
  else match key with
    | .string name => return some (name, value)
    | _ => .fault .unhashableKey

def selectPaths (input : Value) : List Value → Object → Script Object
  | [], selected => .done selected
  | path :: rest, selected => do
    let key ← match path with
      | .string text => .done (.string text)
      | other => .apply other input
    match ← selectOne input key with
    | some (name, value) => selectPaths input rest (selected.insert name value)
    | none => selectPaths input rest selected

-- Paths that have a value, or an object of expressions resolved field by field.
def selectFrom (operand input : Value) : Script Value :=
  match operand, operand.expression? with
  | .array paths, _ => do return .object (← selectPaths input paths [])
  | .object fields, none => do
    let values ← Script.each (fun entry => do return (entry.1, ← .apply entry.2 input)) fields
    return .object values
  | _, _ => .invalidOperand .selection

def select : Operation :=
  both selectFrom fun operand => do
    let fields ← requireKeys "$select" ["object", "selection"] operand
    selectFrom (field "selection" fields) (← .evaluate (field "object" fields))

def requireTextPath : Value → Script String
  | .string text => .done text
  | _ => .invalidOperand .existsPath

def exists? : Operation :=
  both
    (fun operand input => do
      let path ← requireTextPath (← .apply operand input)
      return .bool (input.hasPath (Path.parse path)))
    (fun operand => do
      let fields ← requireKeys "$exists" ["object", "path"] operand
      let object ← .evaluate (field "object" fields)
      let path ← requireTextPath (← .evaluate (field "path" fields))
      return .bool (object.hasPath (Path.parse path)))

def isEmpty : Operation :=
  both
    (fun _ input => .done (.bool input.isNull))
    (fun operand => do return .bool (← .evaluate operand).isNull)

def isPresent : Operation :=
  both
    (fun _ input => .done (.bool !input.isNull))
    (fun operand => do return .bool !(← .evaluate operand).isNull)

end Builtin

end JsonExpr
