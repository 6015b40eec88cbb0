import JsonExpr.Builtin.Requirements
import JsonExpr.Text.Quoted
import JsonExpr.Value.Equality

-- Operations on a list as a whole: its ends, its order, its parts, and its nesting.
namespace JsonExpr

namespace Builtin

-- An access to the resolved operand, or to the input if the operand is no list.
def accessor (name : String) (access : List Value → Value) : Operation :=
  both
    (fun operand input => do
      match ← .apply operand input, input with
      | .array items, _ => return access items
      | _, .array items => return access items
      | _, _ => .outsideDomain (.arrayNeeded name))
    (fun operand => do return access (← requireList name (← .evaluate operand)))

def first : Operation := accessor "$first" fun items => items.head?.getD .null

def last : Operation := accessor "$last" fun items => items.getLast?.getD .null

-- A change of the input list that needs no operand.
def reshaping (name : String) (change : List Value → List Value) : Operation :=
  both
    (fun _ input => do return .array (change (← requireList name input)))
    (fun operand => do return .array (change (← requireList name (← .evaluate operand))))

def reverse : Operation := reshaping "$reverse" List.reverse

-- The items of which no equal one comes before, in front of which the kept ones stand.
def keepFirsts (kept : List Value) : List Value → List Value
  | [] => kept
  | item :: rest =>
    keepFirsts (if Value.containsEqual kept item then kept else kept ++ [item]) rest

def unique : Operation := reshaping "$unique" (keepFirsts [])

-- An operation on the input list with one resolved parameter.
def parameterized (name shape : String) (run : List Value → Value → Script Value) : Operation :=
  both
    (fun operand input => do
      let items ← requireList name input
      run items (← .apply operand input))
    (fun operand => do
      let (array, parameter) ← requirePair name shape operand
      let items ← requireList name (← .evaluate array)
      run items (← .evaluate parameter))

-- The text of an item between separators; null has none.
def joinText (item : Value) : String := if item.isNull then "" else item.display

def joinItems (items : List Value) (separator : Value) : Script Value :=
  match separator with
  | .null => .done (.string (",".intercalate (items.map joinText)))
  | .string text => .done (.string (text.intercalate (items.map joinText)))
  | _ => .invalidOperand .separator

def join : Operation := parameterized "$join" "[array, separator]" joinItems

-- The whole part of a number, a negative one counting as zero.
def countOf (name : String) : Value → Script Nat
  | .number n => do return (← .ofExcept n.truncate).toNat
  | _ => .invalidOperand (.count name)

def take : Operation :=
  parameterized "$take" "[array, count]" fun items count => do
    return .array (items.take (← countOf "$take" count))

def skip : Operation :=
  parameterized "$skip" "[array, count]" fun items count => do
    return .array (items.drop (← countOf "$skip" count))

def listsOf? : Value → Option (List (List Value))
  | .array items => items.mapM fun
    | .array inner => some inner
    | _ => none
  | _ => none

def concat : Operation :=
  parameterized "$concat" "[array, arrays]" fun items arrays =>
    match listsOf? arrays with
    | some lists => .done (.array (items ++ lists.flatten))
    | none => .invalidOperand .arrays

-- Lists inside the list are opened, as many levels down as the depth says.
def flattenItems : Nat → List Value → List Value
  | 0, items => items
  | depth + 1, items => items.flatMap fun
    | .array inner => flattenItems depth inner
    | item => [item]

-- The depth that an operand asks for; one if it asks for none.
def flattenDepth (operand : Value) : Script Nat :=
  match operand with
  | .object fields =>
    match Fields.find? "depth" fields with
    | some (.number n) => do return (← .ofExcept n.truncate).toNat
    | _ => .done 1
  | _ => .done 1

def flatten : Operation :=
  both
    (fun operand input => do
      let items ← requireList "$flatten" input
      return .array (flattenItems (← flattenDepth operand) items))
    (fun operand => do
      let fields ← requireKeys "$flatten" ["array"] operand
      let items ← requireList "$flatten" (← .evaluate (field "array" fields))
      return .array (flattenItems (← flattenDepth operand) items))

-- The first value that is not null.
def firstPresent : Value → Script Value
  | .array items => .done ((items.find? fun item => !item.isNull).getD .null)
  | _ => .invalidOperand .coalesceKind

def coalesce : Operation :=
  both (fun operand input => do firstPresent (← .apply operand input))
    (fun operand => do firstPresent (← .evaluate operand))

end Builtin

end JsonExpr
