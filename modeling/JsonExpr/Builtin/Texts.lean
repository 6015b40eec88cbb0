import JsonExpr.Builtin.Requirements
import JsonExpr.Text.Blank
import JsonExpr.Text.Case
import JsonExpr.Text.Parts

-- Operations on texts: changes of case, trimming, and parts.
namespace JsonExpr

namespace Builtin

-- A change of the input text, or of the resolved operand when evaluating.
def textChange (name : String) (change : String → String) : Operation :=
  both
    (fun _ input => do return .string (change (← requireString name input)))
    (fun operand => do return .string (change (← requireString name (← .evaluate operand))))

def lowercase : Operation := textChange "$lowercase" JsonExpr.lowercase

def uppercase : Operation := textChange "$uppercase" JsonExpr.uppercase

def trim : Operation :=
  textChange "$trim" fun text => String.ofList (trimBlanks text.toList)

-- The parameters that a resolved operand stands for.
def parametersOf : Value → List Value
  | .array items => items
  | value => [value]

-- An operation on the input text with parameters. When evaluating, the text comes first among them.
def withParameters (name : String) (run : String → List Value → Script Value) : Operation :=
  both
    (fun operand input => do
      let parameters := parametersOf (← .apply operand input)
      run (← requireString name input) parameters)
    (fun operand => do
      match ← .evaluate operand with
      | .array (text :: parameters) => do run (← requireString name text) parameters
      | _ => .invalidOperand (.textForm name))

def splitBy (text : String) : List Value → Script Value
  | [.string delimiter] =>
    .done (.array ((splitText delimiter.toList text.toList).map fun piece =>
      .string (String.ofList piece)))
  | [_] => .invalidOperand .delimiter
  | _ => .fault .wrongArity

def split : Operation := withParameters "$split" splitBy

-- The text from a start on; a length, if there is one, sets the end.
def substringOf (text : String) (start length : Value) : Script Value :=
  match start, length with
  | .number start, .null => do
    let start ← .ofExcept start.truncate
    return .string (String.ofList (slice text.toList start none))
  | .number start, .number length => do
    let start ← .ofExcept start.truncate
    let length ← .ofExcept length.truncate
    return .string (String.ofList (slice text.toList start (some (start + length))))
  | _, _ => .outsideDomain .substring

def substring : Operation :=
  withParameters "$substring" fun text parameters =>
    match parameters with
    | [start] => substringOf text start .null
    | [start, length] => substringOf text start length
    | _ => .fault .wrongArity

end Builtin

end JsonExpr
