import JsonExpr.EditDistance
import JsonExpr.Expression
import JsonExpr.Text.Case
import JsonExpr.Text.Json

-- The report on a value in the shape of an expression that names no registered operation: the
-- closest registered name, or what is available, and how to write the value as data.
namespace JsonExpr

-- How many edits a suggested name may be away: two for five characters, but never over twenty.
def suggestionLimit (name : String) : Nat := min (2 * name.length / 5) 20

-- The closer of the best candidate so far and the next one; the earlier one if they are as close.
def closer (needle : List Char) (limit : Nat) (best : Option String × Int) (candidate : String) :
    Option String × Int :=
  let distance := editDistance needle (lowerChars candidate.toList) (some limit)
  if distance < best.2 then (some candidate, distance) else best

-- The first of the closest candidates within the limit, without regard to case.
def suggestName (name : String) (candidates : List String) : Option String :=
  let limit := suggestionLimit name
  let needle := lowerChars name.toList
  (candidates.foldl (closer needle limit) (none, (limit : Int) + 1)).1

-- How many names are listed when none is suggested.
def listedNames : Nat := 8

structure UnknownOperation where
  name : String
  operand : Value
  available : List String

namespace UnknownOperation

def suggestion (unknown : UnknownOperation) : Option String :=
  suggestName unknown.name unknown.available

def help (unknown : UnknownOperation) : String :=
  match unknown.suggestion with
  | some name => "Did you mean \"" ++ name ++ "\"?"
  | none =>
    let listed := ", ".intercalate (unknown.available.take listedNames)
    let more := if listedNames < unknown.available.length then ", ..." else ""
    "Available operators: " ++ listed ++ more ++ "."

-- The value as data.
def asLiteral (unknown : UnknownOperation) : Value :=
  .object [(literalName, .object [(unknown.name, unknown.operand)])]

def message (unknown : UnknownOperation) : String :=
  "Unknown expression operator: \"" ++ unknown.name ++ "\". " ++ unknown.help ++ " Use " ++
    unknown.asLiteral.describe ++ " if you meant this as a literal value."

end UnknownOperation

end JsonExpr
