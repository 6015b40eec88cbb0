import JsonExpr.Number.Arithmetic
import JsonExpr.Value.Basic

-- What may be wrong with a section, and how the value of a field is read as true or false. The
-- reading is no check of this program: a library for schemas settles it, and the checks of a section
-- take any reading as given.
namespace JsonExpr

inductive SectionProblem where
  | notTable
  | notList
  | notText
  -- a value that does not stand for true or false, and one of a kind that never does
  | unclearBoolean
  | notBoolean
  | unknownPack (reference : String)
  | unknownField
deriving Repr, DecidableEq

namespace Settings

abbrev BooleanReader := Value → Except SectionProblem Bool

def lowerAsciiText (text : String) : String := text.map Char.toLower

def falseWords : List String := ["0", "f", "n", "no", "off", "false"]

def trueWords : List String := ["1", "t", "y", "yes", "on", "true"]

def booleanOfWord (word : String) : Except SectionProblem Bool :=
  let word := lowerAsciiText word
  if falseWords.contains word then .ok false
  else if trueWords.contains word then .ok true
  else .error .unclearBoolean

-- Zero and one stand for false and true. Whole numbers that do not fit a word of 64 bits are not
-- even tried.
def booleanOfInt (n : Int) : Except SectionProblem Bool :=
  if n = 0 then .ok false
  else if n = 1 then .ok true
  else if -Int.pow 2 63 ≤ n ∧ n < Int.pow 2 63 then .error .unclearBoolean
  else .error .notBoolean

def booleanOfNumber : Number → Except SectionProblem Bool
  | .int n => booleanOfInt n
  | .float x =>
    if !(Number.float x).isWhole then .error .notBoolean
    else
      match (Number.float x).truncate with
      | .ok n => if n = -Int.pow 2 63 then .error .notBoolean else booleanOfInt n
      | .error _ => .error .notBoolean

-- The lenient reading, which takes some words and numbers for true and false.
def boolean : BooleanReader
  | .bool b => .ok b
  | .string word => booleanOfWord word
  | .number n => booleanOfNumber n
  | _ => .error .notBoolean

end Settings

end JsonExpr
