import JsonExpr.Text.Blank
import JsonExpr.Text.Digit

-- Reading a whole number from a text: an optional sign and digits of any script, with single
-- underscores between digits and white space around the number.
namespace JsonExpr

namespace Integer

-- The white space around a number; the information separators do not belong to it.
def isSpace (c : Char) : Bool := isBlank c && !('\x1c' ≤ c && c ≤ '\x1f')

def trim (text : List Char) : List Char :=
  ((text.dropWhile isSpace).reverse.dropWhile isSpace).reverse

-- Digits after the first ones; an underscore has to be followed by a digit.
def digits? : Nat → List Char → Option Nat
  | value, [] => some value
  | value, '_' :: c :: rest =>
    match decimalDigit? c with
    | some d => digits? (10 * value + d) rest
    | none => none
  | value, c :: rest =>
    match decimalDigit? c with
    | some d => digits? (10 * value + d) rest
    | none => none

def unsigned? : List Char → Option Nat
  | [] => none
  | c :: rest =>
    match decimalDigit? c with
    | some d => digits? d rest
    | none => none

end Integer

def integer? (text : List Char) : Option Int :=
  match Integer.trim text with
  | '-' :: rest => (Integer.unsigned? rest).map fun n => -(n : Int)
  | '+' :: rest => (Integer.unsigned? rest).map Int.ofNat
  | rest => (Integer.unsigned? rest).map Int.ofNat

end JsonExpr
