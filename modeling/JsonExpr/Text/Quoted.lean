import JsonExpr.Text.Json
import JsonExpr.Text.Printable

-- The literal notation of data, in which debugged values and rejected patterns are shown.
namespace JsonExpr

namespace Quoted

-- Single quotes, unless they would have to be escaped and double quotes would not.
def quoteFor (text : List Char) : Char :=
  if text.contains '\'' && !text.contains '"' then '"' else '\''

def hexEscape (code : Nat) : String :=
  if code < 0x100 then "\\x" ++ JsonLayout.hexDigits 2 code
  else if code < 0x10000 then "\\u" ++ JsonLayout.hexDigits 4 code
  else "\\U" ++ JsonLayout.hexDigits 8 code

def escape (quote c : Char) : String :=
  if c = quote ∨ c = '\\' then "\\" ++ c.toString
  else if c = '\n' then "\\n"
  else if c = '\r' then "\\r"
  else if c = '\t' then "\\t"
  else if isPrintable c then c.toString
  else hexEscape c.toNat

end Quoted

def quote (text : String) : String :=
  let chars := text.toList
  let mark := Quoted.quoteFor chars
  mark.toString ++ String.join (chars.map (Quoted.escape mark)) ++ mark.toString

namespace Value

mutual

def literal : Value → String
  | null => "None"
  | bool true => "True"
  | bool false => "False"
  | number n => n.text .plain
  | string s => quote s
  | array items => "[" ++ ", ".intercalate (literalItems items) ++ "]"
  | object fields => "\x7b" ++ ", ".intercalate (literalFields fields) ++ "\x7d"

def literalItems : List Value → List String
  | [] => []
  | item :: rest => item.literal :: literalItems rest

def literalFields : List (String × Value) → List String
  | [] => []
  | (name, value) :: rest => (quote name ++ ": " ++ value.literal) :: literalFields rest

end

-- The text of a value where a text is wanted: a text stands for itself.
def display : Value → String
  | string s => s
  | value => value.literal

end Value

end JsonExpr
