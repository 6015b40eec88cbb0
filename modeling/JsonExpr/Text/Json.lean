import JsonExpr.Value.Basic

-- Writing data as JSON text on one line.
namespace JsonExpr

-- The choices that JSON leaves to a writer.
structure JsonLayout where
  -- whether every character outside printable ASCII is escaped
  asciiOnly : Bool
  itemSeparator : String
  keySeparator : String
  floats : FloatLayout

namespace JsonLayout

-- Messages stay within ASCII.
def message : JsonLayout where
  asciiOnly := true
  itemSeparator := ", "
  keySeparator := ": "
  floats := .json

-- Results keep their characters.
def result : JsonLayout := { message with asciiOnly := false }

def hexDigits (width n : Nat) : String := FloatLayout.pad width (String.ofList (Nat.toDigits 16 n))

-- The escape of a code point: one group of four digits, or a surrogate pair beyond the first plane.
def escapeCode (code : Nat) : String :=
  if code < 0x10000 then "\\u" ++ hexDigits 4 code
  else
    let offset := code - 0x10000
    "\\u" ++ hexDigits 4 (0xd800 + offset / 0x400) ++ "\\u" ++ hexDigits 4 (0xdc00 + offset % 0x400)

def escapeChar (layout : JsonLayout) (c : Char) : String :=
  match c with
  | '"' => "\\\""
  | '\\' => "\\\\"
  | '\n' => "\\n"
  | '\r' => "\\r"
  | '\t' => "\\t"
  | '\x0c' => "\\f"
  | '\x08' => "\\b"
  | _ =>
    if c.toNat < 0x20 ∨ (layout.asciiOnly ∧ 0x7e < c.toNat) then escapeCode c.toNat
    else c.toString

def writeString (layout : JsonLayout) (s : String) : String :=
  "\"" ++ String.join (s.toList.map layout.escapeChar) ++ "\""

mutual

def write (layout : JsonLayout) : Value → String
  | .null => "null"
  | .bool true => "true"
  | .bool false => "false"
  | .number n => n.text layout.floats
  | .string s => layout.writeString s
  | .array items => "[" ++ layout.itemSeparator.intercalate (writeItems layout items) ++ "]"
  | .object fields =>
    "\x7b" ++ layout.itemSeparator.intercalate (writeFields layout fields) ++ "\x7d"

def writeItems (layout : JsonLayout) : List Value → List String
  | [] => []
  | item :: rest => layout.write item :: writeItems layout rest

def writeFields (layout : JsonLayout) : List (String × Value) → List String
  | [] => []
  | (name, value) :: rest =>
    (layout.writeString name ++ layout.keySeparator ++ layout.write value) ::
      writeFields layout rest

end

end JsonLayout

-- The text of a value in a message.
def Value.describe (value : Value) : String := JsonLayout.message.write value

end JsonExpr
