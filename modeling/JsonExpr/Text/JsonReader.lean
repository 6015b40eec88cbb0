import JsonExpr.Number.Decimal
import JsonExpr.Value.Basic

-- Reading data from JSON text. Besides JSON proper the names of the three values outside it are
-- read, a repeated key keeps its last value, and an error tells what was expected where.
namespace JsonExpr

-- What is wrong with a text.
inductive JsonProblem where
  | value
  | propertyName
  | colon
  | comma
  | extraData
  | unterminatedString
  | controlCharacter
  | escape
  | unicodeEscape
  | byteOrderMark
deriving Repr, DecidableEq

def JsonProblem.text : JsonProblem → String
  | value => "Expecting value"
  | propertyName => "Expecting property name enclosed in double quotes"
  | colon => "Expecting ':' delimiter"
  | comma => "Expecting ',' delimiter"
  | extraData => "Extra data"
  | unterminatedString => "Unterminated string starting at"
  | controlCharacter => "Invalid control character at"
  | escape => "Invalid \\escape"
  | unicodeEscape => "Invalid \\uXXXX escape"
  | byteOrderMark => "Unexpected UTF-8 BOM (decode using utf-8-sig)"

-- A problem and the number of characters before it.
structure JsonError where
  problem : JsonProblem
  position : Nat
deriving Repr, DecidableEq

-- The message with line and column, both counted from one.
def JsonError.message (error : JsonError) (source : List Char) : String :=
  let before := source.take error.position
  let line := before.count '\n' + 1
  let column := (before.reverse.takeWhile (· != '\n')).length + 1
  s!"{error.problem.text}: line {line} column {column} (char {error.position})"

namespace JsonReader

-- The characters still to be read and how many came before them.
structure Cursor where
  rest : List Char
  position : Nat

def fail {α : Type} (problem : JsonProblem) (position : Nat) : Except JsonError α :=
  .error ⟨problem, position⟩

namespace Cursor

def advance (cursor : Cursor) (count : Nat) : Cursor :=
  ⟨cursor.rest.drop count, cursor.position + count⟩

def isBlank (c : Char) : Bool := c == ' ' || c == '\t' || c == '\n' || c == '\r'

def skipBlanks (cursor : Cursor) : Cursor :=
  cursor.advance (cursor.rest.takeWhile isBlank).length

end Cursor

def hexValue? (c : Char) : Option Nat :=
  if '0' ≤ c ∧ c ≤ '9' then some (c.toNat - '0'.toNat)
  else if 'a' ≤ c ∧ c ≤ 'f' then some (c.toNat - 'a'.toNat + 10)
  else if 'A' ≤ c ∧ c ≤ 'F' then some (c.toNat - 'A'.toNat + 10)
  else none

def hexNumber? (digits : List Char) : Option Nat :=
  digits.foldlM (fun n c => (hexValue? c).map (16 * n + ·)) 0

def simpleEscape? : Char → Option Char
  | '"' => some '"'
  | '\\' => some '\\'
  | '/' => some '/'
  | 'b' => some '\x08'
  | 'f' => some '\x0c'
  | 'n' => some '\n'
  | 'r' => some '\r'
  | 't' => some '\t'
  | _ => none

def isHighSurrogate (code : Nat) : Bool := 0xd800 ≤ code && code < 0xdc00

def isLowSurrogate (code : Nat) : Bool := 0xdc00 ≤ code && code < 0xe000

-- The code point after \u and how many characters it takes. The digits never reach up to the end of
-- the text, where a quote would still be missing. A high surrogate joins with a low one after it.
def codePoint (rest : List Char) (position : Nat) : Except JsonError (Nat × Nat) :=
  if rest.length ≤ 4 then fail .unicodeEscape (position - 1)
  else
    match hexNumber? (rest.take 4) with
    | none => fail .unicodeEscape (position - 1)
    | some high =>
      if isHighSurrogate high ∧ 10 < rest.length ∧ (rest.drop 4).take 2 = ['\\', 'u'] then
        match hexNumber? ((rest.drop 6).take 4) with
        | none => fail .unicodeEscape (position + 5)
        | some low =>
          if isLowSurrogate low then
            .ok (0x10000 + (high - 0xd800) * 0x400 + (low - 0xdc00), 10)
          else .ok (high, 4)
      else .ok (high, 4)

-- The characters up to the closing quote, the opening one being read already.
def readString (start : Nat) : Nat → Cursor → List Char → Except JsonError (String × Cursor)
  | 0, _, _ => fail .unterminatedString start
  | fuel + 1, cursor, read =>
    match cursor.rest with
    | [] => fail .unterminatedString start
    | '"' :: _ => .ok (String.ofList read.reverse, cursor.advance 1)
    | '\\' :: [] => fail .unterminatedString start
    | '\\' :: 'u' :: rest => do
      let (code, count) ← codePoint rest (cursor.position + 2)
      readString start fuel (cursor.advance (2 + count)) (Char.ofNat code :: read)
    | '\\' :: c :: _ =>
      match simpleEscape? c with
      | some escaped => readString start fuel (cursor.advance 2) (escaped :: read)
      | none => fail .escape cursor.position
    | c :: _ =>
      if c.toNat < 0x20 then fail .controlCharacter cursor.position
      else readString start fuel (cursor.advance 1) (c :: read)

def isDigit (c : Char) : Bool := '0' ≤ c && c ≤ '9'

def decimalNumber (digits : List Char) : Nat :=
  digits.foldl (fun n c => 10 * n + (c.toNat - '0'.toNat)) 0

-- The digits before a point: a single zero, or digits that do not start with one.
def wholeDigits : List Char → List Char
  | '0' :: _ => ['0']
  | rest => rest.takeWhile isDigit

-- The digits after a point, which must be there.
def fractionDigits? : List Char → Option (List Char)
  | '.' :: rest =>
    let digits := rest.takeWhile isDigit
    if digits.isEmpty then none else some digits
  | _ => none

-- The value of an exponent and how many characters it takes, mark and sign included.
def exponent? : List Char → Option (Int × Nat)
  | mark :: rest =>
    if mark == 'e' || mark == 'E' then
      let (negative, signs) := match rest with
        | '-' :: _ => (true, 1)
        | '+' :: _ => (false, 1)
        | _ => (false, 0)
      let digits := (rest.drop signs).takeWhile isDigit
      if digits.isEmpty then none
      else
        let size : Int := decimalNumber digits
        some (if negative then -size else size, 1 + signs + digits.length)
    else none
  | [] => none

-- A number without a point and without an exponent is whole.
def readNumber (cursor : Cursor) : Except JsonError (Value × Cursor) :=
  let negative := cursor.rest.head? == some '-'
  let signs := if negative then 1 else 0
  let rest := cursor.rest.drop signs
  let whole := wholeDigits rest
  if whole.isEmpty then fail .value cursor.position
  else
    let afterWhole := rest.drop whole.length
    let fraction := fractionDigits? afterWhole
    let fractionLength := match fraction with
      | some digits => digits.length + 1
      | none => 0
    let afterFraction := afterWhole.drop fractionLength
    let (exponent, exponentLength) := (exponent? afterFraction).getD (0, 0)
    let next := cursor.advance (signs + whole.length + fractionLength + exponentLength)
    if fraction.isNone ∧ exponentLength = 0 then
      let size : Int := decimalNumber whole
      .ok (.int (if negative then -size else size), next)
    else
      let decimals := fraction.getD []
      let x := floatOfDecimal negative (decimalNumber (whole ++ decimals))
        (exponent - decimals.length)
      .ok (.float x, next)

def names : List (String × Value) :=
  [("null", .null), ("true", .bool true), ("false", .bool false),
    ("NaN", .float (0 / 0)), ("Infinity", .float (1 / 0)), ("-Infinity", .float (-1 / 0))]

def readName? (cursor : Cursor) : Option (Value × Cursor) :=
  (names.find? fun entry => entry.1.toList.isPrefixOf cursor.rest).map fun entry =>
    (entry.2, cursor.advance entry.1.length)

mutual

def readValue : Nat → Cursor → Except JsonError (Value × Cursor)
  | 0, cursor => fail .value cursor.position
  | fuel + 1, cursor =>
    match cursor.rest with
    | '"' :: _ => do
      let (s, next) ← readString cursor.position (cursor.rest.length + 1) (cursor.advance 1) []
      return (.string s, next)
    | '{' :: _ =>
      let inner := (cursor.advance 1).skipBlanks
      match inner.rest with
      | '}' :: _ => .ok (.object [], inner.advance 1)
      | _ => readFields fuel inner []
    | '[' :: _ =>
      let inner := (cursor.advance 1).skipBlanks
      match inner.rest with
      | ']' :: _ => .ok (.array [], inner.advance 1)
      | _ => readItems fuel inner []
    | _ =>
      match readName? cursor with
      | some found => .ok found
      | none => readNumber cursor

-- The items of an array from the next one on, the read ones being in reverse order.
def readItems : Nat → Cursor → List Value → Except JsonError (Value × Cursor)
  | 0, cursor, _ => fail .value cursor.position
  | fuel + 1, cursor, read => do
    let (item, next) ← readValue fuel cursor
    let next := next.skipBlanks
    match next.rest with
    | ']' :: _ => return (.array (item :: read).reverse, next.advance 1)
    | ',' :: _ => readItems fuel (next.advance 1).skipBlanks (item :: read)
    | _ => fail .comma next.position

-- The fields of an object from the next one on.
def readFields : Nat → Cursor → List (String × Value) → Except JsonError (Value × Cursor)
  | 0, cursor, _ => fail .propertyName cursor.position
  | fuel + 1, cursor, read =>
    match cursor.rest with
    | '"' :: _ => do
      let (name, next) ← readString cursor.position (cursor.rest.length + 1) (cursor.advance 1) []
      let next := next.skipBlanks
      match next.rest with
      | ':' :: _ =>
        let (value, next) ← readValue fuel (next.advance 1).skipBlanks
        let next := next.skipBlanks
        let read := (name, value) :: read
        match next.rest with
        | '}' :: _ => return (.object (Fields.ofPairs read.reverse), next.advance 1)
        | ',' :: _ => readFields fuel (next.advance 1).skipBlanks read
        | _ => fail .comma next.position
      | _ => fail .colon next.position
    | _ => fail .propertyName cursor.position

end

end JsonReader

-- The data that a whole text denotes. An opening bracket costs two steps and a comma one, so twice
-- the length of the text bounds the steps.
def Value.ofJson (source : List Char) : Except JsonError Value :=
  if source.head? = some '\uFEFF' then .error ⟨.byteOrderMark, 0⟩
  else do
    let start := JsonReader.Cursor.skipBlanks ⟨source, 0⟩
    let (value, next) ← JsonReader.readValue (2 * source.length + 2) start
    let next := next.skipBlanks
    if next.rest.isEmpty then return value else .error ⟨.extraData, next.position⟩

end JsonExpr
