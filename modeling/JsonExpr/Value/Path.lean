import JsonExpr.Number.Arithmetic
import JsonExpr.Text.Integer
import JsonExpr.Value.Basic

-- Paths into data. A path is a list of segments: a field name, a list index, or the wildcard, which
-- goes on into every item. Its text separates segments by points or puts them into brackets.
namespace JsonExpr

abbrev Path := List String

namespace Path

def wildcard : String := "$"

-- The text with every bracketed part replaced by a point and what the brackets hold. A bracket that
-- is never closed stays.
def unbracket : List Char → List Char
  | [] => []
  | '[' :: rest =>
    match _h : rest.dropWhile (· != ']') with
    | [] => '[' :: unbracket rest
    | _ :: after => '.' :: rest.takeWhile (· != ']') ++ unbracket after
  | c :: rest => c :: unbracket rest
termination_by text => text.length
decreasing_by
  · simp
  · have hlen := congrArg List.length _h
    have hsuf := (List.dropWhile_suffix (· != ']') (l := rest)).length_le
    simp only [List.length_cons] at hlen ⊢
    omega
  · simp

-- The pieces between separators.
def split (separator : Char) : List Char → List (List Char)
  | [] => [[]]
  | c :: rest =>
    if c = separator then [] :: split separator rest
    else match split separator rest with
      | [] => [[c]]
      | piece :: pieces => (c :: piece) :: pieces

-- The segments of a text: the pieces between points that are not empty.
def parse (text : String) : Path :=
  ((split '.' (unbracket text.toList)).filter fun piece => !piece.isEmpty).map String.ofList

end Path

namespace Value

-- The position in a list that a text denotes, if it is in range.
def indexIn? (length : Nat) (text : String) : Option Nat :=
  match integer? text.toList with
  | some (.ofNat n) => if n < length then some n else none
  | _ => none

-- The value one segment below, if it is there.
def child? (segment : String) : Value → Option Value
  | object fields => Fields.find? segment fields
  | array items => (indexIn? items.length segment).bind (items[·]?)
  | _ => none

-- The items that a wildcard goes into: a value that is no list is its own only item.
def wildcardItems : Value → List Value
  | array items => items
  | value => [value]

-- The value at a path. What is missing reads as null, and what a wildcard finds in lists is joined.
def read : Path → Value → Value
  | [], value => value
  | _ :: _, null => null
  | segment :: rest, value =>
    if segment = Path.wildcard then
      if rest.isEmpty then array value.wildcardItems
      else array (value.wildcardItems.flatMap fun item => (read rest item).wildcardItems)
    else read rest ((value.child? segment).getD null)

-- Whether every segment is present, even if the value is null. The wildcard is a plain name here.
def hasPath : Path → Value → Bool
  | [], _ => true
  | segment :: rest, value =>
    match value.child? segment with
    | some next => hasPath rest next
    | none => false

-- The segments that a value gives when it is used as a path: a text is parsed, a list is taken as
-- it is, and an object gives its keys.
def segments? : Value → Except Fault (List Value)
  | string s => .ok ((Path.parse s).map string)
  | array items => .ok items
  | object fields => .ok (fields.map fun field => string field.1)
  | _ => .error .notAPath

-- One step by a segment of any kind. Only a text names a field; a number is an index as well.
def stepBy (segment : Value) : Value → Except Fault Value
  | object fields =>
    match segment with
    | string s => .ok ((Fields.find? s fields).getD null)
    | array _ | object _ => .error .unhashableKey
    | _ => .ok null
  | array items =>
    let item := fun (index : Int) => if 0 ≤ index then (items[index.toNat]?).getD null else null
    match segment with
    | string s => .ok ((child? s (array items)).getD null)
    | bool b => .ok (item b.toNat)
    | number n =>
      match n.truncate with
      | .ok index => .ok (item index)
      | .error .notANumber => .ok null
      | .error fault => .error fault
    | _ => .error .notAPath
  | _ => .ok null

def isWildcard : Value → Bool
  | string s => s == Path.wildcard
  | _ => false

-- Reading along segments of any kind.
def readBy : List Value → Value → Except Fault Value
  | [], value => .ok value
  | _ :: _, null => .ok null
  | segment :: rest, value =>
    if segment.isWildcard then
      if rest.isEmpty then .ok (array value.wildcardItems)
      else do
        let found ← value.wildcardItems.mapM fun item => readBy rest item
        return array (found.flatMap wildcardItems)
    else do readBy rest (← stepBy segment value)

end Value

end JsonExpr
