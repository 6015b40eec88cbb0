-- Parts of a text: the pieces between delimiters, and slices by position.
namespace JsonExpr

namespace Parts

-- The pieces from a place on, where some characters of a delimiter are still to be skipped and some
-- of a piece have been read, the last one first.
def splitFrom (first : Char) (others : List Char) : Nat → List Char → List Char → List (List Char)
  | _, piece, [] => [piece.reverse]
  | skip + 1, piece, _ :: rest => splitFrom first others skip piece rest
  | 0, piece, c :: rest =>
    if c = first ∧ others.isPrefixOf rest then
      piece.reverse :: splitFrom first others others.length [] rest
    else splitFrom first others 0 (c :: piece) rest

end Parts

-- The pieces of a text between delimiters, which do not overlap. Without a delimiter the pieces are
-- the characters.
def splitText (delimiter text : List Char) : List (List Char) :=
  match delimiter with
  | [] => text.map fun c => [c]
  | first :: others => Parts.splitFrom first others 0 [] text

-- A position in a text of a given length. A negative one counts from the end, and one beyond an end
-- is moved to it.
def positionIn (length : Nat) (i : Int) : Nat :=
  if i < 0 then (i + length).toNat else min i.toNat length

-- The text from one position up to another.
def slice (text : List Char) (start : Int) (stop : Option Int) : List Char :=
  let first := positionIn text.length start
  let last := match stop with
    | some stop => positionIn text.length stop
    | none => text.length
  (text.drop first).take (last - first)

end JsonExpr
