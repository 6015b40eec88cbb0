import JsonExpr.Text.CodeRange

-- White space: the separators of Unicode and the control characters that act as such.
namespace JsonExpr

namespace Blank

-- Tab to carriage return, the four information separators, and the Unicode spaces.
def ranges : CodeRanges :=
  [ (0x9, 0xd), (0x1c, 0x20), (0x85, 0x85), (0xa0, 0xa0), (0x1680, 0x1680), (0x2000, 0x200a),
    (0x2028, 0x2029), (0x202f, 0x202f), (0x205f, 0x205f), (0x3000, 0x3000) ]

end Blank

def isBlank (c : Char) : Bool := Blank.ranges.contains c.toNat

-- The text without white space at both ends.
def trimBlanks (text : List Char) : List Char :=
  ((text.dropWhile isBlank).reverse.dropWhile isBlank).reverse

end JsonExpr
