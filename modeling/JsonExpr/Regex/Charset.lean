import JsonExpr.Regex.Flags
import JsonExpr.Text.Blank
import JsonExpr.Text.CaseVariant
import JsonExpr.Text.Digit
import JsonExpr.Text.Word

-- Classes and sets of characters, with and without regard to case.
namespace JsonExpr

namespace Regex

inductive CharClass where
  | digit
  | blank
  | word
deriving Repr, DecidableEq

def isAsciiWord (c : Char) : Bool := c == '_' || c.isAlphanum

def CharClass.contains (flags : Flags) (c : Char) : CharClass → Bool
  | digit => if flags.ascii then c.isDigit else isDecimalDigit c
  | blank => if flags.ascii then c == ' ' || ('\t' ≤ c && c ≤ '\r') else isBlank c
  | word => if flags.ascii then isAsciiWord c else isWordChar c

-- A member of a set of characters. Codes need not be those of characters.
inductive CharItem where
  | code (code : Nat)
  | range (first last : Nat)
  | charClass (name : CharClass) (negated : Bool)
deriving Repr, DecidableEq

-- The last code of the basic plane.
def lastBasic : Nat := 0xffff

def lowerIn (flags : Flags) (code : Nat) : Nat :=
  if flags.ascii then lowerAscii code else lowerCode code

def variantsIn (flags : Flags) (lower : Nat) : List Nat :=
  if flags.ascii then [lower] else lowerVariants lower

-- Whether two codes are equal without regard to case.
def sameWithoutCase (flags : Flags) (code other : Nat) : Bool :=
  (variantsIn flags (lowerIn flags code)).contains (lowerIn flags other)

-- The codes that have a lower case up to variants.
def codesOfVariants (flags : Flags) (lower : Nat) : List Nat :=
  (variantsIn flags lower).flatMap fun variant =>
    if flags.ascii then codesWithLowerAscii variant else codesWithLower variant

def inRange (first last code : Nat) : Bool := first ≤ code && code ≤ last

namespace CharItem

def contains (flags : Flags) (c : Char) : CharItem → Bool
  | code n => c.toNat = n
  | range first last => inRange first last c.toNat
  | charClass name negated => name.contains flags c != negated

-- Membership without regard to case, of a character given in lower case. Within the basic plane,
-- variants count; beyond it, a code stands for itself, and a range also for upper case.
def containsLower (flags : Flags) (lower : Char) : CharItem → Bool
  | code n =>
    if lowerIn flags n ≤ lastBasic then (variantsIn flags (lowerIn flags n)).contains lower.toNat
    else lower.toNat = n
  | range first last =>
    (codesOfVariants flags lower.toNat).any (inRange first (min last lastBasic)) ||
      (lastBasic < last &&
        (inRange first last lower.toNat || inRange first last (upperCode lower.toNat)))
  | charClass name negated => name.contains flags lower != negated

end CharItem

-- Whether a set of characters contains one.
def charsetContains (flags : Flags) (items : List CharItem) (c : Char) : Bool :=
  if flags.ignoreCase then
    items.any (CharItem.containsLower flags (Char.ofNat (lowerIn flags c.toNat)))
  else items.any (CharItem.contains flags c)

end Regex

end JsonExpr
