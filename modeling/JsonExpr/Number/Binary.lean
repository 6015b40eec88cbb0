-- Numbers with 53 significant bits, taken apart and put together in exact whole-number
-- arithmetic. Every finite one is a whole number of units of 2 ^ -1074, the smallest positive
-- one, so its value is a mantissa shifted left by some number of places.
namespace JsonExpr

-- What a 64-bit pattern stands for. A finite value is mantissa * 2 ^ shift units.
inductive Parts where
  | notANumber
  | infinite (negative : Bool)
  | finite (negative : Bool) (mantissa shift : Nat)
deriving Repr, DecidableEq

namespace Parts

-- One is a unit shifted left by this many places.
def unitPlaces : Nat := 1074

def unitsPerOne : Nat := Nat.pow 2 unitPlaces

theorem unitsPerOne_pos : 0 < unitsPerOne := by
  unfold unitsPerOne
  generalize unitPlaces = places
  exact Nat.two_pow_pos places

def ofBits (bits : Nat) : Parts :=
  let negative := bits / Nat.pow 2 63 % 2 == 1
  let exponent := bits / Nat.pow 2 52 % Nat.pow 2 11
  let fraction := bits % Nat.pow 2 52
  if exponent = 2047 then
    if fraction = 0 then .infinite negative else .notANumber
  else if exponent = 0 then .finite negative fraction 0
  else .finite negative (Nat.pow 2 52 + fraction) (exponent - 1)

def ofFloat (x : Float) : Parts := ofBits x.toBits.toNat

-- The distance from zero in units.
def magnitude (mantissa shift : Nat) : Nat := mantissa * Nat.pow 2 shift

-- A signed count of units.
def signed (negative : Bool) (count : Nat) : Int :=
  if negative then -(count : Int) else count

end Parts

-- The quotient rounded to a whole number, a half going to the even neighbour.
def divideToEven (numerator denominator : Nat) : Nat :=
  let quotient := numerator / denominator
  let twice := 2 * (numerator % denominator)
  if twice < denominator then quotient
  else if denominator < twice then quotient + 1
  else if quotient % 2 = 0 then quotient else quotient + 1

-- Below these bits lie the finite positive patterns; they are those of positive infinity.
def infinityBits : Nat := 2047 * Nat.pow 2 52

-- The pattern of the positive value nearest to a quotient. The shift leaves 53 bits of mantissa;
-- a mantissa that rounds up to 2 ^ 53 carries into the exponent field by itself.
def nearestBits (numerator denominator : Nat) : Nat :=
  let scaled := numerator * Parts.unitsPerOne
  let length := (scaled / denominator).log2 + 1
  let shift := length - 53
  let bits := shift * Nat.pow 2 52 + divideToEven scaled (denominator * Nat.pow 2 shift)
  min bits infinityBits

-- The value nearest to a signed quotient, a half going to the even mantissa. A quotient beyond the
-- finite range gives an infinity.
def nearestFloat (negative : Bool) (numerator denominator : Nat) : Float :=
  let bits := nearestBits numerator denominator
  Float.ofBits (UInt64.ofNat (if negative then Nat.pow 2 63 + bits else bits))

-- The value nearest to a signed count of units.
def nearestOfUnits (units : Int) : Float :=
  nearestFloat (units < 0) units.natAbs Parts.unitsPerOne

-- The finite value nearest to a whole number, if it is in range.
def floatOfInt? (n : Int) : Option Float :=
  let x := nearestFloat (n < 0) n.natAbs 1
  if x.isFinite then some x else none

end JsonExpr
