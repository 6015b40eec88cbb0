import JsonExpr.Fault
import JsonExpr.Number.Basic

-- Arithmetic of numbers. Whole numbers stay whole where the result is; as soon as a float takes
-- part, both sides become floats, and a whole number too large for that is a fault.
namespace JsonExpr

namespace Number

def toFloat : Number → Except Fault Float
  | int n => match floatOfInt? n with
    | some x => .ok x
    | none => .error .tooLarge
  | float x => .ok x

-- An operation that is exact on whole numbers and rounds on floats.
def combine (exact : Int → Int → Int) (rounded : Float → Float → Float) :
    Number → Number → Except Fault Number
  | int a, int b => .ok (int (exact a b))
  | a, b => do
    let x ← a.toFloat
    let y ← b.toFloat
    return float (rounded x y)

def add : Number → Number → Except Fault Number := combine (· + ·) (· + ·)

def subtract : Number → Number → Except Fault Number := combine (· - ·) (· - ·)

def multiply : Number → Number → Except Fault Number := combine (· * ·) (· * ·)

-- Two whole numbers give the float nearest to their quotient. The divisor is not zero.
def divide : Number → Number → Except Fault Number
  | int a, int b =>
    let x := nearestFloat ((a < 0) != (b < 0)) a.natAbs b.natAbs
    if x.isFinite then .ok (float x) else .error .tooLarge
  | a, b => do
    let x ← a.toFloat
    let y ← b.toFloat
    return float (x / y)

-- The sign of a float, that of a zero included.
def floatIsNegative (x : Float) : Bool :=
  match Parts.ofFloat x with
  | .notANumber => false
  | .infinite negative => negative
  | .finite negative _ _ => negative

def zeroWithSign (negative : Bool) : Float := nearestFloat negative 0 1

-- The remainder has the sign of the divisor, a zero remainder too. It is exact except for the last
-- addition, which moves a remainder of the wrong sign over.
def floatModulo (x y : Float) : Float :=
  match Parts.ofFloat x, Parts.ofFloat y with
  | .finite nx mx sx, .finite _ my sy =>
    if my = 0 then x / y
    else
      let rest := Parts.magnitude mx sx % Parts.magnitude my sy
      if rest = 0 then zeroWithSign (floatIsNegative y)
      else
        let remainder := nearestOfUnits (Parts.signed nx rest)
        if floatIsNegative y != nx then remainder + y else remainder
  | .finite nx mx _, .infinite ny =>
    if mx = 0 then zeroWithSign ny
    else if nx != ny then x + y else x
  | _, _ => Float.ofBits 0x7ff8000000000000

-- The divisor is not zero.
def modulo : Number → Number → Except Fault Number := combine Int.fmod floatModulo

-- A power whose result leaves the finite range is a fault.
def floatPower (x y : Float) : Except Fault Number :=
  let z := x.pow y
  if z.isInf && x.isFinite && y.isFinite then .error .tooLarge else .ok (float z)

-- The base is not zero when the exponent is negative.
def power : Number → Number → Except Fault Number
  | int a, int b =>
    if 0 ≤ b then .ok (int (a.pow b.toNat))
    else do
      let x ← (int a).toFloat
      let y ← (int b).toFloat
      floatPower x y
  | a, b => do
    let x ← a.toFloat
    let y ← b.toFloat
    floatPower x y

def squareRoot (a : Number) : Except Fault Number := do
  let x ← a.toFloat
  return float x.sqrt

def absolute : Number → Number
  | int n => int n.natAbs
  | float x => float x.abs

-- A finite number of units rounded to a whole number by a rounding of signed quotients.
def toWhole (round : Int → Int → Int) : Number → Except Fault Int
  | int n => .ok n
  | float x =>
    match Parts.ofFloat x with
    | .notANumber => .error .notANumber
    | .infinite _ => .error .tooLarge
    | .finite negative mantissa shift =>
      .ok (round (Parts.signed negative (Parts.magnitude mantissa shift)) Parts.unitsPerOne)

def floor : Number → Except Fault Int := toWhole Int.fdiv

def ceiling : Number → Except Fault Int := toWhole fun a b => -((-a).fdiv b)

def truncate : Number → Except Fault Int := toWhole Int.tdiv

-- The nearest whole number, a half going to the even neighbour.
def nearestWhole : Number → Except Fault Int :=
  toWhole fun a b => Parts.signed (a < 0) (divideToEven a.natAbs b.natAbs)

-- The float nearest to the value rounded to a number of decimal places, a half going to the even
-- neighbour. Beyond 323 places a float does not change.
def roundToPlaces (x : Float) (places : Nat) : Float :=
  match Parts.ofFloat x with
  | .finite negative mantissa shift =>
    if 323 < places then x
    else
      let scale := Nat.pow 10 places
      let digits := divideToEven (Parts.magnitude mantissa shift * scale) Parts.unitsPerOne
      nearestFloat negative digits scale
  | _ => x

def isWhole (a : Number) : Bool :=
  match a with
  | int _ => true
  | float x =>
    match Parts.ofFloat x with
    | .finite _ mantissa shift => Parts.magnitude mantissa shift % Parts.unitsPerOne = 0
    | _ => false

-- The running exact sum of floats: the finite ones in units, and the sum of the others, if any.
structure ExactSum where
  units : Int
  others : Option Float
  infinities : Float

def ExactSum.zero : ExactSum := ⟨0, none, 0⟩

-- A value that is not finite starts the finite part afresh, since it outweighs it.
def ExactSum.add (sum : ExactSum) (x : Float) : Except Fault ExactSum :=
  match Parts.ofFloat x with
  | .finite negative mantissa shift =>
    let units := sum.units + Parts.signed negative (Parts.magnitude mantissa shift)
    if (nearestOfUnits units).isFinite then .ok { sum with units }
    else .error .tooLarge
  | _ => .ok
    { units := 0
      others := some (sum.others.getD 0 + x)
      infinities := if x.isInf then sum.infinities + x else sum.infinities }

def ExactSum.result (sum : ExactSum) : Except Fault Float :=
  match sum.others with
  | none => .ok (nearestOfUnits sum.units)
  | some x => if sum.infinities.isNaN then .error .opposedInfinities else .ok x

-- The mean is the exact sum, rounded once, over the count.
def mean (values : List Number) : Except Fault Number := do
  let sum ← values.foldlM (fun sum value => do sum.add (← value.toFloat)) ExactSum.zero
  let total ← sum.result
  return float (total / (nearestFloat false values.length 1))

def sum (values : List Number) : Except Fault Number :=
  values.foldlM add (int 0)

-- The first of the smallest.
def least : Number → List Number → Number
  | best, [] => best
  | best, value :: rest => least (if value.lt best then value else best) rest

-- The first of the greatest.
def greatest : Number → List Number → Number
  | best, [] => best
  | best, value :: rest => greatest (if best.lt value then value else best) rest

end Number

end JsonExpr
