import JsonExpr.Number.Binary

-- Decimal texts of binary values: the fewest digits that read back as the same value, the layout
-- they are written in, and the value that a decimal text denotes.
namespace JsonExpr

-- Significant digits and the power of ten of the first one: digits 314 with lead 0 is 3.14.
structure Digits where
  digits : Nat
  lead : Int
deriving Repr, DecidableEq

-- The number of decimal digits of a positive whole number.
def digitCount (n : Nat) : Nat := (Nat.toDigits 10 n).length

-- The power of ten of the first digit of a positive quotient.
def leadingPower (numerator denominator : Nat) : Int :=
  if denominator ≤ numerator then (digitCount (numerator / denominator) : Int) - 1
  else -((digitCount ((denominator + numerator - 1) / numerator - 1)) : Int)

namespace Digits

-- The reals that round to mantissa * 2 ^ shift, in quarters of a unit. The neighbour below a power
-- of two is half as far away.
def interval (mantissa shift : Nat) : Nat × Nat :=
  let below := if mantissa = Nat.pow 2 52 ∧ 0 < shift then 1 else 2
  (Parts.magnitude (4 * mantissa - below) shift, Parts.magnitude (4 * mantissa + 2) shift)

-- The digits of the grid point next to the value on the grid of multiples of 10 ^ step, if one of
-- its two neighbours there rounds to the value. The nearer wins, and of two equally near ones the
-- even one.
def onGrid? (mantissa shift : Nat) (step : Int) : Option Nat :=
  let (low, high) := interval mantissa shift
  let quarters := 4 * Parts.unitsPerOne
  -- a grid point d is d * gridScale against interval ends times valueScale
  let gridScale := quarters * Nat.pow 10 step.toNat
  let valueScale := Nat.pow 10 (-step).toNat
  let value := 4 * Parts.magnitude mantissa shift * valueScale
  let floor := value / gridScale
  let inside := fun (d : Nat) =>
    let point := d * gridScale
    if mantissa % 2 = 0 then decide (low * valueScale ≤ point ∧ point ≤ high * valueScale)
    else decide (low * valueScale < point ∧ point < high * valueScale)
  match inside floor, inside (floor + 1) with
  | false, false => none
  | true, false => some floor
  | false, true => some (floor + 1)
  | true, true =>
    let below := value - floor * gridScale
    let above := (floor + 1) * gridScale - value
    if below < above then some floor
    else if above < below then some (floor + 1)
    else if floor % 2 = 0 then some floor else some (floor + 1)

-- The first grid, from the coarsest, that has a point for the value. Seventeen digits always do.
def search (mantissa shift : Nat) (lead : Int) : List Nat → Nat × Int
  | [] => (0, 0)
  | places :: rest =>
    match onGrid? mantissa shift (lead - places) with
    | some digits => (digits, lead - places)
    | none => search mantissa shift lead rest

-- The fewest digits that round to the value, and of those the nearest.
def shortest (mantissa shift : Nat) : Digits :=
  let lead := leadingPower (Parts.magnitude mantissa shift) Parts.unitsPerOne
  let (digits, step) := search mantissa shift lead (List.range 18)
  ⟨digits, step + (digitCount digits : Int) - 1⟩

end Digits

-- How a binary value is written down.
structure FloatLayout where
  -- the powers of ten of the first digit that are written without an exponent
  positionalFrom : Int
  positionalBelow : Int
  point : String
  -- what follows a whole number written without an exponent
  wholeSuffix : String
  exponentMark : String
  exponentPlus : String
  exponentWidth : Nat
  notANumber : String
  infinity : String

namespace FloatLayout

def pad (width : Nat) (text : String) : String :=
  String.ofList (List.replicate (width - text.length) '0') ++ text

-- Trailing zeros of the digits carry no information.
def significant (digits : Nat) : List Char :=
  ((Nat.toDigits 10 digits).reverse.dropWhile (· == '0')).reverse

def writeDigits (layout : FloatLayout) (d : Digits) : String :=
  let digits := significant d.digits
  if layout.positionalFrom ≤ d.lead ∧ d.lead < layout.positionalBelow then
    if d.lead < 0 then
      "0" ++ layout.point ++ String.ofList (List.replicate (-d.lead - 1).toNat '0' ++ digits)
    else
      let whole := d.lead.toNat + 1
      if digits.length ≤ whole then
        String.ofList (digits ++ List.replicate (whole - digits.length) '0') ++ layout.wholeSuffix
      else
        String.ofList (digits.take whole) ++ layout.point ++ String.ofList (digits.drop whole)
  else
    let head := String.ofList (digits.take 1)
    let tail := digits.drop 1
    let fraction := if tail.isEmpty then "" else layout.point ++ String.ofList tail
    let sign := if d.lead < 0 then "-" else layout.exponentPlus
    head ++ fraction ++ layout.exponentMark ++ sign ++
      pad layout.exponentWidth (toString d.lead.natAbs)

def write (layout : FloatLayout) (x : Float) : String :=
  match Parts.ofFloat x with
  | .notANumber => layout.notANumber
  | .infinite negative => (if negative then "-" else "") ++ layout.infinity
  | .finite negative mantissa shift =>
    (if negative then "-" else "") ++
      if mantissa = 0 then "0" ++ layout.wholeSuffix
      else layout.writeDigits (Digits.shortest mantissa shift)

-- Whole numbers keep a point, sixteen digits stand before it, and an exponent has a sign and at
-- least two digits.
def plain : FloatLayout where
  positionalFrom := -4
  positionalBelow := 16
  point := "."
  wholeSuffix := ".0"
  exponentMark := "e"
  exponentPlus := "+"
  exponentWidth := 2
  notANumber := "nan"
  infinity := "inf"

-- The same, with the usual names for the three values that JSON has no notation for.
def json : FloatLayout := { plain with notANumber := "NaN", infinity := "Infinity" }

end FloatLayout

-- The value nearest to digits * 10 ^ exponent. Far outside the range the answer is known without
-- raising ten to the exponent.
def floatOfDecimal (negative : Bool) (digits : Nat) (exponent : Int) : Float :=
  if digits = 0 then nearestFloat negative 0 1
  else
    let lead := (digitCount digits : Int) + exponent
    if lead > 400 then nearestFloat negative (Nat.pow 2 1024) 1
    else if lead < -400 then nearestFloat negative 0 1
    else if 0 ≤ exponent then nearestFloat negative (digits * Nat.pow 10 exponent.toNat) 1
    else nearestFloat negative digits (Nat.pow 10 (-exponent).toNat)

end JsonExpr
