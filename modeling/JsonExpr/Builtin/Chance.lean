import JsonExpr.Builtin.Requirements
import JsonExpr.Calendar

-- Operations that take their results from chance or from the clock.
namespace JsonExpr

namespace Builtin

-- A source of values that depends on nothing else; the operand does not matter.
def source (draw : Script Value) : Operation := both (fun _ _ => draw) (fun _ => draw)

-- A number from zero to one, without one, with 53 random bits.
def unitInterval : Script Number := do
  let n ← Script.random (Nat.pow 2 53) .done
  return .float (nearestFloat false n (Nat.pow 2 53))

-- A number of the unit interval spread over another interval.
def spread (low high unit : Number) : Except Fault Number := do
  low.add (← (← high.subtract low).multiply unit)

-- A number with so many decimal places; a negative precision asks for a multiple of a power of ten.
def withPrecision (value : Number) (precision : Number) : Except Fault Number := do
  if (Number.int 0).le precision then
    let places ← precision.truncate
    match value with
    | .float x => return .float (Number.roundToPlaces x places.toNat)
    | whole => return whole
  else
    let factor : Int := Int.pow 10 (-(← precision.truncate)).toNat
    let quotient ← value.divide (.int factor)
    return .int ((← quotient.nearestWhole) * factor)

def randomIn (low high precision : Value) : Script Value :=
  match low, high with
  | .number low, .number high => do
    let unit ← unitInterval
    let value ← .ofExcept (spread low high unit)
    match precision with
    | .null => return .number value
    | .number precision => return .number (← .ofExcept (withPrecision value precision))
    | _ => .invalidOperand .randomPrecision
  | _, _ => .invalidOperand .randomBounds

-- A random number within the bounds that the operand gives as it is.
def drawNumber (operand : Value) : Script Value :=
  let fields := match operand with
    | .object fields => fields
    | _ => []
  randomIn ((Fields.find? "min" fields).getD (.int 0)) ((Fields.find? "max" fields).getD (.int 1))
    (field "precision" fields)

def random : Operation := both (fun operand _ => drawNumber operand) drawNumber

-- A random identifier of 128 bits, of which six say what it is.
def identifierText (bits : Nat) : String :=
  let digit := fun place => Nat.digitChar (bits / Nat.pow 16 place % 16)
  let group := fun first count =>
    String.ofList ((List.range count).map fun i => digit (first + count - 1 - i))
  group 24 8 ++ "-" ++ group 20 4 ++ "-4" ++ group 16 3 ++ "-" ++
    (Nat.digitChar (8 + bits / Nat.pow 16 15 % 4)).toString ++ group 12 3 ++ "-" ++ group 0 12

def uuid : Operation :=
  source do return .string (identifierText (← Script.random (Nat.pow 2 128) .done))

def nowUniversal : Operation := source do return .string (← Script.now .done).universalText

def nowLocal : Operation := source do return .string (← Script.now .done).localText

def timestamp : Operation :=
  source do return .int (← Script.now .done).milliseconds

end Builtin

end JsonExpr
