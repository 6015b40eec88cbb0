import JsonExpr.Number.Decimal

-- Numbers of JSON data: whole numbers of any size and 64-bit floats. They are compared by their
-- exact values, so a float and a whole number are equal only when they denote the same real.
-- Assumed is a runtime without a limit on the digits that a whole number is read from or written
-- with. Where such a limit can be set, it has to be off, or no number may reach it.
namespace JsonExpr

inductive Number where
  | int (n : Int)
  | float (x : Float)

namespace Number

instance : Inhabited Number := ⟨.int 0⟩

-- Where a number stands among all numbers. Every finite one is a whole number of units.
inductive Place where
  | nowhere
  | below
  | units (count : Int)
  | above
deriving Repr, DecidableEq

namespace Place

def ofParts : Parts → Place
  | .notANumber => nowhere
  | .infinite true => below
  | .infinite false => above
  | .finite negative mantissa shift =>
    units (Parts.signed negative (Parts.magnitude mantissa shift))

-- A value that is nowhere precedes nothing and equals nothing.
def lt : Place → Place → Bool
  | nowhere, _ => false
  | _, nowhere => false
  | below, below => false
  | below, _ => true
  | _, below => false
  | above, _ => false
  | units _, above => true
  | units a, units b => decide (a < b)

def eq : Place → Place → Bool
  | below, below => true
  | above, above => true
  | units a, units b => a == b
  | _, _ => false

end Place

def place : Number → Place
  | int n => .units (n * Parts.unitsPerOne)
  | float x => .ofParts (.ofFloat x)

-- Whole numbers are compared directly; the answer is that of their places.
def lt : Number → Number → Bool
  | int a, int b => decide (a < b)
  | a, b => a.place.lt b.place

def eq : Number → Number → Bool
  | int a, int b => a == b
  | a, b => a.place.eq b.place

def le (a b : Number) : Bool := a.lt b || a.eq b

def isZero (a : Number) : Bool := a.eq (int 0)

def isNegative (a : Number) : Bool := a.lt (int 0)

-- Whether a number counts as true.
def isTruthy (a : Number) : Bool := !a.isZero

-- All digits of a whole number, however many there are: the runtime is assumed to set no limit.
def text (layout : FloatLayout) : Number → String
  | int n => toString n
  | float x => layout.write x

theorem unitsPerOne_pos : (0 : Int) < (Parts.unitsPerOne : Int) :=
  Int.natCast_pos.mpr Parts.unitsPerOne_pos

-- Comparing whole numbers directly agrees with comparing their places.
theorem eq_eq_place_eq (a b : Number) : a.eq b = a.place.eq b.place := by
  cases a with
  | float x => rfl
  | int m =>
    cases b with
    | float y => rfl
    | int n =>
      have hne : (Parts.unitsPerOne : Int) ≠ 0 := Int.ne_of_gt unitsPerOne_pos
      simp only [eq, place, Place.eq]
      rw [Bool.eq_iff_iff]
      simp only [beq_iff_eq]
      exact ⟨fun h => by rw [h], fun h => Int.eq_of_mul_eq_mul_right hne h⟩

end Number

end JsonExpr
