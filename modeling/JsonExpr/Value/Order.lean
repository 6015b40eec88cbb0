import JsonExpr.Value.Equality

-- The partial order of data that sorting and bounds use: numbers by value, texts by code points,
-- arrays by the first items that differ. A boolean is the number 0 or 1 here, and data of
-- different kinds, nulls, and objects are not ordered at all.
namespace JsonExpr

-- The two comparisons from which the others follow.
inductive Comparison where
  | less
  | atMost
deriving Repr, DecidableEq

namespace Comparison

def numbers : Comparison → Number → Number → Bool
  | less => Number.lt
  | atMost => Number.le

def strings : Comparison → String → String → Bool
  | less, a, b => decide (a < b)
  | atMost, a, b => !decide (b < a)

def sizes : Comparison → Nat → Nat → Bool
  | less, a, b => decide (a < b)
  | atMost, a, b => decide (a ≤ b)

end Comparison

namespace Value

-- A number or a boolean as a number.
def asNumber? : Value → Option Number
  | number n => some n
  | bool b => some (.int b.toNat)
  | _ => none

mutual

-- Whether a stands to b as asked; none if the two are not ordered.
def compare? (how : Comparison) : Value → Value → Option Bool
  | string a, string b => some (how.strings a b)
  | array xs, array ys => compareItems? how xs ys
  | a, b =>
    match a.asNumber?, b.asNumber? with
    | some m, some n => some (how.numbers m n)
    | _, _ => none

def compareItems? (how : Comparison) : List Value → List Value → Option Bool
  | [], ys => some (how.sizes 0 ys.length)
  | xs, [] => some (how.sizes xs.length 0)
  | x :: xs, y :: ys =>
    if x.equalCounting y then compareItems? how xs ys else x.compare? how y

end

def less? (a b : Value) : Option Bool := compare? .less a b

def atMost? (a b : Value) : Option Bool := compare? .atMost a b

theorem less?_int (m n : Int) : (int m).less? (int n) = some (decide (m < n)) := by
  simp [less?, compare?, asNumber?, Comparison.numbers, Number.lt]

theorem less?_string (s t : String) : (string s).less? (string t) = some (decide (s < t)) := by
  simp [less?, compare?, Comparison.strings]

theorem atMost?_int (m n : Int) : (int m).atMost? (int n) = some !decide (n < m) := by
  have hle : (Number.int m).le (.int n) = !decide (n < m) := by
    rw [Bool.eq_iff_iff]
    simp only [Number.le, Number.lt, Number.eq, Bool.or_eq_true, decide_eq_true_iff, beq_iff_eq,
      Bool.not_eq_true', decide_eq_false_iff_not]
    omega
  simp only [atMost?, compare?, asNumber?, Comparison.numbers, hle]

theorem atMost?_string (s t : String) :
    (string s).atMost? (string t) = some !decide (t < s) := by
  simp [atMost?, compare?, Comparison.strings]

end Value

end JsonExpr
