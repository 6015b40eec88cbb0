-- The least number of one-character insertions, deletions and substitutions between two texts,
-- computed row by row: a row holds the distances from one prefix of the first text to every prefix
-- of the second. A limit can stop the computation early.
namespace JsonExpr

namespace EditDistance

-- The rest of the row for one more character, to the right of a known entry. The previous row is
-- given from the entry above the known one on.
def extendRow (c : Char) : Nat → List Char → List Nat → List Nat
  | left, d :: ds, diagonal :: above :: previous =>
    let here := min (min (above + 1) (left + 1)) (diagonal + if c = d then 0 else 1)
    here :: extendRow c here ds (above :: previous)
  | _, _, _ => []

-- The row of a prefix of the given length that ends in the character.
def nextRow (length : Nat) (c : Char) (b : List Char) (previous : List Nat) : List Nat :=
  length :: extendRow c length b previous

-- Whether every entry of a row exceeds the limit, so that the distance does too. The distance may
-- exceed it although no row does.
def exceeds (limit : Option Int) (row : List Nat) : Bool :=
  match limit with
  | none => false
  | some limit => row.all fun entry => decide (limit < (entry : Int))

-- The last entry of the last row, or one more than the limit as soon as a row exceeds it. The last
-- entry itself is not compared with the limit.
def lastEntry (limit : Option Int) (b : List Char) : Nat → List Nat → List Char → Int
  | _, row, [] => (row.getLastD 0 : Nat)
  | length, row, c :: rest =>
    let next := nextRow (length + 1) c b row
    if exceeds limit next then limit.getD 0 + 1
    else lastEntry limit b (length + 1) next rest

end EditDistance

open EditDistance in
-- The distance, unless the lengths alone or a row of distances show that it is beyond the limit:
-- then the answer is one more than the limit. If neither does, a distance beyond the limit is the
-- answer as it is. The shorter text runs along the rows.
def editDistance (a b : List Char) (limit : Option Int) : Int :=
  let (long, short) := if a.length < b.length then (b, a) else (a, b)
  let tooFar := match limit with
    | some limit => decide (limit < (long.length : Int) - short.length)
    | none => false
  if tooFar then limit.getD 0 + 1
  else lastEntry limit short 0 (List.range (short.length + 1)) long

end JsonExpr
