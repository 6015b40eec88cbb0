-- Sets of characters given by ascending ranges of code points.
namespace JsonExpr

abbrev CodeRanges := List (Nat × Nat)

-- The ranges ascend, so the search ends at the first one beyond the code.
def CodeRanges.contains (code : Nat) : CodeRanges → Bool
  | [] => false
  | (first, last) :: rest =>
    if code < first then false else code ≤ last || contains code rest

-- A run of characters, each a fixed stride after the one before, that are mapped by one offset.
structure CaseRun where
  first : Nat
  last : Nat
  stride : Nat
  target : Nat

-- The image of a code point under a table of runs.
def CaseRun.map? (code : Nat) : List CaseRun → Option Nat
  | [] => none
  | run :: rest =>
    if code < run.first then none
    else if code ≤ run.last ∧ (code - run.first) % run.stride = 0 then
      some (run.target + (code - run.first))
    else map? code rest

end JsonExpr
