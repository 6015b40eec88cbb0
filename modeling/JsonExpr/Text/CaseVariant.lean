import JsonExpr.Text.Case

-- Characters that differ only in case. Most share a lower case; some lower-case characters are
-- variants of each other because they share an upper case.
namespace JsonExpr

namespace CaseVariant

-- Lower-case characters with a common upper case.
def classes : List (List Nat) :=
  [ [0x69, 0x131], [0x73, 0x17f], [0xb5, 0x3bc], [0x345, 0x3b9, 0x1fbe], [0x390, 0x1fd3],
    [0x3b0, 0x1fe3], [0x3b2, 0x3d0], [0x3b5, 0x3f5], [0x3b8, 0x3d1], [0x3ba, 0x3f0],
    [0x3c0, 0x3d6], [0x3c1, 0x3f1], [0x3c2, 0x3c3], [0x3c6, 0x3d5], [0x432, 0x1c80],
    [0x434, 0x1c81], [0x43e, 0x1c82], [0x441, 0x1c83], [0x442, 0x1c84, 0x1c85], [0x44a, 0x1c86],
    [0x463, 0x1c87], [0x1c88, 0xa64b], [0x1e61, 0x1e9b], [0xfb05, 0xfb06] ]

end CaseVariant

-- The lower-case variants of a lower-case code, itself among them.
def lowerVariants (code : Nat) : List Nat :=
  (CaseVariant.classes.find? fun codes => codes.contains code).getD [code]

-- The upper case of a code as one character.
def upperCode (code : Nat) : Nat :=
  match upperChar (Char.ofNat code) with
  | c :: _ => c.toNat
  | [] => code

-- The codes with a given lower case, read off the runs that could map to it.
def codesWithLower (lower : Nat) : List Nat :=
  let mapped := Case.lowerRuns.map fun run => run.first + (lower - run.target)
  (lower :: 0x130 :: mapped).filter fun code => lowerCode code == lower

-- Lower case within ASCII alone.
def lowerAscii (code : Nat) : Nat := if 0x41 ≤ code ∧ code ≤ 0x5a then code + 0x20 else code

def codesWithLowerAscii (lower : Nat) : List Nat :=
  [lower, lower - 0x20].filter fun code => lowerAscii code == lower

end JsonExpr
