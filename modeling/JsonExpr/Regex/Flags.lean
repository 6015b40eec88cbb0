-- The flags of a regular expression.
namespace JsonExpr

namespace Regex

structure Flags where
  ignoreCase : Bool := false
  -- lines have beginnings and ends of their own
  multiline : Bool := false
  -- the dot matches line ends too
  dotAll : Bool := false
  -- blanks and comments in the pattern are skipped
  verbose : Bool := false
  -- the character classes are those of ASCII, or explicitly those of Unicode
  ascii : Bool := false
  unicode : Bool := false
  -- the pattern must not repeat anything
  template : Bool := false
deriving Repr, DecidableEq

namespace Flags

def letter? : Char → Option Flags
  | 'i' => some { ignoreCase := true }
  | 'm' => some { multiline := true }
  | 's' => some { dotAll := true }
  | 'x' => some { verbose := true }
  | 'a' => some { ascii := true }
  | 'u' => some { unicode := true }
  | 't' => some { template := true }
  | _ => none

def union (f g : Flags) : Flags where
  ignoreCase := f.ignoreCase || g.ignoreCase
  multiline := f.multiline || g.multiline
  dotAll := f.dotAll || g.dotAll
  verbose := f.verbose || g.verbose
  ascii := f.ascii || g.ascii
  unicode := f.unicode || g.unicode
  template := f.template || g.template

-- Whether two sets of flags have one in common.
def meets (f g : Flags) : Bool :=
  (f.ignoreCase && g.ignoreCase) || (f.multiline && g.multiline) || (f.dotAll && g.dotAll) ||
    (f.verbose && g.verbose) || (f.ascii && g.ascii) || (f.unicode && g.unicode) ||
    (f.template && g.template)

-- Flags that choose the character classes. At most one of them can be set.
def choosesClasses (f : Flags) : Bool := f.ascii || f.unicode

-- The flags inside a group that turns some on and some off.
def within (f on off : Flags) : Flags where
  ignoreCase := (f.ignoreCase || on.ignoreCase) && !off.ignoreCase
  multiline := (f.multiline || on.multiline) && !off.multiline
  dotAll := (f.dotAll || on.dotAll) && !off.dotAll
  verbose := (f.verbose || on.verbose) && !off.verbose
  ascii := if on.choosesClasses then on.ascii else f.ascii
  unicode := if on.choosesClasses then on.unicode else f.unicode
  template := f.template

-- The letters of the flags that a leading marker can set.
def letters (f : Flags) : String :=
  (if f.ignoreCase then "i" else "") ++ (if f.multiline then "m" else "") ++
    (if f.dotAll then "s" else "")

end Flags

end Regex

end JsonExpr
