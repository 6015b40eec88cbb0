import JsonExpr.Regex.Charset

-- The syntax of regular expressions, and how many characters a part of one can match.
namespace JsonExpr

namespace Regex

inductive Anchor where
  | lineStart
  | lineEnd
  | textStart
  | textEnd
  | boundary
  | notBoundary
deriving Repr, DecidableEq

-- How a repetition chooses its length: as long as possible, as short as possible, or as long as
-- possible without ever giving any of it back.
inductive Manner where
  | greedy
  | lazy
  | possessive
deriving Repr, DecidableEq

inductive Node where
  | code (code : Nat) (negated : Bool)
  | anyChar
  | charset (items : List CharItem) (negated : Bool)
  | anchor (anchor : Anchor)
  | sequence (nodes : List Node)
  | choice (alternatives : List Node)
  -- a part whose text is captured
  | group (index : Nat) (body : Node)
  -- a part with flags of its own
  | scope (on off : Flags) (body : Node)
  -- a part that is matched once and for all
  | atomic (body : Node)
  | repetition (least : Nat) (most : Option Nat) (manner : Manner) (body : Node)
  | lookAhead (negated : Bool) (body : Node)
  | lookBehind (negated : Bool) (distance : Nat) (body : Node)
  -- the text that a group has captured
  | reference (index : Nat)
  -- one of two parts, depending on whether a group has captured
  | conditional (index : Nat) (yes no : Node)

-- The least and the greatest number of characters; the greatest may be unbounded.
structure Width where
  least : Nat
  most : Option Nat
deriving Repr, DecidableEq

namespace Width

def exactly (n : Nat) : Width := ⟨n, some n⟩

def add (v w : Width) : Width where
  least := v.least + w.least
  most := do return (← v.most) + (← w.most)

def union (v w : Width) : Width where
  least := min v.least w.least
  most := do return max (← v.most) (← w.most)

def times (w : Width) (least : Nat) (most : Option Nat) : Width where
  least := w.least * least
  most := if w.most = some 0 ∨ most = some 0 then some 0 else do return (← w.most) * (← most)

-- How far a look-behind can reach back.
def furthest : Nat := Nat.pow 2 32 - 1

-- The number of characters, if it is always the same and not too large.
def fixed? (w : Width) : Option Nat :=
  if w.most = some w.least ∧ w.least ≤ furthest then some w.least else none

end Width

-- The widths of the groups that are closed, by index.
abbrev GroupWidths := List (Nat × Width)

mutual

def Node.width (groups : GroupWidths) : Node → Width
  | .code _ _ | .anyChar | .charset _ _ => .exactly 1
  | .anchor _ | .lookAhead _ _ | .lookBehind _ _ _ => .exactly 0
  | .sequence nodes => sequenceWidth groups nodes
  | .choice nodes => choiceWidth groups nodes
  | .group _ body | .scope _ _ body | .atomic body => body.width groups
  | .repetition least most _ body => (body.width groups).times least most
  | .reference index => (groups.lookup index).getD (.exactly 0)
  | .conditional _ yes no => (yes.width groups).union (no.width groups)

def sequenceWidth (groups : GroupWidths) : List Node → Width
  | [] => .exactly 0
  | node :: rest => (node.width groups).add (sequenceWidth groups rest)

def choiceWidth (groups : GroupWidths) : List Node → Width
  | [] => .exactly 0
  | [node] => node.width groups
  | node :: rest => (node.width groups).union (choiceWidth groups rest)

end

end Regex

end JsonExpr
