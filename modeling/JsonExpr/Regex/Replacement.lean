import JsonExpr.Regex.Matching

-- Replacing every match in a text. A replacement may refer to the match, to its groups, and to the
-- text on both sides; a doubled dollar sign stands for one.
namespace JsonExpr

namespace Regex

-- A match with the text around it.
structure Match where
  before : List Char
  matched : List Char
  after : List Char
  groups : List (List Char)

-- The match of a given length that begins at a position of a text.
def Match.of (text : List Char) (position length : Nat) (groups : List (List Char)) : Match where
  before := text.take position
  matched := (text.drop position).take length
  after := text.drop (position + length)
  groups

theorem Match.of_whole (text : List Char) (position length : Nat) (groups : List (List Char)) :
    let m := Match.of text position length groups
    m.before ++ m.matched ++ m.after = text := by
  simp only [Match.of, ← List.drop_drop, List.append_assoc, List.take_append_drop]

-- The text of a group, if the pattern has it. Groups are counted from one.
def Match.group? (m : Match) : Nat → Option (List Char)
  | 0 => none
  | n + 1 => m.groups[n]?

-- A reference of one digit stays as it is if there is no such group.
def expandDigit (m : Match) (c : Char) (digit : Nat) : List Char :=
  (m.group? digit).getD ['$', c]

-- A reference of two digits is one of one digit and a character if there is no such group.
def expandDigits (m : Match) (c d : Char) (tens ones : Nat) : List Char :=
  match m.group? (10 * tens + ones) with
  | some text => text
  | none => expandDigit m c tens ++ [d]

-- The replacement with its references filled in.
def expand (m : Match) : List Char → List Char
  | [] => []
  | '$' :: '$' :: rest => '$' :: expand m rest
  | '$' :: '&' :: rest => m.matched ++ expand m rest
  | '$' :: '\x60' :: rest => m.before ++ expand m rest
  | '$' :: '\'' :: rest => m.after ++ expand m rest
  | '$' :: c :: d :: rest =>
    match decimalDigit? c, decimalDigit? d with
    | some tens, some ones => expandDigits m c d tens ones ++ expand m rest
    | some digit, none => expandDigit m c digit ++ expand m (d :: rest)
    | none, _ => '$' :: expand m (c :: d :: rest)
  | ['$', c] =>
    match decimalDigit? c with
    | some digit => expandDigit m c digit
    | none => '$' :: expand m [c]
  | c :: rest => c :: expand m rest

-- The text from a position on with every match replaced. The search for a match begins where the
-- one before it ends, and does not find an empty match there if that was empty too.
def replaceFrom (regex : Regex) (replace : Match → List Char) (text : List Char) :
    Nat → Nat → Bool → List Char
  | 0, position, _ => text.drop position
  | rounds + 1, position, strict =>
    match regex.search? text position strict with
    | none => text.drop position
    | some found =>
      let first := position + found.skipped
      (text.drop position).take found.skipped ++
        replace (.of text first found.length found.groups) ++
          replaceFrom regex replace text rounds (first + found.length) (found.length == 0)

-- At every position there are two matches at most, and only the first of them can be empty.
def replaceAll (regex : Regex) (replace : Match → List Char) (text : List Char) : List Char :=
  regex.replaceFrom replace text (2 * (text.length + 1)) 0 false

end Regex

end JsonExpr
