-- Patterns with wildcards for whole texts, and their translation to regular expressions. A pattern
-- of the query language has a percent sign for any run of characters and an underscore for one
-- character; a pattern of the shell has an asterisk, a question mark, and classes of characters in
-- brackets.
namespace JsonExpr

inductive Wildcard where
  -- any characters, line ends included
  | run
  -- any one character
  | one
  | literal (c : Char)
  -- one character in a class, or one outside it; a class is never empty
  | charClass (negated : Bool) (first : Char) (more : List Char)
deriving Repr, DecidableEq

namespace Wildcard

-- The wildcards of a pattern of the query language.
def ofLike (pattern : List Char) : List Wildcard :=
  pattern.map fun c => if c = '%' then run else if c = '_' then one else literal c

-- What comes before the first closing bracket, and what comes after it.
def splitBracket? : List Char → Option (List Char × List Char)
  | [] => none
  | c :: rest =>
    if c = ']' then some ([], rest)
    else (splitBracket? rest).map fun (body, after) => (c :: body, after)

theorem splitBracket?_length {text body after : List Char}
    (h : splitBracket? text = some (body, after)) : after.length < text.length := by
  induction text generalizing body with
  | nil => simp [splitBracket?] at h
  | cons c rest ih =>
    simp only [splitBracket?] at h
    split at h
    · simp_all
    · obtain ⟨⟨inner, tail⟩, hrest, heq⟩ := Option.map_eq_some_iff.mp h
      simp only [Prod.mk.injEq] at heq
      obtain ⟨_, rfl⟩ := heq
      exact Nat.lt_succ_of_lt (ih hrest)

-- Whether a class is negated, and what follows the mark for that.
def splitNegation : List Char → Bool × List Char
  | '!' :: rest => (true, rest)
  | '^' :: rest => (true, rest)
  | text => (false, text)

theorem splitNegation_length (text : List Char) : (splitNegation text).2.length ≤ text.length := by
  unfold splitNegation
  split <;> simp

-- The class after an opening bracket and what follows it. The first character of a class never
-- closes it.
def splitClass? (text : List Char) : Option (Wildcard × List Char) :=
  match splitNegation text with
  | (negated, first :: rest) =>
    (splitBracket? rest).map fun (more, after) => (charClass negated first more, after)
  | (_, []) => none

theorem splitClass?_length {text after : List Char} {wildcard : Wildcard}
    (h : splitClass? text = some (wildcard, after)) : after.length < text.length := by
  have hle := splitNegation_length text
  unfold splitClass? at h
  split at h
  next first rest heq =>
    obtain ⟨⟨body, tail⟩, hrest, hpair⟩ := Option.map_eq_some_iff.mp h
    simp only [Prod.mk.injEq] at hpair
    obtain ⟨_, rfl⟩ := hpair
    have := splitBracket?_length hrest
    simp only [heq, List.length_cons] at hle
    omega
  next => simp at h

-- The wildcards of a pattern of the shell. An opening bracket without a closing one is a literal.
def ofGlob : List Char → List Wildcard
  | [] => []
  | '*' :: rest => run :: ofGlob rest
  | '?' :: rest => one :: ofGlob rest
  | '[' :: rest =>
    match h : splitClass? rest with
    | some (wildcard, after) =>
      have := splitClass?_length h
      wildcard :: ofGlob after
    | none => literal '[' :: ofGlob rest
  | c :: rest => literal c :: ofGlob rest
termination_by pattern => pattern.length
decreasing_by all_goals simp_wf <;> omega

-- Characters that a regular expression takes literally only after a backslash.
def reserved : List Char := "()[]\x7b\x7d?*+-|^$\\.&~# \t\n\r\x0b\x0c".toList

def escapeLiteral (c : Char) : List Char := if reserved.contains c then ['\\', c] else [c]

def escapeInClass (c : Char) : List Char :=
  if c = '\\' ∨ c = '[' ∨ c = ']' then ['\\', c] else [c]

-- The characters of a class in a regular expression, where a circumflex in front would negate it.
def classText (first : Char) (more : List Char) : List Char :=
  (if first = '^' then ['\\', '^'] else escapeInClass first) ++ more.flatMap escapeInClass

-- A wildcard as a part of a regular expression.
def toPattern : Wildcard → List Char
  | run => ['.', '*']
  | one => ['.']
  | literal c => escapeLiteral c
  | charClass negated first more =>
    '[' :: (if negated then ['^'] else []) ++ classText first more ++ [']']

-- Wildcards as a regular expression for whole texts.
def regexOf (wildcards : List Wildcard) : List Char :=
  '^' :: wildcards.flatMap toPattern ++ ['$']

end Wildcard

end JsonExpr
