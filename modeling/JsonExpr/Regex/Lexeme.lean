import JsonExpr.Regex.Syntax
import JsonExpr.Text.Identifier
import JsonExpr.Text.Integer

-- The lexemes of a regular expression: atoms, quantifiers, brackets and bars. A backslash belongs
-- to the character after it everywhere, even in comments and names. Characters cannot be given by
-- their names.
namespace JsonExpr

namespace Regex

-- What is wrong with a pattern.
inductive Defect where
  | malformed
  -- a number in it is out of range
  | tooLarge
  -- it asks for the classes of ASCII and for those of Unicode
  | contradictory
deriving Repr, DecidableEq

inductive Token where
  | plain (c : Char)
  | escaped (c : Char)
  -- a backslash at the end
  | dangling
deriving Repr, DecidableEq

def tokens : List Char → List Token
  | [] => []
  | ['\\'] => [.dangling]
  | '\\' :: c :: rest => .escaped c :: tokens rest
  | c :: rest => .plain c :: tokens rest

-- A group that is referred to by its number or by its name.
inductive GroupName where
  | number (n : Nat)
  | name (name : String)
deriving Repr, DecidableEq

inductive Bracket where
  | capture (name : Option String)
  | scope (on off : Flags)
  | atomic
  | lookAhead (negated : Bool)
  | lookBehind (negated : Bool)
  | conditional (group : GroupName)
deriving Repr, DecidableEq

inductive Lexeme where
  | atom (node : Node)
  | reference (group : GroupName)
  | quantifier (least : Nat) (most : Option Nat) (manner : Manner)
  | opening (bracket : Bracket)
  | closing
  | bar
  | setting (flags : Flags)
  | defect (defect : Defect)

-- Readers of the tokens that are left.
abbrev Reader := StateT (List Token) (Except Defect)

namespace Reader

def malformed {α : Type} : Reader α := throw .malformed

def next? : Reader (Option Token) := do
  match ← get with
  | [] => return none
  | .dangling :: _ => malformed
  | token :: rest =>
    set rest
    return some token

-- The next token, which has to be a plain character.
def plainChar : Reader Char := do
  match ← next? with
  | some (.plain c) => return c
  | _ => malformed

-- Takes the next token if it is a given plain character.
def accept (c : Char) : Reader Bool := do
  match ← get with
  | .plain d :: rest => if c = d then set rest; return true else return false
  | _ => return false

-- Plain characters that pass a test, but no more than a limit.
def takeChars (test : Char → Bool) : Nat → Reader (List Char)
  | 0 => return []
  | limit + 1 => do
    match ← get with
    | .plain c :: rest =>
      if test c then
        set rest
        return c :: (← takeChars test limit)
      else return []
    | _ => return []

def tokensLeft : Reader Nat := do return (← get).length

-- The characters up to an end mark, which is taken too. There has to be one character at least.
def takeUntil (mark : Char) : Reader (List Char) := do
  let name ← takeChars (· != mark) (← tokensLeft)
  if !name.isEmpty && (← accept mark) then return name else malformed

def isOctalDigit (c : Char) : Bool := '0' ≤ c && c ≤ '7'

def isHexDigit (c : Char) : Bool := c.isDigit || ('a' ≤ c && c ≤ 'f') || ('A' ≤ c && c ≤ 'F')

def digitValue (c : Char) : Nat :=
  if c.isDigit then c.toNat - '0'.toNat
  else if 'a' ≤ c then c.toNat - 'a'.toNat + 10
  else c.toNat - 'A'.toNat + 10

def valueOf (base : Nat) (digits : List Char) : Nat :=
  digits.foldl (fun value c => base * value + digitValue c) 0

def hexCode (count : Nat) : Reader Nat := do
  let digits ← takeChars isHexDigit count
  if digits.length = count then return valueOf 16 digits else malformed

-- A code of eight digits has to be one of a character.
def longCode : Reader Nat := do
  let code ← hexCode 8
  if Nat.pow 2 31 ≤ code then throw .tooLarge
  else if 0x110000 ≤ code then malformed
  else return code

-- An octal escape of at most one byte, from its first digit.
def octalCode (first : Char) : Reader Nat := do
  let code := valueOf 8 (first :: (← takeChars isOctalDigit 2))
  if code ≤ 0xff then return code else malformed

def charClass? : Char → Option CharItem
  | 'd' => some (.charClass .digit false)
  | 'D' => some (.charClass .digit true)
  | 's' => some (.charClass .blank false)
  | 'S' => some (.charClass .blank true)
  | 'w' => some (.charClass .word false)
  | 'W' => some (.charClass .word true)
  | _ => none

-- The code of an escape that stands for one wherever it is. Other letters have no meaning here. For
-- one of them that is a restriction: an N with the name of a character in braces is not read, since
-- there is no table of the names, and a pattern that has one is refused as malformed.
def escapedCode (c : Char) : Reader Nat :=
  match c with
  | 'a' => return 0x07
  | 'f' => return 0x0c
  | 'n' => return 0x0a
  | 'r' => return 0x0d
  | 't' => return 0x09
  | 'v' => return 0x0b
  | 'x' => hexCode 2
  | 'u' => hexCode 4
  | 'U' => longCode
  | _ => if c.isAlpha then malformed else return c.toNat

-- A member of a set, or one end of a range.
def setMember : Token → Reader CharItem
  | .plain c => return .code c.toNat
  | .dangling => malformed
  | .escaped 'b' => return .code 0x08
  | .escaped c =>
    match charClass? c with
    | some item => return item
    | none => do
      if isOctalDigit c then return .code (← octalCode c)
      else if c.isDigit then malformed
      else return .code (← escapedCode c)

-- The members of a set from one on that has been read, with a way to go on. A hyphen makes a range
-- of it, but before the closing bracket it is a member.
def membersFrom (goOn : List CharItem → Reader (List CharItem)) (items : List CharItem)
    (first : CharItem) : Reader (List CharItem) := do
  if ← accept '-' then
    let some token ← next? | malformed
    if token = .plain ']' then return (.code '-'.toNat :: first :: items).reverse
    match first, ← setMember token with
    | .code low, .code high =>
      if low ≤ high then goOn (.range low high :: items) else malformed
    | _, _ => malformed
  else goOn (first :: items)

-- The members of a set up to its closing bracket, which does not close an empty one.
def setMembers : Nat → List CharItem → Reader (List CharItem)
  | 0, _ => malformed
  | limit + 1, items => do
    let some token ← next? | malformed
    if token = .plain ']' && !items.isEmpty then return items.reverse
    membersFrom (setMembers limit) items (← setMember token)

-- The node of a set. A set of one character is the character.
def setNode (negated : Bool) (items : List CharItem) : Node :=
  match items.eraseDups with
  | [.code n] => .code n negated
  | items => .charset items negated

-- A set after its opening bracket.
def charset : Reader Node := do
  let negated ← accept '^'
  return setNode negated (← setMembers (← tokensLeft) [])

-- A reference to a group of up to two digits, unless the digits are three octal ones.
def numberedGroup (first : Char) : Reader Lexeme := do
  match ← takeChars Char.isDigit 1 with
  | [second] =>
    let third ← if isOctalDigit first && isOctalDigit second then takeChars isOctalDigit 1
      else pure []
    match third with
    | [third] =>
      let code := valueOf 8 [first, second, third]
      if code ≤ 0xff then return .atom (.code code false) else malformed
    | _ => return .reference (.number (valueOf 10 [first, second]))
  | _ => return .reference (.number (valueOf 10 [first]))

def escape (c : Char) : Reader Lexeme :=
  match c with
  | 'A' => return .atom (.anchor .textStart)
  | 'Z' => return .atom (.anchor .textEnd)
  | 'b' => return .atom (.anchor .boundary)
  | 'B' => return .atom (.anchor .notBoundary)
  | '0' => do return .atom (.code (← octalCode '0') false)
  | _ =>
    match charClass? c with
    | some item => return .atom (.charset [item] false)
    | none => do
      if c.isDigit then numberedGroup c
      else return .atom (.code (← escapedCode c) false)

-- From this number on, a repetition cannot be asked for.
def repeatLimit : Nat := Nat.pow 2 32 - 1

def repeatCount (digits : List Char) : Reader Nat := do
  let count := valueOf 10 digits
  if count < repeatLimit then return count else throw .tooLarge

-- The bounds of a repetition after the opening brace, or nothing if the brace stands for itself.
def bounds? : Reader (Option (Nat × Option Nat)) := do
  if (← get).head? = some (.plain '}') then return none
  let left ← get
  let low ← takeChars Char.isDigit (← tokensLeft)
  let high ← if ← accept ',' then takeChars Char.isDigit (← tokensLeft) else pure low
  if !(← accept '}') then
    set left
    return none
  let least ← if low.isEmpty then pure 0 else repeatCount low
  if high.isEmpty then return some (least, none)
  let most ← repeatCount high
  if most < least then malformed else return some (least, some most)

def manner : Reader Manner := do
  if ← accept '?' then return .lazy
  else if ← accept '+' then return .possessive
  else return .greedy

def quantifier (least : Nat) (most : Option Nat) : Reader Lexeme := do
  return .quantifier least most (← manner)

def brace : Reader Lexeme := do
  match ← bounds? with
  | some (least, most) => quantifier least most
  | none => return .atom (.code 0x7b false)

def identifier (mark : Char) : Reader String := do
  let name ← takeUntil mark
  if isIdentifier name then return String.ofList name else malformed

-- The group of a condition: a name, or a positive number.
def conditionGroup : Reader GroupName := do
  let name ← takeUntil ')'
  if isIdentifier name then return .name (String.ofList name)
  match integer? name with
  | some (.ofNat (n + 1)) => return .number (n + 1)
  | _ => malformed

-- Flags turned on, from the first letter to the mark after the last one.
def flagsOn : Nat → Flags → Char → Reader (Flags × Char)
  | 0, _, _ => malformed
  | limit + 1, flags, c => do
    let some flag := Flags.letter? c | malformed
    let flags := flags.union flag
    if flags.ascii && flags.unicode then malformed
    let c ← plainChar
    if c = ')' || c = '-' || c = ':' then return (flags, c)
    flagsOn limit flags c

-- Flags turned off, up to the colon after the last one. The character classes cannot be turned off.
def flagsOff : Nat → Flags → Char → Reader Flags
  | 0, _, _ => malformed
  | limit + 1, flags, c => do
    let some flag := Flags.letter? c | malformed
    if flag.choosesClasses then malformed
    let flags := flags.union flag
    let c ← plainChar
    if c = ':' then return flags
    flagsOff limit flags c

-- A group with flags, or flags for the whole pattern.
def flagGroup (c : Char) : Reader Lexeme := do
  let limit := (← tokensLeft) + 1
  let (on, mark) ← if c = '-' then pure ({}, c) else flagsOn limit {} c
  if mark = ')' then return .setting on
  let off ← if mark = '-' then do flagsOff limit {} (← plainChar) else pure {}
  if on.template || off.template || on.meets off then malformed
  return .opening (.scope on off)

def lookBehind : Reader Lexeme := do
  match ← plainChar with
  | '=' => return .opening (.lookBehind false)
  | '!' => return .opening (.lookBehind true)
  | _ => malformed

def namedGroup : Reader Lexeme := do
  match ← plainChar with
  | '<' => return .opening (.capture (some (← identifier '>')))
  | '=' => return .reference (.name (← identifier ')'))
  | _ => malformed

-- Skips a comment and its closing bracket.
def comment : Reader Unit := do
  let rest := (← get).dropWhile (· != .plain ')')
  match rest with
  | [] => malformed
  | _ :: rest => set rest

-- What an opening bracket starts; a comment is nothing.
def bracket : Reader (Option Lexeme) := do
  if !(← accept '?') then return some (.opening (.capture none))
  match ← plainChar with
  | 'P' => return some (← namedGroup)
  | ':' => return some (.opening (.scope {} {}))
  | '#' =>
    comment
    return none
  | '=' => return some (.opening (.lookAhead false))
  | '!' => return some (.opening (.lookAhead true))
  | '<' => return some (← lookBehind)
  | '(' => return some (.opening (.conditional (← conditionGroup)))
  | '>' => return some (.opening .atomic)
  | c => return some (← flagGroup c)

def lexeme : Token → Reader (Option Lexeme)
  | .dangling => malformed
  | .escaped c => do return some (← escape c)
  | .plain c =>
    match c with
    | '.' => return some (.atom .anyChar)
    | '^' => return some (.atom (.anchor .lineStart))
    | '$' => return some (.atom (.anchor .lineEnd))
    | '|' => return some .bar
    | ')' => return some .closing
    | '(' => bracket
    | '[' => do return some (.atom (← charset))
    | '?' => do return some (← quantifier 0 (some 1))
    | '*' => do return some (← quantifier 0 none)
    | '+' => do return some (← quantifier 1 none)
    | '\x7b' => do return some (← brace)
    | _ => return some (.atom (.code c.toNat false))

end Reader

-- Characters that a verbose pattern may contain without meaning.
def isSkipped (token : Token) : Bool :=
  match token with
  | .plain c => c == ' ' || ('\t' ≤ c && c ≤ '\r')
  | _ => false

-- Whether a pattern is verbose after a bracket, if it is before.
def Bracket.verboseWithin (verbose : Bool) : Bracket → Bool
  | scope on off => (verbose || on.verbose) && !off.verbose
  | _ => verbose

-- The lexemes up to the end or to the first defect. The brackets that are open are known by whether
-- the pattern was verbose before them.
def lexemesFrom : Nat → Bool → List Bool → List Token → List Lexeme
  | 0, _, _, _ => []
  | _, _, _, [] => []
  | limit + 1, verbose, outer, token :: rest =>
    if verbose && isSkipped token then lexemesFrom limit verbose outer rest
    else if verbose && token = .plain '#' then
      lexemesFrom limit verbose outer (rest.dropWhile fun t => t != .plain '\n' && t != .dangling)
    else
      match (Reader.lexeme token).run rest with
      | .error defect => [.defect defect]
      | .ok (none, rest) => lexemesFrom limit verbose outer rest
      | .ok (some lexeme, rest) =>
        lexeme ::
          match lexeme with
          | .opening bracket =>
            lexemesFrom limit (bracket.verboseWithin verbose) (verbose :: outer) rest
          | .closing => lexemesFrom limit (outer.head?.getD verbose) outer.tail rest
          | .setting flags => lexemesFrom limit (verbose || flags.verbose) outer rest
          | _ => lexemesFrom limit verbose outer rest

-- Every step takes a token at least, so the number of tokens bounds the number of steps.
def lexemes (pattern : List Char) : List Lexeme :=
  let tokens := tokens pattern
  lexemesFrom tokens.length false [] tokens

end Regex

end JsonExpr
