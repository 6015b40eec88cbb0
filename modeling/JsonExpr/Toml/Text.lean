-- Keys and texts of TOML documents. Readers fail on anything that is not valid.
namespace JsonExpr

namespace Toml

abbrev Reader := StateT (List Char) Option

namespace Reader

def peek? : Reader (Option Char) := do return (← get).head?

def next : Reader Char := do
  match ← get with
  | [] => failure
  | c :: rest =>
    set rest
    return c

-- Takes a text if it comes next.
def accept (text : List Char) : Reader Bool := do
  let rest ← get
  if text.isPrefixOf rest then
    set (rest.drop text.length)
    return true
  else return false

def expect (text : List Char) : Reader Unit := do
  if !(← accept text) then failure

def takeWhile (test : Char → Bool) : Reader (List Char) := do
  let rest ← get
  set (rest.dropWhile test)
  return rest.takeWhile test

def left : Reader Nat := do return (← get).length

end Reader

open Reader

def isBlank (c : Char) : Bool := c == ' ' || c == '\t'

def isBlankOrNewline (c : Char) : Bool := isBlank c || c == '\n'

-- Control characters may stand nowhere in a text or a comment, apart from the tab.
def isIllegal (c : Char) : Bool := (c.toNat < 0x20 && c != '\t') || c.toNat == 0x7f

def isIllegalInLines (c : Char) : Bool := isIllegal c && c != '\n'

def skipBlanks : Reader Unit := do discard (takeWhile isBlank)

-- Skips a comment, but not the end of its line.
def skipComment : Reader Unit := do
  if ← accept ['#'] then
    let comment ← takeWhile (· != '\n')
    if comment.any isIllegal then failure

def isHexDigit (c : Char) : Bool := c.isDigit || ('a' ≤ c && c ≤ 'f') || ('A' ≤ c && c ≤ 'F')

def digitValue (c : Char) : Nat :=
  if c.isDigit then c.toNat - '0'.toNat
  else if 'a' ≤ c then c.toNat - 'a'.toNat + 10
  else c.toNat - 'A'.toNat + 10

def valueOf (base : Nat) (digits : List Char) : Nat :=
  digits.foldl (fun value c => base * value + digitValue c) 0

-- The character of a code with so many hexadecimal digits.
def codeEscape (count : Nat) : Reader (List Char) := do
  let digits := (← get).take count
  set ((← get).drop count)
  let code := valueOf 16 digits
  if digits.length = count ∧ digits.all isHexDigit ∧ code.isValidChar then
    return [Char.ofNat code]
  else failure

-- What an escape stands for, after its backslash. Over several lines, a backslash at the end of a
-- line stands for nothing and swallows all blanks and line ends after it.
def escape (lines : Bool) : Reader (List Char) := do
  let c ← next
  if lines && isBlankOrNewline c then
    if c != '\n' then
      skipBlanks
      match ← peek? with
      | none => return []
      | some '\n' => discard next
      | some _ => failure
    discard (takeWhile isBlankOrNewline)
    return []
  match c with
  | 'b' => return ['\x08']
  | 't' => return ['\t']
  | 'n' => return ['\n']
  | 'f' => return ['\x0c']
  | 'r' => return ['\r']
  | '"' => return ['"']
  | '\\' => return ['\\']
  | 'u' => codeEscape 4
  | 'U' => codeEscape 8
  | _ => failure

-- A text in double quotes, after the opening ones.
def quotedRest (lines : Bool) : Nat → Reader (List Char)
  | 0 => failure
  | limit + 1 => do
    if ← accept (if lines then ['"', '"', '"'] else ['"']) then return []
    let c ← next
    if c = '\\' then
      let escaped ← escape lines
      return escaped ++ (← quotedRest lines limit)
    else if if lines then isIllegalInLines c else isIllegal c then failure
    else return c :: (← quotedRest lines limit)

-- A text in single quotes, after the opening ones.
def literalRest (lines : Bool) : Nat → Reader (List Char)
  | 0 => failure
  | limit + 1 => do
    if ← accept (if lines then ['\'', '\'', '\''] else ['\'']) then return []
    let c ← next
    if if lines then isIllegalInLines c else isIllegal c then failure
    else return c :: (← literalRest lines limit)

-- Quotes right after the closing ones belong to the text, but no more than two.
def extraQuotes (mark : Char) : Reader (List Char) := do
  if ← accept [mark] then
    if ← accept [mark] then return [mark, mark] else return [mark]
  else return []

-- A text of several lines after the opening quotes; a line end in front of it does not count.
def linesRest (mark : Char) : Reader String := do
  discard (accept ['\n'])
  let limit := (← left) + 1
  let text ← if mark = '"' then quotedRest true limit else literalRest true limit
  return String.ofList (text ++ (← extraQuotes mark))

def lineRest (mark : Char) : Reader String := do
  let limit := (← left) + 1
  return String.ofList (← if mark = '"' then quotedRest false limit else literalRest false limit)

-- A text between quotes, or between three quotes on both sides.
def text (mark : Char) : Reader String := do
  if ← accept [mark, mark, mark] then linesRest mark
  else do
    expect [mark]
    lineRest mark

def isBareKeyChar (c : Char) : Bool := c.isAlphanum || c == '-' || c == '_'

def keyPart : Reader String := do
  match ← peek? with
  | some '"' =>
    discard next
    lineRest '"'
  | some '\'' =>
    discard next
    lineRest '\''
  | _ =>
    let name ← takeWhile isBareKeyChar
    if name.isEmpty then failure else return String.ofList name

abbrev Key := List String

def keyRest : Nat → Reader Key
  | 0 => failure
  | limit + 1 => do
    skipBlanks
    if ← accept ['.'] then
      skipBlanks
      let part ← keyPart
      return part :: (← keyRest limit)
    else return []

-- A key of one or more parts with points between them.
def key : Reader (String × Key) := do
  let part ← keyPart
  return (part, ← keyRest ((← left) + 1))

end Toml

end JsonExpr
