import JsonExpr.Number.Basic
import JsonExpr.Toml.Text
import JsonExpr.Value.Basic

-- Values of TOML documents: texts, booleans, numbers, dates and times, arrays and inline tables. No
-- setting is a date or a time, so they are only checked and stand for null.
namespace JsonExpr

namespace Toml

open Reader

-- A number of two digits between bounds, and what follows it.
def twoDigits? (low high : Nat) : List Char → Option (Nat × List Char)
  | c :: d :: rest =>
    let n := valueOf 10 [c, d]
    if c.isDigit && d.isDigit && low ≤ n && n ≤ high then some (n, rest) else none
  | _ => none

def mark? (c : Char) : List Char → Option (List Char)
  | d :: rest => if c = d then some rest else none
  | [] => none

-- What follows a time of day.
def afterTime? (source : List Char) : Option (List Char) := do
  let (_, rest) ← twoDigits? 0 23 source
  let (_, rest) ← twoDigits? 0 59 (← mark? ':' rest)
  let (_, rest) ← twoDigits? 0 59 (← mark? ':' rest)
  match rest with
  | '.' :: c :: fraction =>
    if c.isDigit then some (fraction.dropWhile Char.isDigit) else some rest
  | _ => some rest

def afterOffset (source : List Char) : List Char :=
  match source with
  | [] => []
  | c :: rest =>
    if c = 'Z' ∨ c = 'z' then rest
    else if c = '+' ∨ c = '-' then
      let after := do
        let (_, rest) ← twoDigits? 0 23 rest
        let (_, rest) ← twoDigits? 0 59 (← mark? ':' rest)
        return rest
      after.getD source
    else source

-- What follows the time of day that may come after a date.
def afterDate (source : List Char) : List Char :=
  match source with
  | [] => []
  | c :: rest =>
    if c = 'T' ∨ c = 't' ∨ c = ' ' then
      match afterTime? rest with
      | some rest => afterOffset rest
      | none => source
    else source

def isLeap (year : Nat) : Bool := year % 4 == 0 && (year % 100 != 0 || year % 400 == 0)

def daysIn (year month : Nat) : Nat :=
  if month = 2 then (if isLeap year then 29 else 28)
  else if month = 4 ∨ month = 6 ∨ month = 9 ∨ month = 11 then 30
  else 31

-- The year, the month and the day of a date, and what follows it.
def date? (source : List Char) : Option (Nat × Nat × Nat × List Char) := do
  let (century, rest) ← twoDigits? 0 99 source
  let (year, rest) ← twoDigits? 0 99 rest
  let (month, rest) ← twoDigits? 1 12 (← mark? '-' rest)
  let (day, rest) ← twoDigits? 1 31 (← mark? '-' rest)
  return (100 * century + year, month, day, rest)

-- Digits with single underscores between them, and what follows them.
def digitsFrom (test : Char → Bool) : List Char → List Char × List Char
  | [] => ([], [])
  | ['_'] => ([], ['_'])
  | '_' :: c :: rest =>
    if test c then
      let (digits, after) := digitsFrom test rest
      (c :: digits, after)
    else ([], '_' :: c :: rest)
  | c :: rest =>
    if test c then
      let (digits, after) := digitsFrom test rest
      (c :: digits, after)
    else ([], c :: rest)

def digits? (test : Char → Bool) : List Char → Option (List Char × List Char)
  | [] => none
  | c :: rest =>
    if test c then
      let (digits, after) := digitsFrom test rest
      some (c :: digits, after)
    else none

-- A whole number in another base than ten.
def basedNumber? : List Char → Option (Value × List Char)
  | '0' :: mark :: rest => do
    let (base, test) ←
      if mark = 'x' then some (16, isHexDigit)
      else if mark = 'o' then some (8, fun c : Char => '0' ≤ c && c ≤ '7')
      else if mark = 'b' then some (2, fun c : Char => c == '0' || c == '1')
      else none
    let (digits, after) ← digits? test rest
    return (.int (valueOf base digits), after)
  | _ => none

-- The whole part of a decimal number has no leading zeros.
def wholePart? : List Char → Option (List Char × List Char)
  | '0' :: rest => some (['0'], rest)
  | source => digits? Char.isDigit source

def fraction? : List Char → Option (List Char × List Char)
  | '.' :: rest => digits? Char.isDigit rest
  | _ => none

def sign : List Char → Bool × List Char
  | '-' :: rest => (true, rest)
  | '+' :: rest => (false, rest)
  | source => (false, source)

def exponent? : List Char → Option (Int × List Char)
  | c :: rest =>
    if c = 'e' ∨ c = 'E' then do
      let (negative, rest) := sign rest
      let (digits, after) ← digits? Char.isDigit rest
      return (Parts.signed negative (valueOf 10 digits), after)
    else none
  | [] => none

def decimalNumber? (source : List Char) : Option (Value × List Char) := do
  let (negative, rest) := sign source
  let (whole, rest) ← wholePart? rest
  let fraction := fraction? rest
  let (places, rest) := fraction.getD ([], rest)
  let power := exponent? rest
  let (exponent, rest) := power.getD (0, rest)
  if fraction.isNone && power.isNone then
    return (.int (Parts.signed negative (valueOf 10 whole)), rest)
  else
    let x := floatOfDecimal negative (valueOf 10 (whole ++ places)) (exponent - places.length)
    return (.float x, rest)

-- An infinity, or the value that is no number.
def specialNumber? (source : List Char) : Option (Value × List Char) :=
  let (negative, rest) := sign source
  match rest with
  | 'i' :: 'n' :: 'f' :: rest => some (.float (nearestFloat negative (Nat.pow 2 1024) 1), rest)
  | 'n' :: 'a' :: 'n' :: rest => some (.float (0.0 / 0.0), rest)
  | _ => none

def number? (source : List Char) : Option (Value × List Char) :=
  basedNumber? source <|> decimalNumber? source <|> specialNumber? source

-- A date, a time or a number. A date has to exist.
def plainValue : Reader Value := do
  let source ← get
  match date? source, afterTime? source with
  | some (year, month, day, rest), _ =>
    if year = 0 ∨ daysIn year month < day then failure
    set (afterDate rest)
    return .null
  | none, some rest =>
    set rest
    return .null
  | none, none =>
    let (value, rest) ← number? source
    set rest
    return value

-- A table under construction.
abbrev Table := Fields Value

namespace Table

-- Changes the table at a path, and makes the tables on the way if need be. Where a list of tables
-- lies on the way, its last one is taken, if that is allowed.
def update (throughLists : Bool) (change : Table → Option Table) : Key → Table → Option Table
  | [], table => change table
  | part :: rest, table =>
    match Fields.find? part table with
    | none => do return table.insert part (.object (← update throughLists change rest []))
    | some (.object inner) => do
      return table.insert part (.object (← update throughLists change rest inner))
    | some (.array items) =>
      match throughLists, items.getLast? with
      | true, some (.object inner) => do
        let changed ← update throughLists change rest inner
        return table.insert part (.array (items.dropLast ++ [.object changed]))
      | _, _ => none
    | some _ => none

-- Gives a part of a key its value, which it must not have yet.
def define (part : String) (value : Value) (table : Table) : Option Table :=
  if Fields.contains part table then none else some (table.insert part value)

-- Appends an empty table to a list of tables.
def append (part : String) (table : Table) : Option Table :=
  match Fields.find? part table with
  | none => some (table.insert part (.array [.object []]))
  | some (.array items) => some (table.insert part (.array (items ++ [.object []])))
  | some _ => none

end Table

def isContainer : Value → Bool
  | .array _ => true
  | .object _ => true
  | _ => false

-- Whether one of some keys leads to a key or is it.
def isInside (closed : List Key) (key : Key) : Bool := closed.any fun outer => outer.isPrefixOf key

def skipSpace : Nat → Reader Unit
  | 0 => pure ()
  | limit + 1 => do
    let before ← left
    discard (takeWhile isBlankOrNewline)
    skipComment
    if (← left) < before then skipSpace limit

-- Blanks, line ends and comments between the items of an array.
def skipArraySpace : Reader Unit := do skipSpace ((← left) + 1)

mutual

def value : Nat → Reader Value
  | 0 => failure
  | limit + 1 => do
    match ← peek? with
    | some '"' => return .string (← text '"')
    | some '\'' => return .string (← text '\'')
    | some '[' =>
      discard next
      skipArraySpace
      arrayItems limit []
    | some '\x7b' =>
      discard next
      skipBlanks
      if ← accept ['\x7d'] then return .object [] else inlineEntries limit [] []
    | _ =>
      if ← accept "true".toList then return .bool true
      else if ← accept "false".toList then return .bool false
      else plainValue

-- The items of an array before its closing bracket, which may follow a comma.
def arrayItems : Nat → List Value → Reader Value
  | 0, _ => failure
  | limit + 1, items => do
    if ← accept [']'] then return .array items.reverse
    let item ← value limit
    skipArraySpace
    if ← accept [','] then
      skipArraySpace
      arrayItems limit (item :: items)
    else
      expect [']']
      return .array (item :: items).reverse

-- The entries of an inline table, all on one line. A container is closed once it is complete.
def inlineEntries : Nat → Table → List Key → Reader Value
  | 0, _, _ => failure
  | limit + 1, table, closed => do
    let (first, others) ← key
    let path := first :: others
    expect ['=']
    skipBlanks
    let item ← value limit
    if isInside closed path then failure
    let table ← Table.update false (Table.define (path.getLastD "") item) path.dropLast table
    skipBlanks
    if ← accept ['\x7d'] then return .object table
    expect [',']
    skipBlanks
    inlineEntries limit table (if isContainer item then path :: closed else closed)

end

end Toml

end JsonExpr
