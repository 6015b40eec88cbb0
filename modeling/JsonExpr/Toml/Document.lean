import JsonExpr.Toml.Element

-- TOML documents: entries under table headers, read line by line into one table.
namespace JsonExpr

namespace Toml

open Reader

structure Document where
  table : Table := []
  -- the table that entries go into
  header : Key := []
  -- tables that have been opened and cannot be opened again
  opened : List Key := []
  -- tables that become so at the next header
  pending : List Key := []
  -- inline containers, which cannot be changed from outside
  frozen : List Key := []

namespace Document

-- All keys that lead to a key, the shortest first, without the empty one and the key itself.
def leading (key : Key) : List Key :=
  (List.range (key.length - 1)).map fun i => key.take (i + 1)

def entry (document : Document) : Reader Document := do
  let (first, others) ← key
  let path := first :: others
  expect ['=']
  skipBlanks
  let item ← value ((← left) + 1)
  let parent := document.header ++ path.dropLast
  let passed := (leading path).map fun part => document.header ++ part
  if passed.any document.opened.contains || isInside document.frozen parent then failure
  let table ← Table.update true (Table.define (path.getLastD "") item) parent document.table
  return { document with
    table
    pending := passed ++ document.pending
    frozen :=
      if isContainer item then (document.header ++ path) :: document.frozen else document.frozen }

-- What is pending takes effect.
def settle (document : Document) : Document :=
  { document with opened := document.pending ++ document.opened, pending := [] }

-- A header that opens a table.
def tableHeader (document : Document) : Reader Document := do
  skipBlanks
  let (first, others) ← key
  let path := first :: others
  if document.opened.contains path || isInside document.frozen path then failure
  let table ← Table.update true some path document.table
  expect [']']
  return { document with table, header := path, opened := path :: document.opened }

-- A header that appends a table to a list of tables. The tables inside the one before it do not
-- stand in the way of those inside the new one.
def listHeader (document : Document) : Reader Document := do
  skipBlanks
  let (first, others) ← key
  let path := first :: others
  if isInside document.frozen path then failure
  let table ← Table.update true (Table.append (path.getLastD "")) path.dropLast document.table
  expect [']', ']']
  let outside := fun (inner : Key) => !path.isPrefixOf inner
  return { document with
    table
    header := path
    opened := path :: document.opened.filter outside
    frozen := document.frozen.filter outside }

-- One line without its end, or more if a value takes several.
def statement (document : Document) : Reader Document := do
  match ← peek? with
  | none => return document
  | some '\n' => return document
  | some '#' => return document
  | some '[' =>
    let document := document.settle
    let document ←
      if ← accept ['[', '['] then document.listHeader
      else do
        discard next
        document.tableHeader
    skipBlanks
    return document
  | some _ =>
    let document ← document.entry
    skipBlanks
    return document

def statements : Nat → Document → Reader Document
  | 0, _ => failure
  | limit + 1, document => do
    skipBlanks
    let document ← document.statement
    skipComment
    match ← peek? with
    | none => return document
    | some '\n' =>
      discard next
      statements limit document
    | some _ => failure

end Document

-- Line ends of two characters count as one.
def joinLineEnds : List Char → List Char
  | '\r' :: '\n' :: rest => '\n' :: joinLineEnds rest
  | c :: rest => c :: joinLineEnds rest
  | [] => []

-- The table of a document, if the document is valid.
def read? (source : String) : Option (Fields Value) := do
  let source := joinLineEnds source.toList
  let (document, _) ← (Document.statements (source.length + 1) {}).run source
  return document.table

end Toml

end JsonExpr
