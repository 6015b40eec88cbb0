import JsonExpr.Regex.Lexeme

-- Regular expressions read from patterns. Brackets are matched by a stack: what is complete of the
-- part outside a bracket waits until the bracket closes.
namespace JsonExpr

structure Regex where
  node : Regex.Node
  flags : Regex.Flags
  -- how many groups capture
  groups : Nat

namespace Regex

-- The part outside an open bracket, with its alternatives and its last sequence in reverse.
structure Suspended where
  bracket : Bracket
  -- the number of the group, if the bracket captures
  index : Nat
  alternatives : List Node
  nodes : List Node
  visible : Option Nat

-- A pattern of which some lexemes are read.
structure Progress where
  alternatives : List Node := []
  nodes : List Node := []
  suspended : List Suspended := []
  flags : Flags := {}
  -- how many groups are open or closed
  opened : Nat := 0
  -- the groups that are closed
  widths : GroupWidths := []
  names : List (String × Nat) := []
  -- inside a look-behind, only groups below this number can be referred to
  visible : Option Nat := none
  -- the highest number that a condition asks for
  condition : Nat := 0
  repeats : Bool := false
  -- whether a look-behind has no fixed width
  unbounded : Bool := false

namespace Progress

def push (p : Progress) (node : Node) : Progress := { p with nodes := node :: p.nodes }

def isClosed (p : Progress) (index : Nat) : Bool := (p.widths.lookup index).isSome

-- Whether a look-behind around the place lets a group be referred to.
def isVisible (p : Progress) (index : Nat) : Bool :=
  match p.visible with
  | none => true
  | some limit => p.isClosed index && index < limit

def index? (p : Progress) : GroupName → Option Nat
  | .number n => some n
  | .name name => p.names.lookup name

-- Only a closed group can be referred to.
def reference (p : Progress) (group : GroupName) : Except Defect Progress :=
  match p.index? group with
  | some index =>
    if p.isClosed index && p.isVisible index then .ok (p.push (.reference index))
    else .error .malformed
  | none => .error .malformed

-- A quantifier applies to the last node, which is neither an anchor nor a repetition.
def quantify (p : Progress) (least : Nat) (most : Option Nat) (manner : Manner) :
    Except Defect Progress :=
  match p.nodes with
  | [] => .error .malformed
  | .anchor _ :: _ => .error .malformed
  | .repetition _ _ _ _ :: _ => .error .malformed
  | node :: rest =>
    .ok { p with nodes := .repetition least most manner node :: rest, repeats := true }

-- Ends an alternative. A condition has two at most.
def divide (p : Progress) : Except Defect Progress :=
  let divided :=
    { p with alternatives := .sequence p.nodes.reverse :: p.alternatives, nodes := [] }
  match p.suspended, p.alternatives with
  | { bracket := .conditional _, .. } :: _, _ :: _ => .error .malformed
  | _, _ => .ok divided

-- Sets what is read so far aside.
def suspend (p : Progress) (bracket : Bracket) (index : Nat) : Progress :=
  { p with
    alternatives := []
    nodes := []
    suspended := ⟨bracket, index, p.alternatives, p.nodes, p.visible⟩ :: p.suspended }

def openBracket (p : Progress) (bracket : Bracket) : Except Defect Progress :=
  match bracket with
  | .capture name => do
    let index := p.opened + 1
    let names ← match name with
      | none => pure p.names
      | some name =>
        if (p.names.lookup name).isSome then throw .malformed else pure ((name, index) :: p.names)
    return { p with opened := index, names }.suspend bracket index
  | .lookBehind _ =>
    return { p.suspend bracket 0 with visible := some (p.visible.getD (p.opened + 1)) }
  | .conditional group =>
    match p.index? group with
    | none => throw .malformed
    | some index =>
      if p.isVisible index then
        return { p with condition := max p.condition index }.suspend bracket index
      else throw .malformed
  | _ => return p.suspend bracket 0

-- All alternatives as one node.
def node (p : Progress) : Node :=
  match (Node.sequence p.nodes.reverse :: p.alternatives).reverse with
  | [single] => single
  | alternatives => .choice alternatives

-- What follows a bracket that has been closed.
def resume (p : Progress) (outside : Suspended) (node : Node) : Progress :=
  { p with
    alternatives := outside.alternatives
    nodes := node :: outside.nodes
    visible := outside.visible }

-- Closes the last open bracket.
def closeBracket (p : Progress) (outside : Suspended) (later : List Suspended) : Progress :=
  let body := p.node
  let p := { p with suspended := later }
  match outside.bracket with
  | .capture _ =>
    { p.resume outside (.group outside.index body) with
      widths := (outside.index, body.width p.widths) :: p.widths }
  | .scope on off => p.resume outside (.scope on off body)
  | .atomic => p.resume outside (.atomic body)
  | .lookAhead negated => p.resume outside (.lookAhead negated body)
  | .lookBehind negated =>
    match (body.width p.widths).fixed? with
    | some distance => p.resume outside (.lookBehind negated distance body)
    | none => { p.resume outside (.lookBehind negated 0 body) with unbounded := true }
  | .conditional _ =>
    match p.alternatives with
    | [] => p.resume outside (.conditional outside.index body (.sequence []))
    | yes :: _ => p.resume outside (.conditional outside.index yes (.sequence p.nodes.reverse))

def step (p : Progress) : Lexeme → Except Defect Progress
  | .atom node => .ok (p.push node)
  | .reference group => p.reference group
  | .quantifier least most manner => p.quantify least most manner
  | .bar => p.divide
  | .opening bracket => p.openBracket bracket
  | .closing =>
    match p.suspended with
    | [] => .error .malformed
    | outside :: later => .ok (p.closeBracket outside later)
  | .setting flags =>
    if p.suspended.isEmpty && p.alternatives.isEmpty && p.nodes.isEmpty then
      .ok { p with flags := p.flags.union flags }
    else .error .malformed
  | .defect defect => .error defect

def finish (p : Progress) : Except Defect Regex := do
  unless p.suspended.isEmpty do throw .malformed
  if p.flags.ascii && p.flags.unicode then throw .contradictory
  if p.opened < p.condition then throw .malformed
  if p.unbounded || (p.repeats && p.flags.template) then throw .malformed
  return ⟨p.node, p.flags, p.opened⟩

end Progress

-- The regular expression of a pattern under flags that are in force from the start.
def ofPattern (flags : Flags) (pattern : List Char) : Except Defect Regex := do
  let p ← (lexemes pattern).foldlM Progress.step { flags }
  p.finish

-- A leading marker of flags is set apart from the pattern. Of its letters only those for case,
-- lines and the dot count.
def splitMarker (pattern : List Char) : Flags × List Char :=
  match pattern with
  | '(' :: '?' :: rest =>
    let letters := rest.takeWhile Char.isAlpha
    match rest.dropWhile Char.isAlpha with
    | ')' :: rest =>
      ({ ignoreCase := letters.contains 'i', multiline := letters.contains 'm',
         dotAll := letters.contains 's' }, rest)
    | _ => ({}, pattern)
  | _ => ({}, pattern)

end Regex

end JsonExpr
