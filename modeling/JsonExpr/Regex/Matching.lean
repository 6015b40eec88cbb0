import JsonExpr.Regex.Basic

-- Matching by backtracking. A part of a regular expression is run on a thread together with what is
-- to follow; the first way to match that lets the rest succeed is taken.
namespace JsonExpr

namespace Regex

-- A place in a text, and what the groups have captured on the way there.
structure Thread where
  -- the text before the place, the nearest character first
  before : List Char
  after : List Char
  position : Nat
  -- where groups were last entered and left
  entered : List (Nat × Nat) := []
  left : List (Nat × Nat) := []

namespace Thread

-- The start and the end of what a group has captured.
def span? (t : Thread) (group : Nat) : Option (Nat × Nat) := do
  let first ← t.entered.lookup group
  let last ← t.left.lookup group
  if first ≤ last then some (first, last) else none

def enter (t : Thread) (group : Nat) : Thread :=
  { t with entered := (group, t.position) :: t.entered }

def leave (t : Thread) (group : Nat) : Thread :=
  { t with left := (group, t.position) :: t.left }

-- The thread past one character that passes a test.
def advance? (t : Thread) (test : Char → Bool) : Option Thread :=
  match t.after with
  | [] => none
  | c :: rest =>
    if test c then
      some { t with before := c :: t.before, after := rest, position := t.position + 1 }
    else none

-- The thread past characters that are equal to the given ones.
def advanceAll? (t : Thread) (same : Char → Char → Bool) : List Char → Option Thread
  | [] => some t
  | c :: rest => do (← t.advance? (same c)).advanceAll? same rest

-- The thread some characters earlier.
def back? (t : Thread) : Nat → Option Thread
  | 0 => some t
  | n + 1 =>
    match t.before with
    | [] => none
    | c :: rest =>
      back? { t with before := rest, after := c :: t.after, position := t.position - 1 } n

-- The place of one thread with the captures of another.
def withCaptures (t other : Thread) : Thread :=
  { t with entered := other.entered, left := other.left }

end Thread

-- What matches a part and then whatever follows.
abbrev Matcher := Thread → (Thread → Option Thread) → Option Thread

namespace Matcher

-- The first way to match a part by itself.
def once (matcher : Matcher) (t : Thread) : Option Thread := matcher t some

def times (body : Matcher) : Nat → Matcher
  | 0, t, next => next t
  | n + 1, t, next => body t fun t => times body n t next

-- Up to so many more rounds, as many as possible. After a round that did not move the thread there
-- is no other.
def greedy (body : Matcher) (next : Thread → Option Thread) :
    Nat → Option Nat → Thread → Option Thread
  | 0, _, t => next t
  | n + 1, last, t =>
    if last = some t.position then next t
    else body t (greedy body next n (some t.position)) <|> next t

-- Up to so many more rounds, as few as possible.
def lazy (body : Matcher) (next : Thread → Option Thread) :
    Nat → Option Nat → Thread → Option Thread
  | 0, _, t => next t
  | n + 1, last, t =>
    next t <|>
      if last = some t.position then none else body t (lazy body next n (some t.position))

-- Exactly so many rounds, each matched once and for all.
def timesOnce (body : Matcher) : Nat → Thread → Option Thread
  | 0, t => some t
  | n + 1, t => do timesOnce body n (← body.once t)

-- Up to so many more rounds, each matched once and for all.
def roundsOnce (body : Matcher) : Nat → Option Nat → Thread → Thread
  | 0, _, t => t
  | n + 1, last, t =>
    if last = some t.position then t
    else
      match body.once t with
      | some later => roundsOnce body n (some t.position) later
      | none => t

-- How many rounds can follow the least number. Each but the last one moves the thread, so what is
-- left of the text bounds their number.
def roundsLeft (least : Nat) (most : Option Nat) (t : Thread) : Nat :=
  let bound := t.after.length + 1
  match most with
  | none => bound
  | some most => min (most - least) bound

def repetition (body : Matcher) (least : Nat) (most : Option Nat) (manner : Manner) : Matcher :=
  fun t next =>
    match manner with
    | .greedy => body.times least t fun t => body.greedy next (roundsLeft least most t) none t
    | .lazy => body.times least t fun t => body.lazy next (roundsLeft least most t) none t
    | .possessive => do
      let t ← body.timesOnce least t
      next (body.roundsOnce (roundsLeft least most t) none t)

-- Goes on from the same place if a part matches, or if it does not.
def look (body : Matcher) (negated : Bool) (start : Option Thread) : Matcher := fun t next =>
  match start.bind body.once with
  | some found => if negated then none else next (t.withCaptures found)
  | none => if negated then next t else none

end Matcher

def isWordAt (flags : Flags) : Option Char → Bool
  | some c => CharClass.word.contains flags c
  | none => false

-- Whether an anchor holds at a place. In an empty text there is neither a boundary nor a place that
-- is none.
def Anchor.holds (flags : Flags) (t : Thread) : Anchor → Bool
  | textStart => t.before.isEmpty
  | textEnd => t.after.isEmpty
  | lineStart => t.before.isEmpty || (flags.multiline && t.before.head? = some '\n')
  | lineEnd =>
    t.after.isEmpty || t.after = ['\n'] || (flags.multiline && t.after.head? = some '\n')
  | boundary => isWordAt flags t.before.head? != isWordAt flags t.after.head?
  | notBoundary =>
    !(t.before.isEmpty && t.after.isEmpty) &&
      isWordAt flags t.before.head? == isWordAt flags t.after.head?

def matchesCode (flags : Flags) (code : Nat) (c : Char) : Bool :=
  if flags.ignoreCase then sameWithoutCase flags code c.toNat else c.toNat = code

def sameChar (flags : Flags) (c d : Char) : Bool :=
  if flags.ignoreCase then lowerIn flags c.toNat == lowerIn flags d.toNat else c = d

mutual

def Node.run (text : List Char) : Node → Flags → Matcher
  | .code code negated, flags, t, next => do
    next (← t.advance? fun c => matchesCode flags code c != negated)
  | .anyChar, flags, t, next => do next (← t.advance? fun c => flags.dotAll || c != '\n')
  | .charset items negated, flags, t, next => do
    next (← t.advance? fun c => charsetContains flags items c != negated)
  | .anchor anchor, flags, t, next => if anchor.holds flags t then next t else none
  | .sequence nodes, flags, t, next => runAll text nodes flags t next
  | .choice nodes, flags, t, next => runAny text nodes flags t next
  | .group index body, flags, t, next =>
    body.run text flags (t.enter index) fun t => next (t.leave index)
  | .scope on off body, flags, t, next => body.run text (flags.within on off) t next
  | .atomic body, flags, t, next => do next (← body.run text flags t some)
  | .repetition least most manner body, flags, t, next =>
    Matcher.repetition (body.run text flags) least most manner t next
  | .lookAhead negated body, flags, t, next =>
    Matcher.look (body.run text flags) negated (some t) t next
  | .lookBehind negated distance body, flags, t, next =>
    Matcher.look (body.run text flags) negated (t.back? distance) t next
  | .reference index, flags, t, next => do
    let (first, last) ← t.span? index
    next (← t.advanceAll? (sameChar flags) ((text.drop first).take (last - first)))
  | .conditional index yes no, flags, t, next =>
    if (t.span? index).isSome then yes.run text flags t next else no.run text flags t next

def runAll (text : List Char) : List Node → Flags → Matcher
  | [], _, t, next => next t
  | node :: rest, flags, t, next => node.run text flags t fun t => runAll text rest flags t next

def runAny (text : List Char) : List Node → Flags → Matcher
  | [], _, _, _ => none
  | node :: rest, flags, t, next => node.run text flags t next <|> runAny text rest flags t next

end

-- What is found in a text: how far it begins after the place where the search began, its length,
-- and the texts of the groups. A group that has captured nothing has an empty text.
structure Found where
  skipped : Nat
  length : Nat
  groups : List (List Char)

def groupText (text : List Char) (t : Thread) (group : Nat) : List Char :=
  match t.span? group with
  | some (first, last) => (text.drop first).take (last - first)
  | none => []

-- A match that begins at a place; a strict one is not empty.
def matchAt? (regex : Regex) (text : List Char) (place : Thread) (strict : Bool) : Option Thread :=
  regex.node.run text regex.flags place fun t =>
    if strict && t.position == place.position then none else some t

-- What is found at a place, if something is.
def findAt? (regex : Regex) (text : List Char) (skipped : Nat) (strict : Bool) (place : Thread) :
    Option Found := do
  let t ← regex.matchAt? text place strict
  return {
    skipped
    length := t.position - place.position
    groups := (List.range' 1 regex.groups).map (groupText text t) }

-- The first match at a place or after it, in a text of which the part after the place is given.
def searchFrom? (regex : Regex) (text : List Char) (skipped : Nat) (strict : Bool)
    (before : List Char) (position : Nat) : List Char → Option Found
  | [] => regex.findAt? text skipped strict { before, after := [], position }
  | c :: rest =>
    regex.findAt? text skipped strict { before, after := c :: rest, position } <|>
      searchFrom? regex text (skipped + 1) false (c :: before) (position + 1) rest

-- The first match from a position on. A strict search wants no empty match at the position itself.
def search? (regex : Regex) (text : List Char) (position : Nat) (strict : Bool) : Option Found :=
  regex.searchFrom? text 0 strict (text.take position).reverse position (text.drop position)

-- Whether a regular expression matches somewhere in a text.
def matchesIn (regex : Regex) (text : List Char) : Bool := (regex.search? text 0 false).isSome

end Regex

end JsonExpr
