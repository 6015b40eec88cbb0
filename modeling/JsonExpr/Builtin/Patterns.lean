import JsonExpr.Builtin.Texts
import JsonExpr.Regex.Replacement
import JsonExpr.Wildcard

-- Operations that match texts against patterns.
namespace JsonExpr

namespace Builtin

def patternFailure (problem : OperandProblem) : Regex.Defect → Failure
  | .malformed => .operand problem
  | .tooLarge => .fault .tooLarge
  | .contradictory => .fault .contradictoryFlags

-- The regular expression of a text under flags. A malformed one is the given problem.
def compileText (problem : OperandProblem) (flags : Regex.Flags) (text : List Char) :
    Except Failure Regex :=
  (Regex.ofPattern flags text).mapError (patternFailure problem)

-- The regular expression of a pattern with an optional marker of flags in front.
def compileRegex (pattern : String) : Except Failure Regex :=
  let (flags, rest) := Regex.splitMarker pattern.toList
  compileText (.regex (String.ofList rest)) flags rest

-- The regular expression that wildcards are translated to. Its dots admit line ends.
def compileWildcards (pattern : String) (wildcards : List Wildcard) : Except Failure Regex :=
  compileText (.wildcards pattern) { dotAll := true } (Wildcard.regexOf wildcards)

def requireCompiled : Except Failure Regex → Script Regex
  | .ok regex => .done regex
  | .error failure => .fail failure

def requireRegex (pattern : String) : Script Regex := requireCompiled (compileRegex pattern)

-- A test of a text against a pattern. The pattern has to be sound even if the text is none.
def testPattern (name : String) (compile : String → Script (List Char → Bool))
    (pattern text : Value) : Script Value :=
  match pattern with
  | .string pattern => do
    let test ← compile pattern
    return .bool (test (← requireString name text).toList)
  | _ => .invalidOperand (.patternKind name)

def patternTest (name : String) (compile : String → Script (List Char → Bool)) : Operation :=
  both
    (fun operand input => do testPattern name compile (← .apply operand input) input)
    (fun operand => do
      let (pattern, text) ← requirePair name "[pattern, text]" operand
      let pattern ← .evaluate pattern
      testPattern name compile pattern (← .evaluate text))

def matchesRegex : Operation :=
  patternTest "$matchesRegex" fun pattern => do return (← requireRegex pattern).matchesIn

def requireWildcards (pattern : String) (wildcards : List Wildcard) :
    Script (List Char → Bool) := do
  return (← requireCompiled (compileWildcards pattern wildcards)).matchesIn

def matchesLike : Operation :=
  patternTest "$matchesLike" fun pattern =>
    requireWildcards pattern (Wildcard.ofLike pattern.toList)

def matchesGlob : Operation :=
  patternTest "$matchesGlob" fun pattern =>
    requireWildcards pattern (Wildcard.ofGlob pattern.toList)

-- The text with every match replaced by the expanded replacement.
def replaceMatches (text : String) (search replacement : Value) : Script Value :=
  match search, replacement with
  | .string search, .string replacement => do
    let regex ← requireRegex search
    let expand := fun found => Regex.expand found replacement.toList
    return .string (String.ofList (regex.replaceAll expand text.toList))
  | _, _ => .invalidOperand .replacement

def replace : Operation :=
  withParameters "$replace" fun text parameters =>
    match parameters with
    | [search] => replaceMatches text search (.string "")
    | [search, replacement] => replaceMatches text search replacement
    | _ => .fault .wrongArity

end Builtin

end JsonExpr
