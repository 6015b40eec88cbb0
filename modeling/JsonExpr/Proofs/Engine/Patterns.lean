import JsonExpr.Proofs.Engine.BuiltIn
import JsonExpr.Proofs.Pattern.Matching

-- Matching a text against a pattern with wildcards, as a whole and in both modes. The anchor at the
-- end also holds before a line end, so that a text may end in one more of those than its pattern.
namespace JsonExpr

open Wildcard

namespace Builtin

-- The test of texts against patterns that are read as wildcards in some way.
def wildcardTest (name : String) (read : List Char → List Wildcard) : Operation :=
  patternTest name fun pattern => requireWildcards pattern (read pattern.toList)

theorem find?_matchesLike :
    operations.find? "$matchesLike" = some (wildcardTest "$matchesLike" ofLike) := by
  simp [operations, Fields.find?, matchesLike, wildcardTest]

theorem find?_matchesGlob :
    operations.find? "$matchesGlob" = some (wildcardTest "$matchesGlob" ofGlob) := by
  simp [operations, Fields.find?, matchesGlob, wildcardTest]

-- The flags of wildcards.
def dotAll : Regex.Flags := { dotAll := true }

theorem requireWildcards_eq (pattern : String) (wildcards : List Wildcard) :
    requireWildcards pattern wildcards =
      if ∀ wildcard ∈ wildcards, wildcard.IsSound then
        .done (Regex.wholeText dotAll wildcards).matchesIn
      else .fail (.operand (.wildcards pattern)) := by
  rw [requireWildcards, compileWildcards, compileText, ← dotAll, Regex.ofPattern_regexOf rfl rfl]
  split <;> rfl

-- What a test of a value comes to. The pattern is looked at before the value.
def verdict (name pattern : String) (wildcards : List Wildcard) (tested : Value) :
    Except Failure Value :=
  if ∀ wildcard ∈ wildcards, wildcard.IsSound then
    match tested with
    | .string text => .ok (.bool ((Regex.wholeText dotAll wildcards).matchesIn text.toList))
    | _ => .error (.domain (.stringInput name))
  else .error (.operand (.wildcards pattern))

section Runs

variable {resolve : Request → Run Value} {registered : String → Bool} {name : String}
  {read : List Char → List Wildcard} {pattern : String}

theorem run_testPattern (tested : Value) :
    (testPattern name (fun pattern => requireWildcards pattern (read pattern.toList))
        (.string pattern) tested).run resolve registered =
      Run.ofExcept (verdict name pattern (read pattern.toList) tested) := by
  rw [testPattern, requireWildcards_eq]
  unfold verdict
  split
  · cases tested <;> rfl
  · rfl

theorem run_wildcardTest_applied {operand input : Value}
    (hpattern : resolve (.apply operand input) = .done (.string pattern)) :
    ((wildcardTest name read).call .apply operand input).run resolve registered =
      Run.ofExcept (verdict name pattern (read pattern.toList) input) := by
  simp only [wildcardTest, patternTest, both, Operation.call, Script.run_bind, Script.run_apply,
    hpattern, Run.bind_done, run_testPattern]

theorem run_wildcardTest_evaluated {operand tested input : Value} (result : Value)
    (hpattern : resolve (.evaluate operand) = .done (.string pattern))
    (htested : resolve (.evaluate tested) = .done result) :
    ((wildcardTest name read).call .evaluate (.array [operand, tested]) input).run resolve
        registered = Run.ofExcept (verdict name pattern (read pattern.toList) result) := by
  simp only [wildcardTest, patternTest, both, Operation.call, requirePair, Script.run_bind,
    Script.run_done, Script.run_evaluate, hpattern, htested, Run.bind_done, run_testPattern]

end Runs

end Builtin

namespace Engine

open Builtin

-- A test of the input, and a test of a given text.
def testing (name pattern : String) : Value := .object [(name, .string pattern)]

def testingOf (name pattern text : String) : Value :=
  .object [(name, .array [.string pattern, .string text])]

section Tests

variable {engine : Engine} {name : String} {read : List Char → List Wildcard}
  (hhas : engine.Has [name]) (hplain : engine.middleware = [])
  (hfind : operations.find? name = some (wildcardTest name read)) (pattern : String)

include hhas hplain hfind

theorem Has.apply_testing (input : Value) (world : Surroundings) :
    engine.apply (testing name pattern) input world =
      ⟨verdict name pattern (read pattern.toList) input, [.dispatching name .apply], world⟩ := by
  obtain ⟨levels, hlevels⟩ := engine.exists_levels (.apply (testing name pattern) input)
  rw [apply, hlevels, hhas.resolveWith_eq hplain (by simp) hfind (levels + 1) rfl]
  simp only [callFor]
  rw [run_wildcardTest_applied rfl]
  cases verdict name pattern (read pattern.toList) input <;> rfl

theorem Has.evaluate_testingOf (text : String) (world : Surroundings) :
    engine.evaluate (testingOf name pattern text) world =
      ⟨verdict name pattern (read pattern.toList) (.string text), [.dispatching name .evaluate],
        world⟩ := by
  obtain ⟨levels, hlevels⟩ := engine.exists_levels (.evaluate (testingOf name pattern text))
  rw [evaluate, hlevels, hhas.resolveWith_eq hplain (by simp) hfind (levels + 1) rfl]
  simp only [callFor]
  rw [run_wildcardTest_evaluated (.string text) rfl rfl]
  cases verdict name pattern (read pattern.toList) (.string text) <;> rfl

variable {pattern}

theorem Has.tests_of_sound (hsound : ∀ wildcard ∈ read pattern.toList, wildcard.IsSound)
    (text : String) (world : Surroundings) :
    ∃ matched : Bool,
      engine.apply (testing name pattern) (.string text) world =
          ⟨.ok (.bool matched), [.dispatching name .apply], world⟩ ∧
        engine.evaluate (testingOf name pattern text) world =
          ⟨.ok (.bool matched), [.dispatching name .evaluate], world⟩ ∧
        (matched = true ↔ Generates (read pattern.toList) text.toList ∨
          ∃ line, text.toList = line ++ ['\n'] ∧ Generates (read pattern.toList) line) := by
  refine ⟨(Regex.wholeText dotAll (read pattern.toList)).matchesIn text.toList, ?_, ?_,
    Regex.matchesIn_wholeText_iff rfl rfl rfl⟩
  · rw [hhas.apply_testing hplain hfind, verdict, if_pos hsound]
  · rw [hhas.evaluate_testingOf hplain hfind, verdict, if_pos hsound]

theorem Has.tests_of_not_sound (hsound : ∃ wildcard ∈ read pattern.toList, ¬wildcard.IsSound)
    (world : Surroundings) :
    (∀ input, engine.apply (testing name pattern) input world =
      ⟨.error (.operand (.wildcards pattern)), [.dispatching name .apply], world⟩) ∧
    ∀ text, engine.evaluate (testingOf name pattern text) world =
      ⟨.error (.operand (.wildcards pattern)), [.dispatching name .evaluate], world⟩ := by
  have hverdict (tested : Value) : verdict name pattern (read pattern.toList) tested =
      .error (.operand (.wildcards pattern)) := by
    obtain ⟨wildcard, hmem, hwildcard⟩ := hsound
    exact if_neg fun h => hwildcard (h wildcard hmem)
  constructor
  · intro input
    rw [hhas.apply_testing hplain hfind, hverdict]
  · intro text
    rw [hhas.evaluate_testingOf hplain hfind, hverdict]

end Tests

variable {engine : Engine}

-- A text is like a pattern of the query language if the pattern generates it, from the first
-- character to the last. The test also holds of a text that is like the pattern but for a line end
-- at its end, so it only tells what is like the pattern where that makes no difference.
theorem Has.matchesLike_whole (hhas : engine.Has ["$matchesLike"])
    (hplain : engine.middleware = []) (pattern text : String) (world : Surroundings) :
    ∃ matched : Bool,
      engine.apply (testing "$matchesLike" pattern) (.string text) world =
          ⟨.ok (.bool matched), [.dispatching "$matchesLike" .apply], world⟩ ∧
        engine.evaluate (testingOf "$matchesLike" pattern text) world =
          ⟨.ok (.bool matched), [.dispatching "$matchesLike" .evaluate], world⟩ ∧
        (matched = true ↔ Like pattern.toList text.toList ∨
          ∃ line, text.toList = line ++ ['\n'] ∧ Like pattern.toList line) ∧
        ((matched = true ↔ Like pattern.toList text.toList) ↔
          ∀ line, text.toList = line ++ ['\n'] → Like pattern.toList line →
            Like pattern.toList text.toList) := by
  obtain ⟨matched, happly, hevaluate, hmatched⟩ :=
    hhas.tests_of_sound hplain find?_matchesLike (isSound_ofLike pattern.toList) text world
  simp only [← like_iff_generates] at hmatched
  refine ⟨matched, happly, hevaluate, hmatched, ?_⟩
  rw [hmatched, or_iff_left_iff_imp]
  constructor
  · intro h line hline hlike
    exact h ⟨line, hline, hlike⟩
  · rintro h ⟨line, hline, hlike⟩
    exact h line hline hlike

-- A line end between other characters is one like any other.
theorem like_across_lines :
    complete.Has ["$matchesLike"] ∧ complete.middleware = [] ∧
      ∀ world, ∃ matched : Bool,
        complete.apply (testing "$matchesLike" "a%_") (.string "a\nb") world =
            ⟨.ok (.bool matched), [.dispatching "$matchesLike" .apply], world⟩ ∧
          (matched = true ↔ Like "a%_".toList "a\nb".toList) := by
  have hhas : complete.Has ["$matchesLike"] := complete_has (by decide)
  refine ⟨hhas, rfl, fun world => ?_⟩
  obtain ⟨matched, happly, -, -, hmatched⟩ := hhas.matchesLike_whole rfl "a%_" "a\nb" world
  refine ⟨matched, happly, hmatched.mpr fun line hline => ?_⟩
  have hlast := congrArg List.getLast? hline
  simp at hlast

-- A line end at the end is one character too many.
theorem like_before_line_end :
    (∀ world, complete.apply (testing "$matchesLike" "a") (.string "a\n") world =
      ⟨.ok (.bool true), [.dispatching "$matchesLike" .apply], world⟩) ∧
    ¬Like "a".toList "a\n".toList := by
  constructor
  · intro world
    obtain ⟨matched, happly, -, hmatched⟩ :=
      (complete_has (by decide)).tests_of_sound rfl find?_matchesLike (isSound_ofLike "a".toList)
        "a\n" world
    rw [happly, hmatched.mpr (.inr ⟨['a'], rfl, .literal 'a' .done⟩)]
  · rw [like_iff_generates]
    change ¬Generates [.literal 'a'] ['a', '\n']
    simp [generates_singleton_iff]

-- The reading of a pattern of the shell decides everything: whether the pattern is rejected, which
-- it is before the input is looked at, and which texts it matches.
theorem Has.matchesGlob_reading (hhas : engine.Has ["$matchesGlob"])
    (hplain : engine.middleware = []) (pattern : String) :
    ∃ wildcards, (∀ others, Reads pattern.toList others ↔ others = wildcards) ∧
      ((∃ wildcard ∈ wildcards, ¬wildcard.IsSound) → ∀ world,
        (∀ input, engine.apply (testing "$matchesGlob" pattern) input world =
          ⟨.error (.operand (.wildcards pattern)), [.dispatching "$matchesGlob" .apply], world⟩) ∧
        ∀ text, engine.evaluate (testingOf "$matchesGlob" pattern text) world =
          ⟨.error (.operand (.wildcards pattern)), [.dispatching "$matchesGlob" .evaluate],
            world⟩) ∧
      ((∀ wildcard ∈ wildcards, wildcard.IsSound) → ∀ world,
        (∀ text : String, ∃ matched : Bool,
          engine.apply (testing "$matchesGlob" pattern) (.string text) world =
              ⟨.ok (.bool matched), [.dispatching "$matchesGlob" .apply], world⟩ ∧
            engine.evaluate (testingOf "$matchesGlob" pattern text) world =
              ⟨.ok (.bool matched), [.dispatching "$matchesGlob" .evaluate], world⟩ ∧
            (matched = true ↔ Generates wildcards text.toList ∨
              ∃ line, text.toList = line ++ ['\n'] ∧ Generates wildcards line)) ∧
        ∀ input, (∀ text, input ≠ .string text) →
          engine.apply (testing "$matchesGlob" pattern) input world =
            ⟨.error (.domain (.stringInput "$matchesGlob")), [.dispatching "$matchesGlob" .apply],
              world⟩) := by
  refine ⟨ofGlob pattern.toList, fun others => reads_iff, fun hsound world => ?_,
    fun hsound world => ⟨fun text => ?_, fun input hinput => ?_⟩⟩
  · exact hhas.tests_of_not_sound hplain find?_matchesGlob hsound world
  · exact hhas.tests_of_sound hplain find?_matchesGlob hsound text world
  · rw [hhas.apply_testing hplain find?_matchesGlob, verdict, if_pos hsound]
    exact hinput

-- A class that begins with a closing bracket, and a bracket that is never closed.
theorem glob_closing_bracket_in_class :
    complete.Has ["$matchesGlob"] ∧ complete.middleware = [] ∧
      Reads "[]a-c][".toList [.charClass false ']' ['a', '-', 'c'], .literal '['] ∧
      ∀ world, ∃ matched : Bool,
        complete.apply (testing "$matchesGlob" "[]a-c][") (.string "b[") world =
          ⟨.ok (.bool matched), [.dispatching "$matchesGlob" .apply], world⟩ ∧ matched = true := by
  have hhas : complete.Has ["$matchesGlob"] := complete_has (by decide)
  obtain ⟨wildcards, hreads, -, hmatches⟩ := hhas.matchesGlob_reading rfl "[]a-c]["
  have hreading : Reads "[]a-c][".toList [.charClass false ']' ['a', '-', 'c'], .literal '['] := by
    have hclass : IsClass (']' :: ['a', '-', 'c'] ++ ']' :: ['[']) false ']' ['a', '-', 'c']
        ['['] := .plain (by decide) (by decide) ['[']
    have hopen : ∀ negated first more rest, ¬IsClass [] negated first more rest := by
      rintro _ _ _ _ ⟨⟩
    exact .bracket hclass (.unclosed hopen .done)
  obtain rfl := (hreads _).mp hreading
  refine ⟨hhas, rfl, hreading, fun world => ?_⟩
  obtain ⟨matched, happly, -, hmatched⟩ := (hmatches (by decide) world).1 "b["
  have hclass : InClass [']', 'a', '-', 'c'] 'b' := ⟨('a', 'c'), by decide, by decide⟩
  have hgenerates : Generates [.charClass false ']' ['a', '-', 'c'], .literal '['] ['b', '['] :=
    .charClass (iff_of_true hclass rfl) (.literal '[' .done)
  exact ⟨matched, happly, hmatched.mpr (.inl hgenerates)⟩

end Engine

end JsonExpr
