import JsonExpr.Proofs.Engine.Texts
import JsonExpr.Proofs.Pattern.Expansion
import JsonExpr.Proofs.Pattern.Occurrences

-- Replacing the matches of a pattern in an engine. A text is divided into matches and what stands
-- between them before anything is replaced, and each match is expanded by itself.
namespace JsonExpr

namespace Builtin

theorem find?_replace : operations.find? "$replace" = some replace := by
  simp [operations, Fields.find?]

theorem replaceMatches_of_compile {search : String} {regex : Regex}
    (h : compileRegex search = .ok regex) (text replacement : String) :
    replaceMatches text (.string search) (.string replacement) =
      .done (.string (String.ofList (regex.replaceAll
        (fun m => Regex.expand m replacement.toList) text.toList))) := by
  rw [replaceMatches, requireRegex, h]
  rfl

end Builtin

namespace Engine

open Builtin Regex

variable {engine : Engine}

theorem Has.replaces (hhas : engine.Has ["$replace"]) {search : String} {regex : Regex}
    (h : compileRegex search = .ok regex) (text replacement : String) :
    engine.ComputesOnText "$replace" text [.string search, .string replacement]
      (.ok (.string (String.ofList
        (regex.replaceAll (fun m => expand m replacement.toList) text.toList)))) := by
  refine hhas.computesOnText (by simp) find?_replace fun _ _ => ?_
  show (replaceMatches text (.string search) (.string replacement)).run _ _ = _
  rw [replaceMatches_of_compile h]
  rfl

-- Replacements are expanded at every match. One with its dollar signs doubled is put in the place
-- of each match as it was before, and the reference to the whole match gives the text back.
theorem Has.replace_expands (hhas : engine.Has ["$replace"]) :
    (∀ m : Match, m.Expands) ∧
      (∀ text position length groups,
        expand (.of text position length groups) ['$', '\x60', '$', '&', '$', '\''] = text) ∧
      ∀ (search : String) (regex : Regex), compileRegex search = .ok regex → ∀ text : String,
        ∃ parts rest, Divides regex text.toList 0 false parts rest ∧
          (∀ part ∈ parts, part.2.before ++ part.2.matched ++ part.2.after = text.toList ∧
            part.2.groups.length = regex.groups) ∧
          filledIn Match.matched parts rest = text.toList ∧
          (∀ replacement : String,
            engine.ComputesOnText "$replace" text [.string search, .string replacement]
              (.ok (.string (String.ofList
                (filledIn (fun m => expand m replacement.toList) parts rest))))) ∧
          (∀ literal : List Char,
            engine.ComputesOnText "$replace" text
              [.string search, .string (String.ofList (doubled literal))]
              (.ok (.string (String.ofList (filledIn (fun _ => literal) parts rest))))) ∧
          engine.ComputesOnText "$replace" text [.string search, .string "$&"]
            (.ok (.string text)) := by
  refine ⟨Match.expands, fun text position length groups => ?_, fun search regex h text => ?_⟩
  · rw [(Match.expands _).around]
    exact Match.of_whole ..
  · obtain ⟨parts, rest, hdivides, hreplace⟩ := exists_divides_replaceAll regex text.toList
    have hcomputes (replacement : String) := hhas.replaces h text replacement
    simp only [hreplace] at hcomputes
    refine ⟨parts, rest, hdivides, fun part => hdivides.of_mem, hdivides.filledIn_matched,
      hcomputes, fun literal => ?_, ?_⟩
    · simpa only [String.toList_ofList, expand_doubled] using
        hcomputes (String.ofList (doubled literal))
    · have hmatched : "$&".toList = ['$', '&'] := rfl
      have hwhole := hdivides.filledIn_matched
      simpa only [hmatched, expand_matched, hwhole, List.drop_zero, String.ofList_toList] using
        hcomputes "$&"

-- The pattern has one group. Its number is no reference after a doubled sign.
theorem replace_doubled_reference :
    let regex : Regex := ⟨.sequence [.group 1 (.sequence [.code 98 false])], {}, 1⟩
    let m := Match.of "abbc".toList 1 1 [['b']]
    let replaced (replacement : String) (world : Surroundings) :=
      (complete.apply (.object [("$replace", .array [.string "(b)", .string replacement])])
        (.string "abbc") world).result
    complete.Has ["$replace"] ∧ compileRegex "(b)" = .ok regex ∧ m.Lacks 2 ∧ m.Lacks 12 ∧
      m.group? 1 = some ['b'] ∧ '$' ∉ ['\\', '1'] ∧ expand m "$2".toList = "$2".toList ∧
      expand m "$12\\1".toList = "b2\\1".toList ∧
      ∃ parts rest, Divides regex "abbc".toList 0 false parts rest ∧ ∀ world,
        replaced "$$1" world =
            .ok (.string (String.ofList (filledIn (fun _ => ['$', '1']) parts rest))) ∧
          replaced "$$1" world = .ok (.string "a$1$1c") ∧
          replaced "$&" world = .ok (.string "abbc") := by
  intro regex m replaced
  have hhas : complete.Has ["$replace"] := complete_has (by decide)
  have hcompile : compileRegex "(b)" = .ok regex := rfl
  have hone : m.group? 1 = some ['b'] := rfl
  have htwo : m.Lacks 2 := .inr (by decide)
  have htwelve : m.Lacks 12 := .inr (by decide)
  have hliteral : '$' ∉ ['\\', '1'] := by decide
  obtain ⟨hexpands, -, hreplace⟩ := hhas.replace_expands
  refine ⟨hhas, hcompile, htwo, htwelve, hone, hliteral, ?_, ?_, ?_⟩
  · exact (hexpands m).lacking ⟨'2', 2, rfl⟩ [] (by simp [ReplacementPart.EndsBefore]) htwo
  · have hlong :=
      (hexpands m).lackingLong ⟨'1', 1, rfl⟩ ⟨'2', 2, rfl⟩ ['\\', '1'] ['b'] htwelve hone
    rw [(hexpands m).literal _ hliteral] at hlong
    exact hlong
  · obtain ⟨parts, rest, hdivides, -, -, -, hdoubled, hwhole⟩ :=
      hreplace "(b)" regex hcompile "abbc"
    have happly {replacement result : String}
        (h : complete.ComputesOnText "$replace" "abbc" [.string "(b)", .string replacement]
          (.ok (.string result))) (world : Surroundings) :
        replaced replacement world = .ok (.string result) :=
      (h.applied _ rfl (.array [.string "(b)", .string replacement])).resolved rfl world
        (.singleton rfl)
    exact ⟨parts, rest, hdivides, fun world =>
      ⟨happly (hdoubled ['$', '1']) world, rfl, happly hwhole world⟩⟩

end Engine

end JsonExpr
