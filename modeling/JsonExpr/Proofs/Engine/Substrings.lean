import JsonExpr.Proofs.Engine.Texts
import JsonExpr.Proofs.Text.Slices

-- Taking a part of a text: what a length adds to a start.
namespace JsonExpr

namespace Builtin

theorem find?_substring : operations.find? "$substring" = some substring := by
  simp [operations, Fields.find?]

end Builtin

namespace Engine

open Builtin

variable {engine : Engine}

-- An operation on a text with parameters comes to this outcome in both modes: if the text is the
-- input and the operand resolves to the parameters, or to the only one; and if the operand resolves
-- to a list of the text and the parameters.
structure OnText (engine : Engine) (name text : String) (parameters : List Value)
    (outcome : Except Failure Value) : Prop where
  applied {operand found : Value} {world : Surroundings}
    (hoperand : (engine.apply operand (.string text) world).result = .ok found)
    (hfound : parametersOf found = parameters) :
    (engine.apply (.object [(name, operand)]) (.string text) world).result = outcome
  evaluated {operand : Value} {world : Surroundings}
    (hoperand : (engine.evaluate operand world).result =
      .ok (.array (.string text :: parameters))) :
    (engine.evaluate (.object [(name, operand)]) world).result = outcome

theorem ComputesOnText.onText {name text : String} {parameters : List Value}
    {outcome : Except Failure Value} (h : engine.ComputesOnText name text parameters outcome)
    (hplain : engine.middleware = []) : engine.OnText name text parameters outcome where
  applied hoperand hfound := (h.applied _ hfound _).resolved hplain _ (.singleton hoperand)
  evaluated hoperand := (h.evaluated _).resolved hplain _ (.singleton hoperand)

-- With a start only, the text from there on is returned; a negative start counts from the end, and
-- one beyond an end is moved to it. A length cuts this off, and as many characters as it says are
-- kept exactly if the end, which is the sum of the two, is not read from the other side.
theorem Has.substring_cut (hhas : engine.Has ["$substring"]) (hplain : engine.middleware = [])
    (text : String) (start : Int) (count : Nat) :
    ∃ tail part : String,
      engine.OnText "$substring" text [.int start] (.ok (.string tail)) ∧
      engine.OnText "$substring" text [.int start, .int count] (.ok (.string part)) ∧
      tail.toList = text.toList.drop (if start < 0 then start + text.length else start).toNat ∧
      (∃ kept ≤ count, part.toList = tail.toList.take kept) ∧
      (part.toList = tail.toList.take count ↔ CutsExactly text.length start count) := by
  refine ⟨String.ofList (slice text.toList start none),
    String.ofList (slice text.toList start (some (start + count))), ?_, ?_, ?_, ?_, ?_⟩
  · exact (hhas.computesOnText (List.mem_singleton_self _) find?_substring
      fun _ _ => rfl).onText hplain
  · exact (hhas.computesOnText (List.mem_singleton_self _) find?_substring
      fun _ _ => rfl).onText hplain
  · rw [String.toList_ofList, slice_none, drop_positionIn, String.length_toList]
  · simp only [String.toList_ofList]
    exact slice_length text.toList start count
  · simp only [String.toList_ofList, slice_length_eq_iff, String.length_toList]

-- The last three characters but one.
theorem substring_from_end :
    let parameters : List Value := [.int (-3), .int 2]
    complete.Has ["$substring"] ∧ complete.middleware = [] ∧ CutsExactly 6 (-3) 2 ∧
      ∀ world, (complete.apply (.object [("$substring", .array parameters)]) (.string "abcdef")
        world).result = .ok (.string "de") := by
  intro parameters
  have hhas : complete.Has ["$substring"] := complete_has (by decide)
  have hexact : CutsExactly 6 (-3) 2 := .inr (.inl (by decide))
  obtain ⟨tail, part, -, hpart, htail, -, hcut⟩ := hhas.substring_cut rfl "abcdef" (-3) 2
  have htext : part = "de" := by
    rw [← String.toList_inj, hcut.mpr hexact, htail]
    decide
  refine ⟨hhas, rfl, hexact, fun world => ?_⟩
  subst htext
  exact hpart.applied rfl rfl

-- All of the last three characters: none is returned, since the end is at zero.
theorem substring_to_end_empty :
    let parameters : List Value := [.int (-3), .int 3]
    ∀ world,
      (complete.apply (.object [("$substring", .int (-3))]) (.string "abc") world).result =
          .ok (.string "abc") ∧
        (complete.apply (.object [("$substring", .array parameters)]) (.string "abc")
          world).result = .ok (.string "") ∧
        "".toList ≠ "abc".toList.take 3 := by
  intro parameters world
  exact ⟨rfl, rfl, by decide⟩

end Engine

end JsonExpr
