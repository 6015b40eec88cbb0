import JsonExpr.Proofs.Engine.Texts
import JsonExpr.Proofs.Text.Pieces

-- Splitting texts and joining them in an engine. Joining undoes splitting by the same delimiter, and
-- splitting by a character undoes joining by it if no text has the character.
namespace JsonExpr

namespace Builtin

theorem find?_split : operations.find? "$split" = some split := by
  simp [operations, Fields.find?]

theorem find?_join : operations.find? "$join" = some join := by
  simp [operations, Fields.find?]

theorem splitBy_string (text delimiter : String) :
    splitBy text [.string delimiter] = .done (.array ((piecesOf delimiter text).map .string)) := by
  rw [splitBy, piecesOf, List.map_map]
  rfl

theorem joinItems_strings (pieces : List String) (separator : String) :
    joinItems (pieces.map .string) (.string separator) =
      .done (.string (separator.intercalate pieces)) := by
  have hpieces : (pieces.map Value.string).map joinText = pieces := by
    rw [List.map_map]
    exact List.map_id pieces
  rw [joinItems, hpieces]

end Builtin

namespace Engine

open Builtin

variable {engine : Engine}

-- An operation on a list with a parameter comes to this outcome in both modes: if the list is the
-- input and the operand resolves to the parameter, and if the operand holds both, which are resolved
-- one after the other.
structure ComputesOnList (engine : Engine) (name : String) (items : List Value) (parameter : Value)
    (outcome : Except Failure Value) : Prop where
  applied : engine.ComputesFrom (.against (.array items)) name parameter outcome
  evaluated : ∀ array operand, engine.Computes .alone name (.array [array, operand])
    [(.evaluate array, .array items), (.evaluate operand, parameter)] outcome

theorem Has.computesOnList {names : List String} (hhas : engine.Has names) {name : String}
    (hname : name ∈ names) {shape : String} {run : List Value → Value → Script Value}
    (hfind : operations.find? name = some (parameterized name shape run)) {items : List Value}
    {parameter : Value} {outcome : Except Failure Value}
    (hrun : ∀ resolve registered,
      (run items parameter).run resolve registered = Run.ofExcept outcome) :
    engine.ComputesOnList name items parameter outcome where
  applied := hhas.computesFrom hname hfind (fun _ => rfl) hrun
  evaluated array operand := by
    refine hhas.computes hname hfind ?_ fun resolve world hfound => ?_
    · have hparts (part : Value) (hmem : part ∈ [array, operand]) :
          (Value.array [array, operand]).Part part := .item hmem (.refl part)
      simpa [Request.expression] using hparts
    · simp only [parameterized, both, Operation.call, Asking.mode, requirePair, Script.run_bind,
        Script.run_done, Script.run_evaluate, Run.bind_done]
      refine hfound.result_bind fun after hrest => ?_
      simp only [requireList, Script.run_done, Run.bind_done]
      exact hrest.result_bind fun after _ => by rw [hrun, Run.result_ofExcept]

theorem Has.splits (hhas : engine.Has ["$split", "$join"]) (text delimiter : String) :
    engine.ComputesOnText "$split" text [.string delimiter]
      (.ok (.array ((piecesOf delimiter text).map .string))) := by
  refine hhas.computesOnText (by simp) find?_split fun _ _ => ?_
  rw [splitBy_string]
  rfl

theorem Has.joins (hhas : engine.Has ["$split", "$join"]) (pieces : List String)
    (separator : String) :
    engine.ComputesOnList "$join" (pieces.map .string) (.string separator)
      (.ok (.string (separator.intercalate pieces))) := by
  refine hhas.computesOnList (by simp) find?_join fun _ _ => ?_
  rw [joinItems_strings]
  rfl

-- A text that is split comes back when the pieces are joined by the delimiter, and if there is a
-- delimiter, no piece contains it. Texts that are joined by a character none of them has come back
-- when the whole is split by it.
theorem Has.split_join_inverse (hhas : engine.Has ["$split", "$join"]) :
    (∀ text delimiter : String, ∃ pieces : List String,
      engine.ComputesOnText "$split" text [.string delimiter]
          (.ok (.array (pieces.map .string))) ∧
        engine.ComputesOnList "$join" (pieces.map .string) (.string delimiter)
          (.ok (.string text)) ∧
        (delimiter ≠ "" → ∀ piece ∈ pieces, ¬delimiter.toList <:+: piece.toList)) ∧
    ∀ (c : Char) (pieces : List String), pieces ≠ [] →
      (∀ piece ∈ pieces, c ∉ piece.toList) → ∃ text : String,
        engine.ComputesOnList "$join" (pieces.map .string) (.string (String.singleton c))
            (.ok (.string text)) ∧
          engine.ComputesOnText "$split" text [.string (String.singleton c)]
            (.ok (.array (pieces.map .string))) := by
  constructor
  · intro text delimiter
    have hjoined := hhas.joins (piecesOf delimiter text) delimiter
    rw [intercalate_piecesOf] at hjoined
    exact ⟨_, hhas.splits text delimiter, hjoined, fun hne => not_infix_of_mem_piecesOf hne⟩
  · intro c pieces hne hpieces
    have hsplit := hhas.splits ((String.singleton c).intercalate pieces) (String.singleton c)
    rw [piecesOf_intercalate hne hpieces] at hsplit
    exact ⟨_, hhas.joins pieces (String.singleton c), hsplit⟩

-- Of the three places where the delimiter stands, two overlap. An empty text between two separators
-- comes back as well.
theorem split_overlapping_delimiters :
    let found : List Value := [.string "", .string "ab", .string ""]
    let pieces := ["a", "", "b"]
    complete.Has ["$split", "$join"] ∧ pieces ≠ [] ∧ (∀ piece ∈ pieces, ',' ∉ piece.toList) ∧
      ∀ world,
        (complete.apply (.object [("$split", .string "aa")]) (.string "aaabaa") world).result =
            .ok (.array found) ∧
          (complete.apply (.object [("$join", .string "aa")]) (.array found) world).result =
            .ok (.string "aaabaa") ∧
          ∃ joined,
            (complete.apply (.object [("$join", .string ",")]) (.array (pieces.map .string))
              world).result = .ok (.string joined) ∧
            (complete.apply (.object [("$split", .string ",")]) (.string joined) world).result =
              .ok (.array (pieces.map .string)) := by
  intro found pieces
  have hhas : complete.Has ["$split", "$join"] := complete_has (by decide)
  have hpieces : ∀ piece ∈ pieces, ',' ∉ piece.toList := by decide
  refine ⟨hhas, by decide, hpieces, fun world => ?_⟩
  obtain ⟨hback, hforth⟩ := hhas.split_join_inverse
  obtain ⟨parts, hsplit, hjoin, -⟩ := hback "aaabaa" "aa"
  obtain ⟨joined, hjoin', hsplit'⟩ := hforth ',' pieces (by decide) hpieces
  have hfound : (complete.apply (.object [("$split", .string "aa")]) (.string "aaabaa")
      world).result = .ok (.array found) := rfl
  have hparts := (hsplit.applied _ rfl (.string "aa")).resolved rfl world (.singleton rfl)
  rw [Value.array.inj (Except.ok.inj (hparts.symm.trans hfound))] at hjoin
  refine ⟨hfound, ?_, joined, ?_, ?_⟩
  · exact (hjoin.applied (.string "aa")).resolved rfl world (.singleton rfl)
  · exact (hjoin'.applied (.string ",")).resolved rfl world (.singleton rfl)
  · exact (hsplit'.applied _ rfl (.string ",")).resolved rfl world (.singleton rfl)

end Engine

end JsonExpr
