import JsonExpr.Proofs.Builtin.Modes
import JsonExpr.Proofs.Engine.Calls

-- Summaries of lists in an engine, and the mode among them: whatever the order of whole numbers or
-- texts, it is what occurs most.
namespace JsonExpr

namespace Builtin

theorem find?_mode : operations.find? "$mode" = some mode := by simp [operations, Fields.find?]

end Builtin

namespace Engine

open Builtin

variable {engine : Engine}

-- A summary of a list comes to this outcome in both modes: of the list that the operand resolves
-- to, and of the input if it resolves to anything else.
structure Summarizes (engine : Engine) (name : String) (items : List Value)
    (outcome : Except Failure Value) : Prop where
  fromOperand : ∀ input, engine.ComputesFrom (.against input) name (.array items) outcome
  fromInput : ∀ found, found.isArray = false →
    engine.ComputesFrom (.against (.array items)) name found outcome
  evaluated : engine.ComputesFrom .alone name (.array items) outcome

theorem Has.summarizes {names : List String} (hhas : engine.Has names) {name : String}
    (hname : name ∈ names) {summary : List Value → Summary}
    (hfind : operations.find? name = some (aggregation name summary)) {items : List Value}
    {result : Value} (hsummary : summary items = .value result) :
    engine.Summarizes name items (.ok result) := by
  have hsummarize : summarize name summary (.array items) = .done result := by
    rw [summarize, hsummary]
  have hdone (resolve : Request → Run Value) (registered : String → Bool) :
      (summarize name summary (.array items)).run resolve registered = Run.ofExcept (.ok result) := by
    rw [hsummarize]
    rfl
  have hcall (input operand : Value) : (aggregation name summary).call .apply operand input =
      .apply operand input >>= fun found =>
        summarize name summary (if found.isArray then found else input) := rfl
  refine ⟨fun input => ?_, fun found hfound => ?_, ?_⟩
  · exact hhas.computesFrom hname hfind (hcall input) hdone
  · refine hhas.computesFrom hname hfind (hcall (.array items)) fun resolve registered => ?_
    rw [hfound, if_neg Bool.false_ne_true, hdone]
  · exact hhas.computesFrom hname hfind (fun _ => rfl) hdone

theorem Has.summarizes_mode {α : Type} [LinearOrder α] {f : α → Value} (hscale : Scale f)
    (hhas : engine.Has ["$mode"]) (xs : List α) :
    ∃ result, IsMode f xs result ∧ ∀ ys : List α, ys.Perm xs →
      engine.Summarizes "$mode" (ys.map f) (.ok result) := by
  obtain ⟨modes, hmodes, -⟩ := exists_modeOf_map hscale xs
  refine ⟨modeValue f modes, hmodes.isMode f, fun ys hperm => ?_⟩
  obtain ⟨others, hothers, hresult⟩ := exists_modeOf_map hscale ys
  rw [hothers.unique (hmodes.perm hperm)] at hresult
  exact hhas.summarizes (by simp) find?_mode hresult

-- The mode of whole numbers and of texts is the same for every order of the list.
theorem Has.mode_most_frequent (hhas : engine.Has ["$mode"]) :
    (∀ xs : List Int, ∃ result, IsMode .int xs result ∧ ∀ ys : List Int, ys.Perm xs →
        engine.Summarizes "$mode" (ys.map .int) (.ok result)) ∧
      ∀ xs : List String, ∃ result, IsMode .string xs result ∧ ∀ ys : List String, ys.Perm xs →
        engine.Summarizes "$mode" (ys.map .string) (.ok result) :=
  ⟨hhas.summarizes_mode scale_int, hhas.summarizes_mode scale_string⟩

-- Two of the numbers occur twice, and they are returned in order whatever the order of the list.
theorem mode_ties :
    let numbers : List Int := [2, 3, 1, 2, 1]
    let reordered : List Int := [1, 1, 2, 2, 3]
    let modes : List Int := [1, 2]
    complete.Has ["$mode"] ∧ reordered.Perm numbers ∧
      IsMode .int numbers (.array (modes.map .int)) ∧ ∀ world,
        (complete.evaluate (.object [("$mode", .array (reordered.map .int))]) world).result =
            .ok (.array (modes.map .int)) ∧
          (complete.apply (.object [("$mode", .null)]) (.array (numbers.map .int)) world).result =
            .ok (.array (modes.map .int)) := by
  intro numbers reordered modes
  have hhas : complete.Has ["$mode"] := complete_has (by decide)
  have hperm : reordered.Perm numbers := by decide
  have hmode : IsMode .int numbers (.array (modes.map .int)) := by
    have hmore : ∀ y ∈ numbers, numbers.count 1 ≤ numbers.count y → y ∈ modes := by decide
    have hmodes : ∀ y ∈ modes, y ∈ numbers ∧ ∀ z ∈ numbers, numbers.count z ≤ numbers.count y := by
      decide
    refine .several ⟨1, by decide⟩ (by decide) (by decide) fun y => ⟨?_, fun hmem => ?_⟩
    · rintro ⟨hmem, hmost⟩
      exact hmore y hmem (hmost 1)
    · exact ⟨(hmodes y hmem).1, count_le_of_forall_mem (hmodes y hmem).2⟩
  obtain ⟨hints, -⟩ := hhas.mode_most_frequent
  obtain ⟨result, hresult, hsummarizes⟩ := hints numbers
  obtain rfl := hresult.unique hmode
  refine ⟨hhas, hperm, hmode, fun world => ⟨?_, ?_⟩⟩
  · exact ((hsummarizes reordered hperm).evaluated (.array (reordered.map .int))).resolved rfl world
      (.singleton rfl)
  · exact ((hsummarizes numbers (.refl numbers)).fromInput .null rfl .null).resolved rfl world
      (.singleton rfl)

end Engine

end JsonExpr
