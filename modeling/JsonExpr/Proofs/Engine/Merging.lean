import JsonExpr.Proofs.Engine.Calls
import JsonExpr.Proofs.Value.Merging

-- Merging objects in an engine. What is merged is merged into nothing, one object after another, so
-- that objects can be merged in groups.
namespace JsonExpr

namespace Builtin

theorem find?_merge : operations.find? "$merge" = some merge := by
  simp [operations, Fields.find?]

-- Values are objects throughout, or there is one that is no object.
theorem objects_or_other (values : List Value) :
    (∃ objects : List Object, values = objects.map .object) ∨
      ∃ value ∈ values, ∀ fields, value ≠ .object fields := by
  induction values with
  | nil => exact .inl ⟨[], rfl⟩
  | cons value rest ih =>
    by_cases hobject : ∃ fields, value = .object fields
    · obtain ⟨fields, rfl⟩ := hobject
      refine ih.imp ?_ ?_
      · rintro ⟨objects, rfl⟩
        exact ⟨fields :: objects, rfl⟩
      · rintro ⟨other, hmem, hother⟩
        exact ⟨other, List.mem_cons_of_mem _ hmem, hother⟩
    · exact .inr ⟨value, List.mem_cons_self, fun fields heq => hobject ⟨fields, heq⟩⟩

theorem mergeAll_objects (merged : Object) (objects : List Object) :
    mergeAll merged (objects.map .object) = .done (objects.foldl Fields.merge merged) := by
  induction objects generalizing merged with
  | nil => rfl
  | cons fields rest ih => exact ih (Fields.merge merged fields)

theorem mergeObjects_objects (objects : List Object) :
    mergeObjects (objects.map .object) = .done (.object (Fields.union objects)) := by
  rw [mergeObjects, mergeAll_objects, Fields.foldl_merge]
  rfl

theorem mergeAll_of_other {values : List Value}
    (h : ∃ value ∈ values, ∀ fields, value ≠ .object fields) (merged : Object) :
    mergeAll merged values = .outsideDomain (.objectInput "$merge") := by
  induction values generalizing merged with
  | nil => simp at h
  | cons value rest ih =>
    cases value with
    | object fields =>
      refine ih ?_ (Fields.merge merged fields)
      simpa using h
    | _ => rfl

theorem mergeObjects_of_other {values : List Value}
    (h : ∃ value ∈ values, ∀ fields, value ≠ .object fields) :
    mergeObjects values = .outsideDomain (.objectInput "$merge") := by
  rw [mergeObjects, mergeAll_of_other h]
  rfl

end Builtin

namespace Engine

open Builtin

variable {engine : Engine}

-- Merging the values comes to this outcome in both modes: of the input and of what the operand
-- resolves to, a list or one more object, and of the list that the operand evaluates to.
structure Merges (engine : Engine) (values : List Value) (outcome : Except Failure Value) :
    Prop where
  applied : ∀ input found, values = input :: found.wildcardItems →
    engine.ComputesFrom (.against input) "$merge" found outcome
  evaluated : engine.ComputesFrom .alone "$merge" (.array values) outcome

theorem Has.merges (hhas : engine.Has ["$merge"]) {values : List Value}
    {outcome : Except Failure Value}
    (hrun : ∀ resolve registered,
      (mergeObjects values).run resolve registered = Run.ofExcept outcome) :
    engine.Merges values outcome where
  applied input found hvalues := by
    have hcall (operand : Value) : merge.call .apply operand input =
        .apply operand input >>= fun found => mergeObjects (input :: found.wildcardItems) := rfl
    refine hhas.computesFrom (by simp) find?_merge hcall fun resolve registered => ?_
    rw [← hvalues, hrun]
  evaluated := hhas.computesFrom (by simp) find?_merge (fun _ => rfl) hrun

theorem Has.merges_objects (hhas : engine.Has ["$merge"]) (objects : List Object) :
    engine.Merges (objects.map .object) (.ok (.object (Fields.union objects))) := by
  refine hhas.merges fun _ _ => ?_
  rw [mergeObjects_objects]
  rfl

theorem Has.merges_other (hhas : engine.Has ["$merge"]) {values : List Value}
    (h : ∃ value ∈ values, ∀ fields, value ≠ .object fields) :
    engine.Merges values (.error (.domain (.objectInput "$merge"))) := by
  refine hhas.merges fun _ _ => ?_
  rw [mergeObjects_of_other h]
  rfl

-- The union of objects keeps the first place and the last value of every key; objects can be merged
-- in groups, and the merged groups be merged again; and nothing but objects can be merged.
theorem Has.merge_ordered_union (hhas : engine.Has ["$merge"]) :
    (∀ objects : List Object, ∃ merged, Fields.UnionOf objects merged ∧
      engine.Merges (objects.map .object) (.ok (.object merged))) ∧
      (∀ first second : List Object, ∃ left right merged,
        engine.Merges (first.map .object) (.ok (.object left)) ∧
          engine.Merges (second.map .object) (.ok (.object right)) ∧
          engine.Merges ((first ++ second).map .object) (.ok (.object merged)) ∧
          engine.Merges [.object left, .object right] (.ok (.object merged))) ∧
      ∀ values : List Value, ∃ outcome, engine.Merges values outcome ∧
        (outcome = .error (.domain (.objectInput "$merge")) ↔
          ∃ value ∈ values, ∀ fields, value ≠ .object fields) := by
  refine ⟨fun objects => ⟨_, Fields.unionOf_union objects, hhas.merges_objects objects⟩,
    fun first second => ?_, fun values => ?_⟩
  · have hgroups := hhas.merges_objects [Fields.union first, Fields.union second]
    rw [← Fields.union_append] at hgroups
    exact ⟨_, _, _, hhas.merges_objects first, hhas.merges_objects second,
      hhas.merges_objects (first ++ second), hgroups⟩
  · rcases objects_or_other values with ⟨objects, rfl⟩ | hother
    · exact ⟨_, hhas.merges_objects objects, by simp⟩
    · exact ⟨_, hhas.merges_other hother, by simpa using hother⟩

-- The second object gives a key of the first another value and leaves it in its place.
theorem merge_overlapping_objects :
    let first : Object := [("b", .bool true), ("a", .null)]
    let second : Object := [("c", .null), ("b", .bool false)]
    complete.Has ["$merge"] ∧ first.keys.Nodup ∧ second.keys.Nodup ∧ ∃ merged : Object,
      merged.keys = ["b", "a", "c"] ∧ merged.find? "b" = some (.bool false) ∧
        merged.find? "a" = some .null ∧ ∀ world,
          (complete.apply (.object [("$merge", .object second)]) (.object first) world).result =
              .ok (.object merged) ∧
            (complete.evaluate (.object [("$merge", .array [.object first, .object second])])
              world).result = .ok (.object merged) ∧
            (complete.apply (.object [("$merge", .array [.object second, .null])]) (.object first)
              world).result = .error (.domain (.objectInput "$merge")) := by
  intro first second
  have hhas : complete.Has ["$merge"] := complete_has (by decide)
  have hfirst : first.keys.Nodup := by decide
  have hsecond : second.keys.Nodup := by decide
  obtain ⟨hunion, -, hother⟩ := hhas.merge_ordered_union
  obtain ⟨merged, hmerged, hmerges⟩ := hunion [first, second]
  obtain ⟨outcome, hfails, hdomain⟩ := hother [.object first, .object second, .null]
  have hkeys : merged.keys = ["b", "a", "c"] := hmerged.keys
  have hb := hmerged.last [first] second [] rfl hsecond "b" (by decide) (by simp)
  have ha := hmerged.last [] first [second] rfl hfirst "a" (by decide) (by decide)
  refine ⟨hhas, hfirst, hsecond, merged, hkeys, hb, ha, fun world => ⟨?_, ?_, ?_⟩⟩
  · exact (hmerges.applied (.object first) (.object second) rfl (.object second)).resolved rfl world
      (.singleton rfl)
  · exact (hmerges.evaluated (.array [.object first, .object second])).resolved rfl world
      (.singleton rfl)
  · rw [← hdomain.mpr ⟨.null, by simp, by simp⟩]
    exact (hfails.applied (.object first) (.array [.object second, .null]) rfl
      (.array [.object second, .null])).resolved rfl world (.singleton rfl)

end Engine

end JsonExpr
