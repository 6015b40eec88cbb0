import JsonExpr.Proofs.Builtin.Embedding
import JsonExpr.Proofs.Builtin.Grouping
import JsonExpr.Proofs.Engine.BuiltIn
import JsonExpr.Proofs.Engine.Levels

-- Grouping in an engine. The groups are a partition of the items by the names of their keys.
namespace JsonExpr

open Builtin

namespace Builtin

theorem find?_groupBy : operations.find? "$groupBy" = some groupBy := by
  simp [operations, Fields.find?]

end Builtin

namespace Engine

variable {engine : Engine}

def grouping (operand : Value) : Value := .object [("$groupBy", operand)]

-- Keys that resolve from the outside do so inside of the call as well.
theorem keyed_resolveWith (hplain : engine.middleware = []) {selector : Value} {levels : Nat}
    (hlevels : selector.depth + allowance ≤ levels) {entries : List (Value × Value)}
    {world : Surroundings} (hkeyed : Keyed engine.resolve selector entries world) :
    Keyed (engine.resolveWith (engine.dispatch levels)) selector entries world := by
  induction entries generalizing world with
  | nil => rfl
  | cons entry rest ih =>
    obtain ⟨item, key⟩ := entry
    obtain ⟨hkey, hrest⟩ := keyed_cons_iff.mp hkeyed
    have hsame : keyRun (engine.resolveWith (engine.dispatch levels)) selector item world =
        keyRun engine.resolve selector item world := by
      unfold keyRun at hkey ⊢
      split at hkey
      · rfl
      · exact resolveWith_eq_resolve hplain hkey hlevels
    rw [keyed_cons_iff, hsame]
    exact ⟨hkey, ih hrest⟩

section Grouping

variable (hhas : engine.Has ["$groupBy"]) {selector : Value} {entries : List (Value × Value)}
  {world : Surroundings}

include hhas

theorem Has.result_invoke_groupBy {resolve : Request → Run Value}
    (hkeyed : Keyed resolve selector entries world) :
    (engine.invoke resolve ⟨"$groupBy", .apply, selector, .array (entries.map Prod.fst)⟩
        world).result = grouped selector entries ∧
      ∀ source before events, resolve (.evaluate source) before =
          ⟨.ok (.array (entries.map Prod.fst)), events, world⟩ →
        (engine.invoke resolve ⟨"$groupBy", .evaluate, .array [source, selector], .null⟩
          before).result = grouped selector entries := by
  have hname : "$groupBy" ∈ ["$groupBy"] := List.mem_singleton_self _
  constructor
  · rw [hhas.invoke_eq hname find?_groupBy, Run.result_note_bind]
    exact result_groupBy_applied hkeyed
  · intro source before events hitems
    rw [hhas.invoke_eq hname find?_groupBy, Run.result_note_bind]
    exact result_groupBy_evaluated hitems hkeyed

theorem Has.result_grouping (hplain : engine.middleware = [])
    (hkeyed : Keyed engine.resolve selector entries world) :
    (engine.apply (grouping selector) (.array (entries.map Prod.fst)) world).result =
        grouped selector entries ∧
      ∀ source before events, engine.evaluate source before =
          ⟨.ok (.array (entries.map Prod.fst)), events, world⟩ →
        (engine.evaluate (grouping (.array [source, selector])) before).result =
          grouped selector entries := by
  have hname : "$groupBy" ∈ ["$groupBy"] := List.mem_singleton_self _
  constructor
  · rw [apply, hhas.resolve_operand hplain hname find?_groupBy _ rfl, Run.result_note_bind]
    exact result_groupBy_applied (keyed_resolveWith hplain (Nat.le_refl _) hkeyed)
  · intro source before events hitems
    rw [evaluate, hhas.resolve_operand hplain hname find?_groupBy _ rfl, Run.result_note_bind]
    have hdepth : ∀ part ∈ [source, selector],
        part.depth + allowance ≤ (Value.array [source, selector]).depth + allowance :=
      fun part hmem => Nat.add_le_add_right (Value.Part.item hmem (.refl part)).depth_le _
    rw [evaluate] at hitems
    have hinside := resolveWith_eq_resolve hplain (congrArg Report.result hitems)
      (hdepth source (by simp))
    exact result_groupBy_evaluated (hinside.trans hitems)
      (keyed_resolveWith hplain (hdepth selector (by simp)) hkeyed)

end Grouping

-- If the keys of all items resolve and none is null, grouping returns a partition of the items:
-- each is in one group and as often as in the list, two are in the same group exactly if the names
-- of their keys are the same text, and groups and items are in the order of the list. If they
-- resolve and some key is null, grouping fails on such an item. So it is in a call of any engine,
-- whatever layers its requests go through, and from the outside if there are none.
theorem Has.groupBy_partitions (hhas : engine.Has ["$groupBy"]) (selector : Value)
    (entries : List (Value × Value)) :
    ∃ answer : Except Failure Value,
      ((∀ entry ∈ entries, entry.2.isNull = false) →
        ∃ placed, Partitions (groupName ∘ Prod.snd) entries placed ∧
          (∀ x ∈ entries.zipIdx, ∀ y ∈ entries.zipIdx,
            (∃ group ∈ placed, x ∈ group.2 ∧ y ∈ group.2) ↔
              groupName x.1.2 = groupName y.1.2) ∧
          answer = .ok (.object (placed.map fun group =>
            (group.1, .array (group.2.map fun x => x.1.1))))) ∧
      ((∃ entry ∈ entries, entry.2.isNull = true) →
        ∃ entry ∈ entries, entry.2.isNull = true ∧
          answer = .error (.domain (.cannotGroup entry.1 selector))) ∧
      (∀ resolve world, Keyed resolve selector entries world →
        (engine.invoke resolve ⟨"$groupBy", .apply, selector, .array (entries.map Prod.fst)⟩
            world).result = answer ∧
          ∀ source before events, resolve (.evaluate source) before =
              ⟨.ok (.array (entries.map Prod.fst)), events, world⟩ →
            (engine.invoke resolve ⟨"$groupBy", .evaluate, .array [source, selector], .null⟩
              before).result = answer) ∧
      (engine.middleware = [] → ∀ world, Keyed engine.resolve selector entries world →
        (engine.apply (grouping selector) (.array (entries.map Prod.fst)) world).result = answer ∧
          ∀ source before events, engine.evaluate source before =
              ⟨.ok (.array (entries.map Prod.fst)), events, world⟩ →
            (engine.evaluate (grouping (.array [source, selector])) before).result = answer) := by
  refine ⟨grouped selector entries, fun hpresent => ?_, fun hmissing => ?_,
    fun resolve world hkeyed => hhas.result_invoke_groupBy hkeyed,
    fun hplain world hkeyed => hhas.result_grouping hplain hkeyed⟩
  · obtain ⟨placed, hplaced, hgroups⟩ :=
      exists_partitions_groupInto (groupName ∘ Prod.snd) entries
    refine ⟨placed, hplaced, fun x hx y hy => hplaced.together_iff hx hy, ?_⟩
    have hnone : (entries.find? fun entry => entry.2.isNull) = none := by
      simpa using hpresent
    rw [grouped, hnone, hgroups]
    simp [itemsOf]
  · obtain ⟨entry, hentry⟩ :
        ∃ entry, (entries.find? fun entry => entry.2.isNull) = some entry := by
      rw [← Option.isSome_iff_exists, List.find?_isSome]
      exact hmissing
    refine ⟨entry, List.mem_of_find?_eq_some hentry, by simpa using List.find?_some hentry, ?_⟩
    rw [grouped, hentry]

-- A number and a text that is written like it are in one group, apart from each other in the list.
theorem groupBy_number_and_text :
    let selector := Value.object [("$identity", .null)]
    let items : List Value := [.string "1", .string "a", .int 1]
    let entries := items.map fun item => (item, item)
    complete.Has ["$groupBy"] ∧ complete.middleware = [] ∧
      (∀ entry ∈ entries, entry.2.isNull = false) ∧
      ∀ world, Keyed complete.resolve selector entries world ∧
        ∃ placed, Partitions (groupName ∘ Prod.snd) entries placed ∧
          (∃ group ∈ placed, ((.string "1", .string "1"), 0) ∈ group.2 ∧
            ((.int 1, .int 1), 2) ∈ group.2) ∧
          (complete.apply (grouping selector) (.array items) world).result =
            .ok (.object (placed.map fun group =>
              (group.1, .array (group.2.map fun x => x.1.1)))) := by
  intro selector items entries
  have hhas : complete.Has ["$groupBy"] := complete_has (by decide)
  have hpresent : ∀ entry ∈ entries, entry.2.isNull = false := by decide
  refine ⟨hhas, rfl, hpresent, fun world => ?_⟩
  have hkeyed : Keyed complete.resolve selector entries world := rfl
  obtain ⟨answer, hanswer, -, -, hresult⟩ := hhas.groupBy_partitions selector entries
  obtain ⟨placed, hplaced, htogether, rfl⟩ := hanswer hpresent
  refine ⟨hkeyed, placed, hplaced, ?_, (hresult rfl world hkeyed).1⟩
  refine (htogether ((.string "1", .string "1"), 0) ?_ ((.int 1, .int 1), 2) ?_).mpr (by decide)
  · simp [entries, items]
  · simp [entries, items]

end Engine

end JsonExpr
