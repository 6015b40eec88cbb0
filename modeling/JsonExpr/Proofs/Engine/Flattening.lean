import JsonExpr.Proofs.Builtin.Embedding
import JsonExpr.Proofs.Builtin.Flattening
import JsonExpr.Proofs.Engine.BuiltIn
import JsonExpr.Proofs.Engine.Levels

-- Flattening in an engine, by a depth that the operand asks for. Depths add up, and nothing that is
-- no list is lost or moved.
namespace JsonExpr

namespace Builtin

theorem find?_flatten : operations.find? "$flatten" = some flatten := by
  simp [operations, Fields.find?]

-- A negative depth opens nothing.
theorem flattenDepth_of_find? {fields : Object} {depth : Int}
    (hdepth : fields.find? "depth" = some (.int depth)) :
    flattenDepth (.object fields) = .done depth.toNat := by
  rw [flattenDepth, hdepth]
  rfl

section Runs

variable {resolve : Request → Run Value} {registered : String → Bool} {fields : Object}
  {depth : Int} (hdepth : fields.find? "depth" = some (.int depth)) {items : List Value}

include hdepth

theorem yields_flatten_applied :
    ((flatten.call .apply (.object fields) (.array items)).run resolve registered).Yields
      (.array (flattenItems depth.toNat items)) := by
  simp only [flatten, both, Operation.call, requireList, flattenDepth_of_find? hdepth,
    Script.run_bind, Script.run_done, Run.bind_done]
  exact Run.yields_done _

theorem yields_flatten_evaluated {source input : Value}
    (harray : fields.find? "array" = some source)
    (hitems : (resolve (.evaluate source)).Yields (.array items)) :
    ((flatten.call .evaluate (.object fields) input).run resolve registered).Yields
      (.array (flattenItems depth.toNat items)) := by
  have hkeys : requireKeys "$flatten" ["array"] (.object fields) = .done fields :=
    requireKeys_of_contains (by simp [contains_of_find? harray])
  simp only [flatten, both, Operation.call, hkeys, field_of_find? harray,
    flattenDepth_of_find? hdepth, Script.run_bind, Script.run_done, Script.run_evaluate,
    Run.bind_done]
  exact hitems.bind (Run.yields_done _)

end Runs

end Builtin

namespace Engine

open Builtin

variable {engine : Engine}

def flattening (operand : Value) : Value := .object [("$flatten", operand)]

-- What a list comes to when it is flattened by a depth, in both modes: in a call of the engine,
-- whatever layers its requests go through, and from the outside if there are none.
structure Flattens (engine : Engine) (depth : Int) (items flat : List Value) : Prop where
  invoked : ∀ (resolve : Request → Run Value) (options : Object),
    options.find? "depth" = some (.int depth) →
    (engine.invoke resolve ⟨"$flatten", .apply, .object options, .array items⟩).Yields
      (.array flat)
  invokedAlone : ∀ (resolve : Request → Run Value) (fields : Object) (source : Value),
    fields.find? "depth" = some (.int depth) → fields.find? "array" = some source →
    (resolve (.evaluate source)).Yields (.array items) →
    (engine.invoke resolve ⟨"$flatten", .evaluate, .object fields, .null⟩).Yields (.array flat)
  applied : engine.middleware = [] → ∀ options : Object,
    options.find? "depth" = some (.int depth) →
    (engine.apply (flattening (.object options)) (.array items)).Yields (.array flat)
  evaluated : engine.middleware = [] → ∀ (fields : Object) (source : Value),
    fields.find? "depth" = some (.int depth) → fields.find? "array" = some source →
    (engine.evaluate source).Yields (.array items) →
    (engine.evaluate (flattening (.object fields))).Yields (.array flat)

-- It comes to one list only.
theorem Flattens.unique {depth : Int} {items flat flat' : List Value}
    (h : engine.Flattens depth items flat) (h' : engine.Flattens depth items flat') :
    flat = flat' := by
  have hinvoked := h.invoked (fun _ => .done .null) [("depth", .int depth)] rfl
    ⟨mkStdGen 0, default⟩
  rw [h'.invoked (fun _ => .done .null) [("depth", .int depth)] rfl] at hinvoked
  exact (Value.array.inj (Except.ok.inj hinvoked)).symm

section Flattening

variable (hhas : engine.Has ["$flatten"])

include hhas

theorem Has.flattens (depth : Int) (items : List Value) :
    engine.Flattens depth items (flattenItems depth.toNat items) where
  invoked resolve options hdepth := by
    rw [hhas.invoke_eq (List.mem_singleton_self _) find?_flatten]
    exact (Run.yields_note _).bind (yields_flatten_applied hdepth)
  invokedAlone resolve fields source hdepth harray hitems := by
    rw [hhas.invoke_eq (List.mem_singleton_self _) find?_flatten]
    exact (Run.yields_note _).bind (yields_flatten_evaluated hdepth harray hitems)
  applied hplain options hdepth := by
    rw [apply, hhas.resolve_operand hplain (List.mem_singleton_self _) find?_flatten _ rfl]
    exact (Run.yields_note _).bind (yields_flatten_applied hdepth)
  evaluated hplain fields source hdepth harray hitems := by
    have hsource := (Value.Part.of_find? harray).depth_le
    rw [evaluate, hhas.resolve_operand hplain (List.mem_singleton_self _) find?_flatten _ rfl]
    refine (Run.yields_note _).bind (yields_flatten_evaluated hdepth harray ?_)
    refine yields_resolveWith hplain hitems ?_
    rw [Request.expression_evaluate]
    omega

-- Flattening by a sum of depths is flattening by one and then by the other, and a depth of zero or
-- less changes nothing. At any depth the same leaves are left in the same order, and there are no
-- lists among the items exactly if no item had more lists inside one another than were opened.
theorem Has.flatten_additive (items : List Value) (depth : Int) :
    ∃ flat, engine.Flattens depth items flat ∧
      (depth ≤ 0 → flat = items) ∧
      Value.leavesOfItems flat = Value.leavesOfItems items ∧
      ((∀ item ∈ flat, item.isArray = false) ↔
        ∀ item ∈ items, item.listDepth ≤ depth.toNat) ∧
      ∀ more : Int, 0 ≤ depth → 0 ≤ more → ∃ flatter,
        engine.Flattens more flat flatter ∧ engine.Flattens (depth + more) items flatter := by
  refine ⟨_, hhas.flattens depth items, fun hdepth => ?_, leavesOfItems_flattenItems _ items,
    forall_mem_flattenItems_iff, fun more hdepth hmore => ?_⟩
  · rw [Int.toNat_of_nonpos hdepth, flattenItems]
  · refine ⟨_, hhas.flattens more _, ?_⟩
    have hsum := hhas.flattens (depth + more) items
    rwa [Int.toNat_add hdepth hmore, flattenItems_add] at hsum

end Flattening

-- An empty list is a level of its own: it is left by the first pass and gone after the second.
theorem flatten_empty_list_in_two :
    let items : List Value := [.int 1, .array [.array [], .string "a"]]
    let flat : List Value := [.int 1, .array [], .string "a"]
    complete.Has ["$flatten"] ∧ complete.Flattens 1 items flat ∧
      complete.Flattens 1 flat [.int 1, .string "a"] ∧
      complete.Flattens 2 items [.int 1, .string "a"] := by
  intro items flat
  have hhas : complete.Has ["$flatten"] := complete_has (by decide)
  have hflat : complete.Flattens 1 items flat := hhas.flattens 1 items
  have hflatter : complete.Flattens 1 flat [.int 1, .string "a"] := hhas.flattens 1 flat
  obtain ⟨found, hfound, -, -, -, hmore⟩ := hhas.flatten_additive items 1
  obtain rfl := hfound.unique hflat
  obtain ⟨flatter, hagain, hsum⟩ := hmore 1 (by decide) (by decide)
  obtain rfl := hagain.unique hflatter
  exact ⟨hhas, hflat, hflatter, hsum⟩

end Engine

end JsonExpr
