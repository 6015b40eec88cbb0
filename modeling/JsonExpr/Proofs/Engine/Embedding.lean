import JsonExpr.Proofs.Builtin.Forms
import JsonExpr.Proofs.Engine.Nesting

-- Expressions with the input put into the operand: evaluated, they come to what the expressions
-- without it come to when they are applied to the input.
namespace JsonExpr

namespace Engine

open Builtin (Embedding)

variable {engine : Engine} {name : String}

-- One level of dispatches is enough for constant templates.
theorem Has.resolveWith_constant_alike {names : List String} (hhas : engine.Has names)
    (hplain : engine.middleware = []) (hname : literalName ∈ names) (levels : Nat)
    {request : Request} (hconstant : request.expression.IsConstant) :
    Run.Alike Failure.SameKind (engine.resolveWith (engine.dispatch (levels + 1)) request)
      (.done request.expression.constant) := by
  rw [Value.constant, ← Value.fill_done]
  refine (Run.alikeness Failure.SameKind).fill request.expression fun hole hmem => ?_
  obtain ⟨value, rfl⟩ := Value.isLiteralEscape_iff.mp (hconstant hole hmem)
  rw [Value.escape, hhas.resolveHole_eq hplain hname Builtin.find?_literal]
  refine (Run.note_dispatching_alike _ _).bind_left ?_
  cases request <;> exact .refl _

theorem Has.resolve_constant {names : List String} (hhas : engine.Has names)
    (hplain : engine.middleware = []) (hname : literalName ∈ names) {request : Request}
    (hconstant : request.expression.IsConstant) (world : Surroundings) :
    (engine.resolve request world).result = .ok request.expression.constant :=
  (hhas.resolveWith_constant_alike hplain hname _ hconstant).result_of_done world

section Complete

variable (hhas : engine.Has Builtin.operations.keys) (hplain : engine.middleware = [])

include hhas hplain

theorem Has.settlesConstants (levels : Nat) :
    SettlesConstants (engine.resolveWith (engine.dispatch (levels + 1))) :=
  have hliteral := mem_keys_of_find? Builtin.find?_literal
  ⟨fun h _ => hhas.resolveWith_constant_alike hplain hliteral levels h,
    fun h => hhas.resolveWith_constant_alike hplain hliteral levels h⟩

-- Two levels of dispatches are enough to run an operation on its input and constant parameters.
theorem Has.embedding_alike {source applied evaluated : Value} (hsource : source.IsConstant)
    (h : Embedding source name applied evaluated) (levels : Nat) :
    Run.Alike Failure.SameKind
      (engine.resolveWith (engine.dispatch (levels + 2))
        (.apply (.object [(name, applied)]) source.constant))
      (engine.resolveWith (engine.dispatch (levels + 2))
        (.evaluate (.object [(name, evaluated)]))) := by
  obtain ⟨operation, hfind, hembeds⟩ := h.embeds hsource
  have hname := mem_keys_of_find? hfind
  rw [hhas.resolveWith_eq hplain hname hfind (levels + 1) rfl,
    hhas.resolveWith_eq hplain hname hfind (levels + 1) rfl]
  refine (Run.note_dispatching_alike _ _).bind_left ?_
  refine (Run.note_dispatching_alike _ _).bind_right ?_
  exact hembeds _ _ (hhas.settlesConstants hplain levels)

-- Evaluating an expression with the input in its operand and applying it without to the input come
-- to the same value or to failures of one class, with the same log. Only operations of other origin
-- can keep them from it, by nesting dispatches deeper than any limit.
theorem Has.apply_alike_embedded {source applied evaluated : Value} (hsource : source.IsConstant)
    (h : Embedding source name applied evaluated) (world : Surroundings) :
    let report := engine.apply (.object [(name, applied)]) source.constant world
    let report' := engine.evaluate (.object [(name, evaluated)]) world
    report.Alike Failure.SameKind report' ∨
      ¬engine.BuiltIn ∧ (report.result = .error .tooDeep ∨ report'.result = .error .tooDeep) := by
  intro report report'
  by_cases hdeep : report.result = .error .tooDeep ∨ report'.result = .error .tooDeep
  · refine .inr ⟨fun hbuiltin => ?_, hdeep⟩
    have hfinishes : ∀ request, (engine.resolve request world).result ≠ .error .tooDeep :=
      fun request h =>
        hbuiltin.resolveWith_finishes hplain (Nat.le_add_right _ allowance) world _ h rfl
    exact hdeep.elim (hfinishes _) (hfinishes _)
  · obtain ⟨henough, henough'⟩ := not_or.mp hdeep
    let request : Request := .apply (.object [(name, applied)]) source.constant
    let request' : Request := .evaluate (.object [(name, evaluated)])
    let levels := request.expression.depth + allowance + (request'.expression.depth + allowance)
    have hle : request.expression.depth + allowance ≤ levels + 2 := by omega
    have hle' : request'.expression.depth + allowance ≤ levels + 2 := by omega
    have hreport : engine.resolveWith (engine.dispatch (levels + 2)) request world = report :=
      resolveWith_eq_of_le hplain hle henough
    have hreport' : engine.resolveWith (engine.dispatch (levels + 2)) request' world = report' :=
      resolveWith_eq_of_le hplain hle' henough'
    left
    rw [← hreport, ← hreport']
    exact hhas.embedding_alike hplain hsource h levels world

end Complete

-- The default is taken as it is in both forms, though it looks like an expression.
theorem get_with_default_embedded :
    let data := Value.object [("b", .int 1)]
    let fallback := Value.escape (.object [("$get", .string "b")])
    let applied := Value.object [("path", .string "a"), ("default", fallback)]
    let evaluated := Value.object
      [("object", data.escape), ("path", .string "a"), ("default", fallback)]
    complete.Has Builtin.operations.keys ∧ complete.middleware = [] ∧ data.escape.IsConstant ∧
      Embedding data.escape "$get" applied evaluated ∧
      ∀ world, (complete.apply (.object [("$get", applied)]) data world).Alike Failure.SameKind
        (complete.evaluate (.object [("$get", evaluated)]) world) := by
  intro data fallback applied evaluated
  have hhas : complete.Has Builtin.operations.keys :=
    complete_has fun name hmem => (Fields.find?_isSome_iff name _).mpr hmem
  have hembedding : Embedding data.escape "$get" applied evaluated := by
    refine .getDefault rfl (by simp [Value.IsConstant, Value.holes]) rfl ⟨rfl, rfl⟩ rfl ?_
    rintro _ ⟨⟩
    exact Value.isConstant_escape _
  refine ⟨hhas, rfl, Value.isConstant_escape _, hembedding, fun world => ?_⟩
  exact (hhas.apply_alike_embedded rfl (Value.isConstant_escape _) hembedding world).resolve_right
    fun h => h.1 complete_builtIn

end Engine

end JsonExpr
