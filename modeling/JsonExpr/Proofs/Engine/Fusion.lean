import JsonExpr.Proofs.Builtin.Fusion
import JsonExpr.Proofs.Engine.Composition
import JsonExpr.Proofs.Engine.Negation
import JsonExpr.Proofs.Engine.Settling

-- Fusion in an engine: what two passes over a list come to, one pass comes to as well. The passes
-- resolve the same things in another order, so these have to settle.
namespace JsonExpr

namespace Engine

open Builtin

variable {engine : Engine} {names : List String} {levels : Nat}

def mapping (expression : Value) : Value := .object [("$map", expression)]

def keeping (expression : Value) : Value := .object [("$filter", expression)]

-- What an expression comes to with so many levels of dispatches.
def RelatesAt (engine : Engine) (levels : Nat) (expression : Value)
    (relation : Value → Value → Prop) : Prop :=
  Relates (engine.resolveWith (engine.dispatch levels)) expression relation

section Nodes

variable (hhas : engine.Has names) (hplain : engine.middleware = []) {f g : Value}
  {F G : Value → Value → Prop}

include hhas hplain

theorem Has.relatesAt {name : String} (hname : name ∈ names) {operation : Operation}
    (hfind : operations.find? name = some operation) {operand : Value}
    {relation : Value → Value → Prop}
    (h : ∀ input, ((operation.call .apply operand input).run
      (engine.resolveWith (engine.dispatch levels)) engine.registers).ComesTo (relation input)) :
    engine.RelatesAt (levels + 1) (.object [(name, operand)]) relation := by
  intro input
  rw [hhas.resolveWith_eq hplain hname hfind levels rfl]
  exact (h input).note_bind _

theorem Has.mapping_relatesAt (hname : "$map" ∈ names) (hf : engine.RelatesAt levels f F) :
    engine.RelatesAt (levels + 1) (mapping f) (Maps F) :=
  hhas.relatesAt hplain hname find?_map fun _ => comesTo_map hf

theorem Has.keeping_relatesAt (hname : "$filter" ∈ names) (hf : engine.RelatesAt levels f F) :
    engine.RelatesAt (levels + 1) (keeping f) (Filters F) :=
  hhas.relatesAt hplain hname find?_filter fun _ => comesTo_filter hf

theorem Has.conjunction_relatesAt (hname : "$and" ∈ names) (hf : engine.RelatesAt levels f F)
    (hg : engine.RelatesAt levels g G) :
    engine.RelatesAt (levels + 1) (conjunction [f, g]) (Conjoins F G) :=
  hhas.relatesAt hplain hname find?_and fun _ => comesTo_and hf hg

theorem Has.pipe_relatesAt (hname : "$pipe" ∈ names) (hf : engine.RelatesAt levels f F)
    (hg : engine.RelatesAt levels g G)
    (hregistered : ∀ expression ∈ [f, g], engine.isExpression expression = true) :
    engine.RelatesAt (levels + 1) (chained "$pipe" [f, g]) fun input output =>
      ∃ value, F input value ∧ G value output := by
  refine hhas.relatesAt hplain hname find?_pipe fun input => ?_
  rw [run_composition_applied _ _ _ (stray?_eq_none_iff.mpr hregistered)]
  exact comesTo_chain hf hg

end Nodes

theorem Has.isExpression (hhas : engine.Has names) {name : String} (hname : name ∈ names)
    (operand : Value) : engine.isExpression (.object [(name, operand)]) = true := by
  obtain ⟨operation, hfind, -⟩ := hhas name hname
  exact Value.namesOne_iff.mpr
    ⟨name, operand, rfl, isOperationName_of_find? hfind, hhas.registers hname⟩

theorem Settles.relatesAt {expression : Value} (h : engine.Settles expression) (levels : Nat) :
    engine.RelatesAt levels expression fun input output =>
      (engine.resolveWith (engine.dispatch levels) (.apply expression input)).Yields output :=
  fun input => (h levels input).comesTo

-- Two expressions of the same depth that relate inputs to outputs in the same way return the same.
theorem result_apply_iff {first second : Value} {relation : Nat → Value → Value → Prop}
    (hdepth : second.depth = first.depth)
    (hfirst : ∀ levels, engine.RelatesAt (levels + 2) first (relation levels))
    (hsecond : ∀ levels, engine.RelatesAt (levels + 2) second (relation levels)) (input : Value)
    (world world' : Surroundings) (value : Value) :
    (engine.apply first input world).result = .ok value ↔
      (engine.apply second input world').result = .ok value := by
  obtain ⟨levels, hlevels⟩ : ∃ levels, first.depth + allowance = levels + 2 := ⟨_ + 998, rfl⟩
  rw [apply, apply, resolve, resolve, Request.expression_apply, Request.expression_apply, hdepth,
    hlevels]
  exact (hfirst levels input).result_iff (hsecond levels input) world world' value

section Fusion

variable (hplain : engine.middleware = []) {f g : Value} (hf : engine.Settles f)
  (hg : engine.Settles g)

include hplain hf hg

theorem Has.maps_fuse (hhas : engine.Has ["$pipe", "$map"])
    (hregistered : ∀ expression ∈ [f, g], engine.isExpression expression = true)
    (input : Value) (world world' : Surroundings) (value : Value) :
    (engine.apply (chained "$pipe" [mapping f, mapping g]) input world).result = .ok value ↔
      (engine.apply (mapping (chained "$pipe" [f, g])) input world').result = .ok value := by
  have hmaps : ∀ expression ∈ [mapping f, mapping g], engine.isExpression expression = true := by
    simp [mapping, hhas.isExpression]
  have htwice (levels : Nat) := hhas.pipe_relatesAt hplain (by simp)
    (hhas.mapping_relatesAt hplain (by simp) (hf.relatesAt levels))
    (hhas.mapping_relatesAt hplain (by simp) (hg.relatesAt levels)) hmaps
  have honce (levels : Nat) := hhas.mapping_relatesAt hplain (by simp)
    (hhas.pipe_relatesAt hplain (by simp) (hf.relatesAt levels) (hg.relatesAt levels) hregistered)
  refine result_apply_iff ?_ (fun levels input => (htwice levels input).congr fun _ =>
    maps_comp_iff) honce input world world' value
  simp only [mapping, chained, Value.depth, Value.depthOfItems, Value.depthOfFields]
  omega

theorem Has.filters_fuse (hhas : engine.Has ["$pipe", "$filter", "$and"])
    (input : Value) (world world' : Surroundings) (value : Value) :
    (engine.apply (chained "$pipe" [keeping f, keeping g]) input world).result = .ok value ↔
      (engine.apply (keeping (conjunction [f, g])) input world').result = .ok value := by
  have hfilters : ∀ expression ∈ [keeping f, keeping g],
      engine.isExpression expression = true := by
    simp [keeping, hhas.isExpression]
  have htwice (levels : Nat) := hhas.pipe_relatesAt hplain (by simp)
    (hhas.keeping_relatesAt hplain (by simp) (hf.relatesAt levels))
    (hhas.keeping_relatesAt hplain (by simp) (hg.relatesAt levels)) hfilters
  have honce (levels : Nat) := hhas.keeping_relatesAt hplain (by simp)
    (hhas.conjunction_relatesAt hplain (by simp) (hf.relatesAt levels) (hg.relatesAt levels))
  refine result_apply_iff ?_ (fun levels input => (htwice levels input).congr fun _ =>
    filters_comp_iff) honce input world world' value
  simp only [keeping, conjunction, chained, Value.depth, Value.depthOfItems, Value.depthOfFields]
  omega

end Fusion

-- If the expressions settle, mapping one and then the other returns a value exactly if mapping
-- their pipe returns it, and filtering by one and then by the other exactly if filtering by their
-- conjunction does.
theorem iterations_fuse (hplain : engine.middleware = []) :
    (engine.Has ["$pipe", "$map"] → ∀ f g,
      engine.isExpression f = true → engine.isExpression g = true →
      engine.Settles f → engine.Settles g → ∀ input world world' value,
        (engine.apply (chained "$pipe" [mapping f, mapping g]) input world).result = .ok value ↔
          (engine.apply (mapping (chained "$pipe" [f, g])) input world').result = .ok value) ∧
    (engine.Has ["$pipe", "$filter", "$and"] → ∀ p q,
      engine.Settles p → engine.Settles q → ∀ input world world' value,
        (engine.apply (chained "$pipe" [keeping p, keeping q]) input world).result =
            .ok value ↔
          (engine.apply (keeping (conjunction [p, q])) input world').result = .ok value) := by
  constructor
  · intro hhas f g hf hg hsettles hsettles'
    exact hhas.maps_fuse hplain hsettles hsettles' (by simp [hf, hg])
  · intro hhas p q hsettles hsettles'
    exact hhas.filters_fuse hplain hsettles hsettles'

-- The text does not compare with the number, but it is left out before.
theorem fuse_first_and_tests :
    let first := Value.object [("$first", .null)]
    let other := Value.object [("$ne", .string "x")]
    let greater := Value.object [("$gt", .int 1)]
    complete.middleware = [] ∧ complete.Has ["$pipe", "$map"] ∧
      complete.Has ["$pipe", "$filter", "$and"] ∧
      (∀ expression ∈ [first, other, greater], complete.isExpression expression = true ∧
        complete.Settles expression) ∧
      ∀ world,
        (complete.apply (mapping (chained "$pipe" [first, greater]))
          (.array [.array [.int 1, .int 2], .array [.int 2]]) world).result =
            .ok (.array [.bool false, .bool true]) ∧
        (complete.apply (keeping (conjunction [other, greater]))
          (.array [.string "x", .int 1, .int 2]) world).result = .ok (.array [.int 2]) := by
  intro first other greater
  have hmap : complete.Has ["$pipe", "$map"] := complete_has (by decide)
  have hfilter : complete.Has ["$pipe", "$filter", "$and"] := complete_has (by decide)
  have hregistered : ∀ expression ∈ [first, other, greater],
      complete.isExpression expression = true := by decide
  have hstill : ∀ expression ∈ [first, other, greater], ∀ name ∈ expression.mentioned,
      name ∉ Builtin.drawingNames := by decide
  have hsettles : ∀ expression ∈ [first, other, greater], complete.Settles expression :=
    fun expression hmem => Still.settles rfl (complete_still (hstill expression hmem))
  obtain ⟨hmaps, hfilters⟩ := @iterations_fuse complete rfl
  refine ⟨rfl, hmap, hfilter, fun expression hmem => ⟨hregistered expression hmem,
    hsettles expression hmem⟩, fun world => ⟨?_, ?_⟩⟩
  · exact (hmaps hmap first greater (by decide) (by decide) (hsettles first (by simp))
      (hsettles greater (by simp)) _ world world _).mp rfl
  · exact (hfilters hfilter other greater (hsettles other (by simp))
      (hsettles greater (by simp)) _ world world _).mp rfl

end Engine

end JsonExpr
