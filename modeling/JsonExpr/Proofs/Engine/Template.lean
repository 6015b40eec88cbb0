import JsonExpr.Proofs.Engine.BuiltIn
import JsonExpr.Proofs.Run.Filling

-- Resolving is filling a template: what stands outside of the expressions stays as it is, and every
-- hole is replaced by what it comes to on its own.
namespace JsonExpr

def Request.on (request : Request) (value : Value) : Request :=
  match request with
  | apply _ input => apply value input
  | evaluate _ => evaluate value

@[simp] theorem Request.expression_on (request : Request) (value : Value) :
    (request.on value).expression = value := by cases request <;> rfl

namespace Engine

variable {engine : Engine} {request : Request}

theorem callFor_on (request : Request) (value : Value) (name : String) (operand : Value) :
    callFor (request.on value) name operand = callFor request name operand := by
  cases request <;> rfl

theorem resolve_on_node (engine : Engine) (request : Request) (name : String) (operand : Value) :
    engine.resolve (request.on (.object [(name, operand)])) =
      engine.resolveWith (engine.dispatch (operand.depth + allowance + 1))
        (request.on (.object [(name, operand)])) := by
  rw [resolve, request.expression_on, depth_node]

-- What a request comes to when dispatches may nest as far as it takes.
def ComesTo (engine : Engine) (request : Request) (world : Surroundings) (report : Report Value) :
    Prop :=
  ∃ enough, ∀ levels, enough ≤ levels →
    engine.resolveWith (engine.dispatch levels) request world = report

theorem resolveHole_eq_of_mem_holes (dispatch : Call → Run Value) {hole : Value}
    (hmem : hole ∈ request.expression.holes) :
    engine.resolveHole dispatch request hole = engine.resolveWith dispatch (request.on hole) := by
  obtain ⟨-, hshape⟩ := Value.mem_holes_iff.mp hmem
  obtain ⟨name, operand, rfl, hname⟩ := Value.hasExpressionShape_iff.mp hshape
  rw [resolveHole_node dispatch request hname,
    resolveWith_node dispatch (request.expression_on _) hname]
  cases request <;> rfl

theorem resolveWith_eq_fill (dispatch : Call → Run Value) :
    engine.resolveWith dispatch request =
      request.expression.fill fun hole => engine.resolveWith dispatch (request.on hole) := by
  rw [resolveWith, Value.fill_eq, Value.fill_eq,
    Run.inTurn_congr fun hole hmem => resolveHole_eq_of_mem_holes dispatch hmem]

-- Data without expressions stays as it is.
theorem resolveWith_of_isData (dispatch : Call → Run Value) (hdata : request.expression.IsData) :
    engine.resolveWith dispatch request = .done request.expression :=
  Value.fill_of_isData _ hdata

theorem resolveWith_fills (engine : Engine) (request : Request) (levels : Nat)
    (world : Surroundings) :
    request.expression.Filling (fun hole world report =>
      engine.resolveWith (engine.dispatch levels) (request.on hole) world = report) world
      (engine.resolveWith (engine.dispatch levels) request world) := by
  rw [Value.filling_iff, ← resolveWith_eq_fill]

-- If every value comes to its report in the end, then from some number of levels on all of them do.
theorem eventually_turns {values : List Value} {world : Surroundings}
    {report : Report (List Value)}
    (h : Run.Turns (fun hole => engine.ComesTo (request.on hole)) values world report) :
    ∃ enough, ∀ levels, enough ≤ levels → Run.Turns (fun hole world report =>
      engine.resolveWith (engine.dispatch levels) (request.on hole) world = report)
      values world report := by
  induction h with
  | nil world => exact ⟨0, fun _ _ => .nil world⟩
  | cons h _ ih =>
    obtain ⟨enough, hvalue⟩ := h
    obtain ⟨more, hrest⟩ := ih
    refine ⟨max enough more, fun levels hlevels => ?_⟩
    exact .cons (hvalue levels (by omega)) (hrest levels (by omega))
  | failed h =>
    obtain ⟨enough, hvalue⟩ := h
    exact ⟨enough, fun levels hlevels => .failed (hvalue levels hlevels)⟩

-- Whatever the operations and the layers are, a request comes to its own skeleton with the holes
-- replaced by what they come to. So it is for any number of levels, and so it is if every hole has
-- as many as it takes. Without expressions nothing happens.
theorem resolve_fills_template (engine : Engine) (request : Request) (world : Surroundings) :
    (∀ levels, request.expression.Filling (fun hole world report =>
      engine.resolveWith (engine.dispatch levels) (request.on hole) world = report) world
      (engine.resolveWith (engine.dispatch levels) request world)) ∧
    (∀ report, request.expression.Filling (fun hole => engine.ComesTo (request.on hole)) world
      report → engine.ComesTo request world report) ∧
    ((∀ part, request.expression.Part part → part.hasExpressionShape = false) →
      engine.resolve request world = ⟨.ok request.expression, [], world⟩) := by
  refine ⟨fun levels => resolveWith_fills engine request levels world, ?_, fun hdata => ?_⟩
  · rintro report ⟨results, hturns, hresult⟩
    obtain ⟨enough, henough⟩ := eventually_turns hturns
    refine ⟨enough, fun levels hlevels => ?_⟩
    rw [resolveWith_eq_fill]
    exact Value.filling_iff.mp ⟨results, henough levels hlevels, hresult⟩
  · have hholes : request.expression.holes = [] := by
      refine List.eq_nil_iff_forall_not_mem.mpr fun hole hmem => ?_
      obtain ⟨hexposed, hshape⟩ := Value.mem_holes_iff.mp hmem
      rw [hdata hole hexposed.part] at hshape
      cases hshape
    have hplug := request.expression.plug_holes
    rw [hholes] at hplug
    rw [resolve, resolveWith, Value.fill_eq, hholes, Run.inTurn, Run.bind_done, hplug]
    rfl

end Engine

end JsonExpr
