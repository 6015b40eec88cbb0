import JsonExpr.Proofs.Engine.BuiltIn
import JsonExpr.Proofs.Engine.Template
import JsonExpr.Proofs.Run.Searching

-- Negating a connective: it is the other connective of the negations, and what is resolved on the
-- way is the same.
namespace JsonExpr

namespace Builtin

-- The loop of a connective that is decided by the first value that counts as what is sought.
def decidedBy (sought : Bool) : (Value → Script Bool) → List Value → Script Bool :=
  if sought then Script.any else Script.every

theorem decidedBy_nil (sought : Bool) (test : Value → Script Bool) :
    decidedBy sought test [] = .done !sought := by cases sought <;> rfl

theorem decidedBy_cons (sought : Bool) (test : Value → Script Bool) (value : Value)
    (rest : List Value) :
    decidedBy sought test (value :: rest) = (do
      if (← test value) == sought then return sought else decidedBy sought test rest) := by
  cases sought <;>
    exact congrArg (Script.bind (test value)) (funext fun passes => by cases passes <;> rfl)

-- The two connectives, by what decides them.
def connectives : Bool → String
  | false => "$and"
  | true => "$or"

theorem find?_connective (sought : Bool) :
    operations.find? (connectives sought) =
      some (connective (connectives sought) (decidedBy sought)) := by
  cases sought <;> simp [operations, Fields.find?, connectives, and, or, decidedBy]

theorem find?_not : operations.find? "$not" = some not := by simp [operations, Fields.find?]

section Runs

variable {resolve : Request → Run Value} {registered : String → Bool} {request : Request}
  {sought : Bool} {values resolved : List Value} {world : Surroundings} {report : Report Bool}

theorem run_decidedBy {form : Value → Script Value}
    (h : Run.Search (fun value => (form value).run resolve registered) sought values resolved world
      report) :
    (decidedBy sought (fun value => do return (← form value).isTruthy) values).run resolve
      registered world = report.map (· == sought) := by
  induction h with
  | exhausted world =>
    rw [decidedBy_nil]
    cases sought <;> rfl
  | found hvalue hsought =>
    simp only [decidedBy_cons, Script.run_bind, Run.bind_assoc]
    rw [Run.bind_of_ok hvalue]
    simp [hsought, Report.map, Run.done, Except.map]
  | failed hvalue =>
    simp only [decidedBy_cons, Script.run_bind, Run.bind_assoc]
    rw [Run.bind_of_error hvalue]
    rfl
  | passed hvalue hother _ ih =>
    simp only [decidedBy_cons, Script.run_bind, Run.bind_assoc]
    rw [Run.bind_of_ok hvalue]
    simp only [Script.run_pure, Run.bind_done, hother, Bool.not_beq_self, Bool.false_eq_true,
      ite_false, ih]
    rfl

-- A connective runs a search, and returns what is sought if the search finds it.
theorem run_connective (name : String)
    (h : Run.Search (fun value => resolve (request.on value)) sought values resolved world report) :
    let call := Engine.callFor request name (.array values)
    ((connective name (decidedBy sought)).call call.mode (.array values) call.input).run resolve
      registered world = report.map fun found => .bool (found == sought) := by
  have hrun {form : Value → Script Value}
      (hform : ∀ value, (form value).run resolve registered = resolve (request.on value)) :
      ((do return .bool (← decidedBy sought (fun value => do return (← form value).isTruthy)
        values) : Script Value)).run resolve registered world =
        report.map fun found => .bool (found == sought) := by
    simp only [← hform] at h
    simp only [Script.run_bind, Script.run_pure, ← Run.map_eq_bind_done]
    rw [run_decidedBy h, Report.map_map]
  cases request with
  | apply _ input => exact hrun fun value => Script.run_apply resolve registered value input
  | evaluate => exact hrun fun value => Script.run_evaluate resolve registered value

theorem run_not (operand : Value) :
    let call := Engine.callFor request "$not" operand
    (not.call call.mode operand call.input).run resolve registered =
      (resolve (request.on operand)).bind fun result => .done (.bool !result.isTruthy) := by
  cases request <;>
    simp only [not, both, Operation.call, Engine.callFor, Request.on, Script.run_bind,
      Script.run_apply, Script.run_evaluate, Script.run_pure]

end Runs

end Builtin

namespace Engine

open Builtin

variable {engine : Engine}

def negated (value : Value) : Value := .object [("$not", value)]

-- The connective that is decided by the first value which counts as what is sought.
def connected (sought : Bool) (values : List Value) : Value :=
  .object [(connectives sought, .array values)]

def conjunction (values : List Value) : Value := .object [("$and", .array values)]

def disjunction (values : List Value) : Value := .object [("$or", .array values)]

theorem depth_array_map_negated {values : List Value} (h : values ≠ []) :
    (Value.array (values.map negated)).depth = (Value.array values).depth + 1 := by
  have hitems : Value.depthOfItems (values.map negated) = Value.depthOfItems values + 1 := by
    induction values with
    | nil => exact absurd rfl h
    | cons value rest ih =>
      have hvalue : (negated value).depth = value.depth + 1 := by
        simp [negated, Value.depth, Value.depthOfFields]
      cases rest with
      | nil => simp [Value.depthOfItems, hvalue]
      | cons next rest =>
        rw [List.map_cons, Value.depthOfItems, ih (by simp), hvalue, Value.depthOfItems.eq_2 value]
        omega
  rw [Value.depth, Value.depth, hitems]

-- What values come to inside of a call from the outside with this operand.
def settle (engine : Engine) (request : Request) (operand value : Value) : Run Value :=
  engine.resolveWith (engine.dispatch (operand.depth + allowance)) (request.on value)

-- Two expressions that come to the same: the one searches the values, and the other searches the
-- negations for the opposite. What the one resolves are the values whose negations the other
-- resolves. Both return the opposite of what is sought if they find it, and what is sought if not.
structure Mirrors (engine : Engine) (request : Request) (sought : Bool) (values : List Value)
    (left right : Value) (world : Surroundings) : Prop where
  alike : (engine.resolve (request.on left) world).Alike Eq
    (engine.resolve (request.on right) world)
  search : ∃ resolved report report', resolved <+: values ∧
    Run.Search (engine.settle request (.array values)) sought values resolved world report ∧
    Run.Search (engine.settle request (.array (values.map negated))) (!sought)
      (values.map negated) (resolved.map negated) world report' ∧
    (engine.resolve (request.on left) world).Alike Eq
      (report.map fun found => .bool (found != sought)) ∧
    (engine.resolve (request.on right) world).Alike Eq
      (report'.map fun found => .bool (found != sought))

theorem Has.resolveWith_connected {names : List String} (hhas : engine.Has names)
    (hplain : engine.middleware = []) (levels : Nat) (request : Request) {sought : Bool}
    (hname : connectives sought ∈ names) {values resolved : List Value} {world : Surroundings}
    {report : Report Bool}
    (h : Run.Search (fun value => engine.resolveWith (engine.dispatch levels) (request.on value))
      sought values resolved world report) :
    (engine.resolveWith (engine.dispatch (levels + 1)) (request.on (connected sought values))
      world).Alike Eq (report.map fun found => .bool (found == sought)) := by
  rw [hhas.resolveWith_eq hplain hname (find?_connective sought) levels
    (request.expression_on (connected sought values))]
  refine (Run.dispatching_bind_alike _ _ _ world).trans ?_
  rw [callFor_on, run_connective _ h]
  exact .refl _

section Negating

variable (hhas : engine.Has ["$and", "$not", "$or"]) (hplain : engine.middleware = [])

include hhas hplain

theorem Has.resolveWith_negated (levels : Nat) (request : Request) (value : Value)
    (world : Surroundings) :
    (engine.resolveWith (engine.dispatch (levels + 1)) (request.on (negated value)) world).Alike Eq
      ((engine.resolveWith (engine.dispatch levels) (request.on value) world).map fun result =>
        .bool !result.isTruthy) := by
  rw [hhas.resolveWith_eq hplain (by simp) find?_not levels (request.expression_on (negated value))]
  refine (Run.dispatching_bind_alike _ _ _ world).trans ?_
  rw [callFor_on, run_not, Run.map_eq_bind_done]
  exact .refl _

theorem Has.negated_connected (request : Request) (sought : Bool) (values : List Value)
    (world : Surroundings) :
    engine.Mirrors request sought values (negated (connected sought values))
      (connected (!sought) (values.map negated)) world := by
  obtain ⟨resolved, report, hsearch⟩ :=
    Run.exists_search (engine.settle request (.array values)) sought values world
  have hnegated : ∀ value ∈ values, ∀ world,
      (engine.settle request (.array (values.map negated)) (negated value) world).Alike Eq
        ((engine.settle request (.array values) value world).map fun result =>
          .bool !result.isTruthy) := by
    intro value hmem world
    rw [settle, depth_array_map_negated (List.ne_nil_of_mem hmem), Nat.add_right_comm]
    exact hhas.resolveWith_negated hplain _ request value world
  obtain ⟨report', hsearch', halike⟩ := hsearch.negated hnegated
  have hnames (sought : Bool) : connectives sought ∈ ["$and", "$not", "$or"] := by
    cases sought <;> decide
  have hleft : (engine.resolve (request.on (negated (connected sought values))) world).Alike Eq
      (report.map fun found => .bool (found != sought)) := by
    have hconnected := hhas.resolveWith_connected hplain _ request (hnames _) hsearch
    have hinner := hconnected.map fun result => Value.bool !result.isTruthy
    rw [Report.map_map, ← depth_node] at hinner
    rw [negated, resolve_on_node]
    exact (hhas.resolveWith_negated hplain _ request _ world).trans hinner
  have hright : (engine.resolve (request.on (connected (!sought) (values.map negated)))
      world).Alike Eq (report'.map fun found => .bool (found != sought)) := by
    have hopposite (found : Bool) : (found == !sought) = (found != sought) := by
      cases found <;> cases sought <;> rfl
    have hconnected := hhas.resolveWith_connected hplain _ request (hnames _) hsearch'
    simp only [hopposite] at hconnected
    rw [connected, resolve_on_node]
    exact hconnected
  exact ⟨hleft.trans ((halike.symm.map _).trans hright.symm), resolved, report, report',
    hsearch.isPrefix, hsearch, hsearch', hleft, hright⟩

-- A negated conjunction is the disjunction of the negations, and a negated disjunction is their
-- conjunction: the boolean or the failure is the same, and so is the log. The first values are
-- resolved on both sides, up to the one that decides or fails.
theorem Has.negation_distributes (request : Request) (values : List Value) (world : Surroundings) :
    engine.Mirrors request false values (negated (conjunction values))
        (disjunction (values.map negated)) world ∧
      engine.Mirrors request true values (negated (disjunction values))
        (conjunction (values.map negated)) world :=
  ⟨hhas.negated_connected hplain request false values world,
    hhas.negated_connected hplain request true values world⟩

end Negating

-- The second value decides. It logs, and the unknown operation behind it is never found.
theorem negated_logging_conjunction :
    let logging := Value.object [("$debug", .int 0)]
    let values : List Value := [.int 1, logging, .object [("$foo", .null)]]
    complete.Has ["$and", "$not", "$or"] ∧ complete.middleware = [] ∧
      ∀ input world,
        (complete.apply (negated (conjunction values)) input world).result = .ok (.bool true) ∧
        Event.log false (complete.apply (negated (conjunction values)) input world).events =
          ["$debug: 0"] ∧
        (complete.apply (negated (conjunction values)) input world).Alike Eq
          (complete.apply (disjunction (values.map negated)) input world) := by
  intro logging values
  have hhas : complete.Has ["$and", "$not", "$or"] := complete_has (by decide)
  refine ⟨hhas, rfl, fun input world => ⟨rfl, rfl, ?_⟩⟩
  exact (hhas.negation_distributes rfl (.apply .null input) values world).1.alike

end Engine

end JsonExpr
