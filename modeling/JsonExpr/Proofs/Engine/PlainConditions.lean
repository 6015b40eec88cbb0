import JsonExpr.Proofs.Builtin.Clauses
import JsonExpr.Proofs.Engine.Calls
import JsonExpr.Proofs.Engine.FirstUnknown
import JsonExpr.Proofs.Engine.Overlooked

-- Tests by fields whose conditions are all data. No unknown operation is met in one, and validation
-- finds nothing in it either, unless it takes the path of the only condition for the name of an
-- operation.
namespace JsonExpr

namespace Builtin

-- Whether the value at each path is equal to what is given for it.
def meets (conditions : Object) (item : Value) : Bool :=
  conditions.all fun entry => (item.read (Path.parse entry.1)).equal entry.2

-- Conditions that are data are compared with the values, and nothing is resolved.
theorem conditionsHold_alike {conditions : Object} (hdata : ∀ entry ∈ conditions, entry.2.IsData)
    (resolve : Request → Run Value) (registered : String → Bool) (item : Value) :
    Run.Alike Eq ((conditionsHold item conditions).run resolve registered)
      (.done (meets conditions item)) := by
  rw [conditionsHold, Script.run_every fun entry => (item.read (Path.parse entry.1)).equal entry.2]
  · exact .refl _
  · intro entry hmem
    rw [Script.run_bind, Script.run_isExpression, (hdata entry hmem).namesOne registered]
    rfl

end Builtin

namespace Engine

open Builtin

variable {engine : Engine} {name : String}

theorem Inspects.part {value part : Value} (h : engine.Inspects value part) : value.Part part := by
  induction h with
  | refl value => exact .refl value
  | item hmem _ ih => exact .item hmem ih
  | field _ hmem _ ih => exact .field hmem ih

-- There is nothing to report of data.
theorem unknowns_of_isData {value : Value} (hdata : value.IsData) : engine.unknowns value = [] := by
  have hnone : engine.inspected value = [] := by
    refine List.eq_nil_iff_forall_not_mem.mpr fun node hmem => ?_
    obtain ⟨hinspects, hshape⟩ := mem_inspected_iff.mp hmem
    rw [hdata node hinspects.part] at hshape
    cases hshape
  rw [unknowns_eq, hnone, List.filterMap_nil]

-- What is to be reported of a registered expression, other than the literal escape, is what is to be
-- reported of its operand.
theorem unknowns_of_registers (hname : isOperationName name = true)
    (hregisters : engine.registers name = true) (hliteral : name ≠ literalName) (operand : Value) :
    engine.unknowns (.object [(name, operand)]) = engine.unknowns operand := by
  simp [unknowns, Value.expression?, hname, hregisters, hliteral, unknownsOfFields]

-- A test by fields.
def fieldTest (name : String) (conditions : Object) : Value := .object [(name, .object conditions)]

-- Validation takes the path of a condition for the name of an operation: no other condition stands
-- beside it, and the path begins like such a name but is none that is registered.
structure Mistakes (engine : Engine) (conditions : Object) (path : String) (condition : Value) :
    Prop where
  alone : conditions = [(path, condition)]
  likeName : isOperationName path = true
  unregistered : engine.registers path = false

section Reports

variable {conditions : Object} {path : String} {condition : Value}

theorem Mistakes.unknowns_eq (h : engine.Mistakes conditions path condition) :
    engine.unknowns (.object conditions) = [⟨path, condition, engine.names⟩] := by
  obtain ⟨rfl, hname, hregisters⟩ := h
  simp [unknowns, Value.expression?, hname, hregisters]

theorem unknowns_of_not_mistakes (hdata : ∀ entry ∈ conditions, entry.2.IsData)
    (h : ∀ path condition, ¬engine.Mistakes conditions path condition) :
    engine.unknowns (.object conditions) = [] := by
  have hinside : engine.unknownsOfFields conditions = [] :=
    unknownsOfFields_eq_nil_iff.mpr fun entry hmem => unknowns_of_isData (hdata entry hmem)
  rw [unknowns]
  split
  · exact hinside
  · next path condition hnode =>
    obtain ⟨heq, hname⟩ := Value.expression?_eq_some_iff.mp hnode
    have hregisters : engine.registers path = true := by
      cases hregisters : engine.registers path with
      | true => rfl
      | false => exact absurd ⟨Value.object.inj heq, hname, hregisters⟩ (h path condition)
    simp [hregisters, hinside]

end Reports

section Tests

variable (hhas : engine.Has ["$matches", "$filterBy"]) {conditions : Object}

include hhas

theorem Has.validate_fieldTest (hname : name ∈ ["$matches", "$filterBy"]) :
    engine.validate (fieldTest name conditions) = engine.validate (.object conditions) := by
  have hkinds : isOperationName name = true ∧ name ≠ literalName := by
    simp only [List.mem_cons, List.not_mem_nil, or_false] at hname
    rcases hname with rfl | rfl <;> decide
  rw [validate, fieldTest, unknowns_of_registers hkinds.1 (hhas.registers hname) hkinds.2, validate]

variable (hdata : ∀ entry ∈ conditions, entry.2.IsData)

include hdata

theorem Has.computes_matching (input : Value) :
    engine.Computes (.against input) "$matches" (.object conditions) []
      (.ok (.bool (meets conditions input))) :=
  hhas.computes (by simp) find?_matches (by simp) fun _ world _ =>
    (matchesAll_applied_alike (conditionsHold_alike hdata _ _) input).result_of_done world

theorem Has.computes_filtering (items : List Value) :
    engine.Computes (.against (.array items)) "$filterBy" (.object conditions) []
      (.ok (.array (items.filter (meets conditions)))) :=
  hhas.computes (by simp) find?_filterBy (by simp) fun _ world _ =>
    (filterBy_applied_alike (conditionsHold_alike hdata _ _) items).result_of_done world

omit hdata in
theorem Has.computes_filtering_other {input : Value} (hinput : input.isArray = false) :
    engine.Computes (.against input) "$filterBy" (.object conditions) []
      (.error (.domain (.arrayInput "$filterBy"))) :=
  hhas.computes (by simp) find?_filterBy (by simp) fun _ _ _ => by
    cases input with
    | array => cases hinput
    | _ => rfl

theorem Has.result_matching (hplain : engine.middleware = []) (input : Value)
    (world : Surroundings) :
    (engine.apply (fieldTest "$matches" conditions) input world).result =
      .ok (.bool (meets conditions input)) :=
  (hhas.computes_matching hdata input).resolved hplain world (.nil world)

theorem Has.result_filtering (hplain : engine.middleware = []) (items : List Value)
    (world : Surroundings) :
    (engine.apply (fieldTest "$filterBy" conditions) (.array items) world).result =
      .ok (.array (items.filter (meets conditions))) :=
  (hhas.computes_filtering hdata items).resolved hplain world (.nil world)

omit hdata in
theorem Has.result_filtering_other (hplain : engine.middleware = []) {input : Value}
    (hinput : input.isArray = false) (world : Surroundings) :
    (engine.apply (fieldTest "$filterBy" conditions) input world).result =
      .error (.domain (.arrayInput "$filterBy")) :=
  (hhas.computes_filtering_other hinput).resolved hplain world (.nil world)

theorem Has.fieldTest_not_unknown (hplain : engine.middleware = [])
    (hname : name ∈ ["$matches", "$filterBy"]) (input : Value) (world : Surroundings)
    (unknown : UnknownOperation) :
    (engine.apply (fieldTest name conditions) input world).result ≠
      .error (.unknownOperation unknown) := by
  simp only [List.mem_cons, List.not_mem_nil, or_false] at hname
  rcases hname with rfl | rfl
  · simp [hhas.result_matching hdata hplain]
  · cases hinput : input.isArray with
    | true =>
      cases input with
      | array items => simp [hhas.result_filtering hdata hplain]
      | _ => cases hinput
    | false => simp [hhas.result_filtering_other hplain hinput]

-- Against any input, a test by fields whose conditions are data meets no unknown operation: it
-- answers, keeps the items that meet the conditions, or fails since there are no items. Validation
-- finds nothing wrong with it, unless it takes the path of the only condition for the name of an
-- operation; then that is all that it reports.
theorem Has.plain_conditions_known (hplain : engine.middleware = []) :
    (∀ input world, (engine.apply (fieldTest "$matches" conditions) input world).result =
      .ok (.bool (meets conditions input))) ∧
    (∀ items world, (engine.apply (fieldTest "$filterBy" conditions) (.array items) world).result =
      .ok (.array (items.filter (meets conditions)))) ∧
    ∀ name ∈ ["$matches", "$filterBy"],
      (∀ input world unknown, (engine.apply (fieldTest name conditions) input world).result ≠
        .error (.unknownOperation unknown)) ∧
      (engine.validate (fieldTest name conditions) = [] ↔
        ∀ path condition, ¬engine.Mistakes conditions path condition) ∧
      ∀ path condition, engine.Mistakes conditions path condition →
        engine.validate (fieldTest name conditions) =
          [UnknownOperation.message ⟨path, condition, engine.names⟩] := by
  have hreports : ∀ name ∈ ["$matches", "$filterBy"], ∀ path condition,
      engine.Mistakes conditions path condition → engine.validate (fieldTest name conditions) =
        [UnknownOperation.message ⟨path, condition, engine.names⟩] := by
    intro name hname path condition hmistakes
    rw [hhas.validate_fieldTest hname, validate, hmistakes.unknowns_eq, List.map_singleton]
  refine ⟨hhas.result_matching hdata hplain, hhas.result_filtering hdata hplain,
    fun name hname => ⟨hhas.fieldTest_not_unknown hdata hplain hname, ⟨?_, ?_⟩,
      hreports name hname⟩⟩
  · intro hvalid path condition hmistakes
    simp [hreports name hname path condition hmistakes] at hvalid
  · intro hnone
    rw [hhas.validate_fieldTest hname, validate, unknowns_of_not_mistakes hdata hnone, List.map_nil]

end Tests

-- A path that begins like the name of an operation is no mistake if it does not stand alone.
theorem wildcard_path_beside_another :
    let conditions : Object := [("$.a", .array [.int 1]), ("b.$", .null)]
    let met : Value := .array [.object [("a", .int 1)]]
    let unmet : Value := .object [("a", .int 2)]
    (ofPacks []).Has ["$matches", "$filterBy"] ∧ (ofPacks []).middleware = [] ∧
      (∀ entry ∈ conditions, entry.2.IsData) ∧
      (ofPacks []).validate (fieldTest "$filterBy" conditions) = [] ∧
      ∀ world, ((ofPacks []).apply (fieldTest "$filterBy" conditions) (.array [met, unmet])
        world).result = .ok (.array [met]) := by
  intro conditions met unmet
  have hhas : (ofPacks []).Has ["$matches", "$filterBy"] := shipped_ofPacks_nil.has (by decide)
  have hdata : ∀ entry ∈ conditions, entry.2.IsData := by
    simp only [conditions, List.forall_mem_cons, List.not_mem_nil, false_implies, implies_true,
      and_true]
    refine ⟨?_, ?_⟩
    · rintro part (_ | ⟨hmem, hpart⟩)
      · rfl
      · obtain rfl := List.mem_singleton.mp hmem
        cases hpart
        rfl
    · rintro part ⟨⟩
      rfl
  obtain ⟨-, hfiltering, hreports⟩ := hhas.plain_conditions_known hdata rfl
  obtain ⟨-, hvalid, -⟩ := hreports "$filterBy" (by simp)
  refine ⟨hhas, rfl, hdata, hvalid.mpr fun path condition hmistakes => ?_, fun world => ?_⟩
  · simpa [conditions] using hmistakes.alone
  · have hmet : meets conditions met = true := by decide +kernel
    have hunmet : meets conditions unmet = false := by decide +kernel
    rw [hfiltering]
    simp [hmet, hunmet]

-- Alone it is taken for the name of an operation, though the test runs.
theorem wildcard_path_mistaken :
    let conditions : Object := [("$.a", .int 1)]
    (ofPacks []).Has ["$matches", "$filterBy"] ∧ (ofPacks []).middleware = [] ∧
      (∀ entry ∈ conditions, entry.2.IsData) ∧
      (∀ world, ((ofPacks []).apply (fieldTest "$matches" conditions) .null world).result =
        .ok (.bool false)) ∧
      (ofPacks []).validate (fieldTest "$matches" conditions) =
        [UnknownOperation.message ⟨"$.a", .int 1, (ofPacks []).names⟩] := by
  intro conditions
  have hhas : (ofPacks []).Has ["$matches", "$filterBy"] := shipped_ofPacks_nil.has (by decide)
  have hdata : ∀ entry ∈ conditions, entry.2.IsData := by
    intro entry hmem part hpart
    obtain rfl := List.mem_singleton.mp hmem
    cases hpart
    rfl
  have hmistakes : (ofPacks []).Mistakes conditions "$.a" (.int 1) := ⟨rfl, by decide, by decide⟩
  have hunmet : meets conditions .null = false := by decide +kernel
  refine ⟨hhas, rfl, hdata, fun world => ?_, ?_⟩
  · rw [← hunmet]
    exact (hhas.computes_matching hdata .null).resolved rfl world (.nil world)
  · rw [hhas.validate_fieldTest (by simp), validate, hmistakes.unknowns_eq, List.map_singleton]

end Engine

end JsonExpr
