import JsonExpr.Proofs.Builtin.Agreement
import JsonExpr.Proofs.Engine.BuiltIn

-- Expressions that never look at the input: resolved against any input or on their own, they come
-- to the same.
namespace JsonExpr

namespace Engine

-- Operations that do not look at the input when they are given a list.
def listOperations : List String :=
  [ "$add", "$subtract", "$multiply", "$divide", "$modulo", "$pow", "$count", "$sum", "$min",
    "$max", "$mean", "$median", "$mode", "$first", "$last", "$coalesce", "$and", "$or" ]

def singleOperations : List String := ["$not", "$isDefined", "$debug"]

def closedOperations : List String :=
  literalName :: "$default" :: "$if" :: "$case" :: (listOperations ++ singleOperations)

-- Closed values are made of scalars, data, and expressions of these operations with closed parts. A
-- clause of a case may be any registered expression, as it is a test of the case value.
inductive Closed (engine : Engine) : Value → Prop where
  | null : Closed engine .null
  | bool (b : Bool) : Closed engine (.bool b)
  | number (n : Number) : Closed engine (.number n)
  | string (s : String) : Closed engine (.string s)
  | array {items : List Value} (h : ∀ item ∈ items, Closed engine item) :
      Closed engine (.array items)
  | object {fields : Fields Value} (hshape : (Value.object fields).hasExpressionShape = false)
      (h : ∀ entry ∈ fields, Closed engine entry.2) : Closed engine (.object fields)
  | literal (value : Value) : Closed engine (.object [(literalName, value)])
  | list {name : String} {items : List Value} (hname : name ∈ listOperations)
      (h : ∀ item ∈ items, Closed engine item) : Closed engine (.object [(name, .array items)])
  | single {name : String} {operand : Value} (hname : name ∈ singleOperations)
      (h : Closed engine operand) : Closed engine (.object [(name, operand)])
  | defaultPair {expression fallback : Value} (hexpression : Closed engine expression)
      (hfallback : Closed engine fallback) :
      Closed engine (.object [("$default", .array [expression, fallback])])
  | defaultFields {fields : Fields Value} {expression fallback : Value}
      (hfields : fields.find? "expression" = some expression ∧
        fields.find? "default" = some fallback)
      (hexpression : Closed engine expression) (hfallback : Closed engine fallback) :
      Closed engine (.object [("$default", .object fields)])
  | ifThenElse {fields : Fields Value}
      (hparts : ∀ key ∈ ["if", "then", "else"], ∀ part, fields.find? key = some part →
        Closed engine part) : Closed engine (.object [("$if", .object fields)])
  | caseOf {fields : Fields Value}
      (hparts : ∀ key ∈ ["value", "default"], ∀ part, fields.find? key = some part →
        Closed engine part)
      (hclauses : ∀ cases, fields.find? "cases" = some (.array cases) →
        ∀ item : Fields Value, .object item ∈ cases → ∀ clause, item.find? "when" = some clause →
          clause.namesOne engine.registers = false → Closed engine clause)
      (hbranches : ∀ cases, fields.find? "cases" = some (.array cases) →
        ∀ item : Fields Value, .object item ∈ cases → ∀ branch, item.find? "then" = some branch →
          Closed engine branch) : Closed engine (.object [("$case", .object fields)])

variable {engine : Engine}

theorem exists_array_of_returns {dispatch : Call → Run Value} {request : Request}
    {items : List Value} (hexpression : request.expression = .array items) {value : Value}
    (h : (engine.resolveWith dispatch request).Returns value) :
    ∃ results, value = .array results := by
  rw [resolveWith, hexpression, Value.fill] at h
  obtain ⟨results, -, hresults⟩ := Run.Returns.of_bind h
  exact ⟨results, hresults.eq_of_done⟩

theorem readsList_or_connective : Builtin.Each id listOperations fun _ operation =>
    operation.ReadsList ∨ operation = Builtin.and ∨ operation = Builtin.or := by
  simp [listOperations, Builtin.operations, Fields.find?, Builtin.binary_readsList,
    Builtin.aggregation_readsList, Builtin.accessor_readsList, Builtin.coalesce_readsList,
    Builtin.add, Builtin.subtract, Builtin.multiply, Builtin.divide, Builtin.modulo, Builtin.pow,
    Builtin.count, Builtin.sum, Builtin.min, Builtin.max, Builtin.mean, Builtin.median,
    Builtin.mode, Builtin.first, Builtin.last]

theorem isOperationName_of_mem {name : String} (h : name ∈ closedOperations) :
    isOperationName name = true := by
  have hall : ∀ name ∈ closedOperations, isOperationName name = true := by decide
  exact hall name h

namespace Closed

theorem mem_of_node {name : String} {operand : Value} (hname : isOperationName name = true)
    (h : engine.Closed (.object [(name, operand)])) : name ∈ closedOperations := by
  cases h with
  | object hshape => simp [Value.hasExpressionShape, Value.expression?, hname] at hshape
  | list hmem => simp [closedOperations, hmem]
  | single hmem => simp [closedOperations, hmem]
  | _ => simp [closedOperations]

theorem exposed {value part : Value} (h : engine.Closed value) (hexposed : value.Exposed part) :
    engine.Closed part := by
  have hnode : ∀ {name operand}, name ∈ closedOperations →
      (Value.object [(name, operand)]).hasExpressionShape = false → False := by
    intro name operand hmem hshape
    simp [Value.hasExpressionShape, Value.expression?, isOperationName_of_mem hmem] at hshape
  induction hexposed with
  | refl => exact h
  | item hmem _ ih =>
    cases h with
    | array h => exact ih (h _ hmem)
  | field hshape hmem _ ih =>
    cases h with
    | object _ h => exact ih (h _ hmem)
    | list hname => exact (hnode (by simp [closedOperations, hname]) hshape).elim
    | single hname => exact (hnode (by simp [closedOperations, hname]) hshape).elim
    | _ => exact (hnode (by simp [closedOperations]) hshape).elim

-- A closed value comes to the same in both modes if its expressions do.
theorem agrees_of_dispatch {levels : Nat} {value : Value} (h : engine.Closed value) (input : Value)
    (hdispatch : ∀ name operand, isOperationName name = true →
      engine.Closed (.object [(name, operand)]) →
      Run.Alike Eq (engine.dispatch levels { name, mode := .apply, operand, input })
        (engine.dispatch levels { name, mode := .evaluate, operand })) :
    value.Agrees (engine.resolveWith (engine.dispatch levels)) input := by
  refine (Run.alikeness Eq).fill value fun hole hmem => ?_
  obtain ⟨hexposed, hshape⟩ := Value.mem_holes_iff.mp hmem
  obtain ⟨name, operand, rfl, hname⟩ := Value.hasExpressionShape_iff.mp hshape
  rw [resolveHole_node _ _ hname, resolveHole_node _ _ hname]
  split
  · exact hdispatch name operand hname (h.exposed hexposed)
  · exact .refl _

section Modes

variable (hhas : engine.Has closedOperations) (hplain : engine.middleware = [])

include hhas hplain

-- One level of dispatches: the two modes come to the same if they do one level down.
theorem dispatch_alike {levels : Nat} {name : String} {operand : Value}
    (hname : isOperationName name = true) (h : engine.Closed (.object [(name, operand)]))
    (ih : ∀ value, engine.Closed value → ∀ input,
      value.Agrees (engine.resolveWith (engine.dispatch levels)) input) (input : Value) :
    Run.Alike Eq (engine.dispatch (levels + 1) { name, mode := .apply, operand, input })
      (engine.dispatch (levels + 1) { name, mode := .evaluate, operand }) := by
  obtain ⟨operation, hfind, hdispatch⟩ := hhas.dispatch_eq hplain (h.mem_of_node hname)
  have hnull := ih .null .null input
  rw [hdispatch, hdispatch]
  refine (Run.note_dispatching_alike _ _).bind_left ?_
  refine (Run.note_dispatching_alike _ _).bind_right ?_
  cases h with
  | object hshape => simp [Value.hasExpressionShape, Value.expression?, hname] at hshape
  | literal =>
    obtain rfl : literalOperation = operation :=
      Option.some.inj (Builtin.find?_literal.symm.trans hfind)
    exact .refl _
  | @list _ items hlist hitems =>
    obtain ⟨found, hfound, hkind⟩ := readsList_or_connective name hlist
    obtain rfl : operation = found := Option.some.inj (hfind.symm.trans hfound)
    rcases hkind with hreads | rfl | rfl
    · exact Builtin.alike_of_readsList hreads (ih _ (.array hitems) input)
        (fun _ => exists_array_of_returns rfl) .null
    · exact Builtin.connective_alike (fun _ _ => Script.every_alike)
        (fun item hitem => ih item (hitems item hitem) input) .null
    · exact Builtin.connective_alike (fun _ _ => Script.any_alike)
        (fun item hitem => ih item (hitems item hitem) input) .null
  | single hsingle hoperand =>
    have hagrees := ih operand hoperand input
    simp only [singleOperations, List.mem_cons, List.not_mem_nil, or_false] at hsingle
    rcases hsingle with rfl | rfl | rfl
    · obtain rfl : Builtin.not = operation := by
        simpa [Builtin.operations, Fields.find?] using hfind
      exact Builtin.not_alike hagrees .null
    · obtain rfl : Builtin.isDefined = operation := by
        simpa [Builtin.operations, Fields.find?] using hfind
      exact Builtin.isDefined_alike hagrees .null
    · obtain rfl : Builtin.debug = operation := by
        simpa [Builtin.operations, Fields.find?] using hfind
      exact Builtin.debug_alike hagrees .null
  | defaultPair hexpression hfallback =>
    obtain rfl : Builtin.defaultTo = operation := by
      simpa [Builtin.operations, Fields.find?] using hfind
    exact Builtin.defaultTo_alike rfl (ih _ hexpression input) (ih _ hfallback input) .null
  | defaultFields hfields hexpression hfallback =>
    obtain rfl : Builtin.defaultTo = operation := by
      simpa [Builtin.operations, Fields.find?] using hfind
    exact Builtin.defaultTo_alike (by simp [Builtin.defaultParts, hfields]) (ih _ hexpression input)
      (ih _ hfallback input) .null
  | ifThenElse hparts =>
    obtain rfl : Builtin.ifThenElse = operation := by
      simpa [Builtin.operations, Fields.find?] using hfind
    refine Builtin.ifThenElse_alike hnull ?_ .null
    rintro fields ⟨⟩ key hkey part hpart
    exact ih part (hparts key hkey part hpart) input
  | caseOf hparts hclauses hbranches =>
    obtain rfl : Builtin.caseOf = operation :=
      Option.some.inj (Builtin.find?_case.symm.trans hfind)
    refine Builtin.caseOf_alike hnull ?_ ?_ ?_ .null
    · rintro fields ⟨⟩ key hkey part hpart
      exact ih part (hparts key hkey part hpart) input
    · rintro fields cases ⟨⟩ hcases item hitem clause hclause htest
      refine ih clause ?_ input
      -- a registered clause that is no test is data behind the literal escape
      cases hregistered : clause.namesOne engine.registers with
      | false => exact hclauses cases hcases item hitem clause hclause hregistered
      | true =>
        obtain ⟨_, value, rfl, -, hliteral⟩ := Value.namesOne_iff.mp (htest hregistered)
        rw [beq_iff_eq.mp hliteral]
        exact .literal value
    · rintro fields cases ⟨⟩ hcases item hitem branch hbranch
      exact ih branch (hbranches cases hcases item hitem branch hbranch) input

theorem agrees {levels : Nat} {value : Value} (h : engine.Closed value) (input : Value) :
    value.Agrees (engine.resolveWith (engine.dispatch levels)) input := by
  induction levels generalizing value input with
  | zero => exact h.agrees_of_dispatch input fun _ _ _ _ => .refl _
  | succ levels ih =>
    refine h.agrees_of_dispatch input fun name operand hname hnode => ?_
    exact hnode.dispatch_alike hhas hplain hname (fun value hvalue input => ih hvalue input) input

-- Applying a closed value to any input and evaluating it come to the same value or the same
-- failure, with the same log.
theorem apply_alike_evaluate {value : Value} (h : engine.Closed value) (input : Value)
    (world : Surroundings) :
    (engine.apply value input world).result = (engine.evaluate value world).result ∧
      (engine.apply value input world).after = (engine.evaluate value world).after ∧
      Event.log false (engine.apply value input world).events =
        Event.log false (engine.evaluate value world).events := by
  have hagrees : value.Agrees
      (engine.resolveWith (engine.dispatch (value.depth + allowance))) input :=
    h.agrees hhas hplain input
  obtain ⟨hresult, hafter, hlog⟩ := hagrees world
  exact ⟨similarResults_eq_iff.mp hresult, hafter, hlog⟩

end Modes

-- The clause here is a test that reads the case value, and only one branch is resolved and logged.
theorem case_of_sum_agrees :
    let value := Value.object [("$case", .object [
      ("value", .object [("$add", .array [.int 1, .int 2])]),
      ("cases", .array [.object [
        ("when", .object [("$gt", .int 2)]),
        ("then", .object [("$debug", .object [("$last", .array [.null, .string "more"])])])]]),
      ("default", .object [(literalName, .object [("$get", .string "x")])])])]
    complete.Has closedOperations ∧ complete.middleware = [] ∧ complete.Closed value ∧
      (complete.apply value (.int 7) ⟨mkStdGen 0, default⟩).result =
        (complete.evaluate value ⟨mkStdGen 0, default⟩).result := by
  intro value
  have hhas : complete.Has closedOperations := complete_has (by decide)
  have hclosed : complete.Closed value := by
    refine .caseOf ?_ ?_ ?_
    · simp only [List.mem_cons, List.not_mem_nil, or_false]
      rintro key (rfl | rfl) part ⟨⟩
      · exact .list (by decide) (by simp [Closed.number])
      · exact .literal _
    · rintro cases ⟨⟩ item hitem clause hclause hregistered
      cases List.mem_singleton.mp hitem
      cases hclause
      exact absurd hregistered (by decide)
    · rintro cases ⟨⟩ item hitem branch hbranch
      cases List.mem_singleton.mp hitem
      cases hbranch
      exact .single (by decide) (.list (by decide) (by simp [Closed.null, Closed.string]))
  exact ⟨hhas, rfl, hclosed, (hclosed.apply_alike_evaluate hhas rfl (.int 7) _).1⟩

end Closed

end Engine

end JsonExpr
